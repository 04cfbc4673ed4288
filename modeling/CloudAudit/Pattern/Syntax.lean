import CloudAudit.Pattern.CharSet
/-!
# Patterns

A pattern as a tree: sets of characters, conditions on a place, groups, sequences, choices and
repetitions. Of two ways to match, the one that is written first is preferred.
-/
set_option autoImplicit false

namespace CloudAudit.Pattern

inductive Look where
  | textStart
  | textEnd
  | lineStart
  | lineEnd
  /-- Lines that end in a line feed, a carriage return or both. -/
  | eitherLineStart
  | eitherLineEnd
  /-- Exactly one side is a character of a word. -/
  | wordEdge (word : CharSet)
  | notWordEdge (word : CharSet)
  | wordStart (word : CharSet)
  | wordEnd (word : CharSet)
  | beforeNotWord (word : CharSet)
  | afterNotWord (word : CharSet)
  deriving Repr, Inhabited

inductive Node where
  | empty
  | set (chars : CharSet)
  | look (condition : Look)
  | group (index : Nat) (body : Node)
  | sequence (first second : Node)
  | choice (first second : Node)
  /-- `body` from `least` times to `most` times, or without end; more rounds are preferred when
  `greedy`, fewer otherwise. -/
  | rounds (least : Nat) (most : Option Nat) (greedy : Bool) (body : Node)
  deriving Repr, Inhabited

namespace Node

def ofSequence : List Node → Node
  | [] => .empty
  | [node] => node
  | node :: nodes => .sequence node (ofSequence nodes)

def ofChoice : List Node → Node
  | [] => .empty
  | [node] => node
  | node :: nodes => .choice node (ofChoice nodes)

/-- A measure of the automaton that a pattern stands for, in bytes. -/
def weight : Node → Nat
  | .empty => 32
  | .set (.ranges [_]) => 32
  | .set chars => 32 + 64 * chars.weight
  | .look _ => 32
  | .group _ body => 64 + body.weight
  | .sequence first second => first.weight + second.weight
  | .choice first second => 32 + first.weight + second.weight
  | .rounds least most _ body => 32 + body.weight * (most.getD (least + 1)).max 1

end Node

end CloudAudit.Pattern
