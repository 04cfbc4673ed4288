import CloudAudit.Pattern.Syntax
/-!
# Matching

A text of `n` characters has `n + 1` places. A `Row` says for each place, from left to right, which
match is preferred when the rest of the work starts there. A pattern turns the row of what follows
it into its own row: `Node.row`. So every choice is decided by preference, all places are answered
at once, and no way to match is tried twice.
-/
set_option autoImplicit false

namespace CloudAudit.Pattern

/-- A place in a text: how many characters stand before it, the last of them, and the rest. -/
structure Place where
  index : Nat
  before : Option Char
  rest : List Char
  deriving Repr

namespace Place

def listFrom (index : Nat) (before : Option Char) : List Char → List Place
  | [] => [⟨index, before, []⟩]
  | c :: text => ⟨index, before, c :: text⟩ :: listFrom (index + 1) (some c) text

def all (text : List Char) : List Place :=
  listFrom 0 none text

def endsIn (place : Place) (set : CharSet) : Bool :=
  match place.before with
  | some c => set.has c.toNat
  | none => false

def startsIn (place : Place) (set : CharSet) : Bool :=
  match place.rest with
  | c :: _ => set.has c.toNat
  | [] => false

def meets (place : Place) : Look → Bool
  | .textStart => place.before.isNone
  | .textEnd => place.rest.isEmpty
  | .lineStart => place.before.isNone || place.before == some '\n'
  | .lineEnd => place.rest.isEmpty || place.rest.head? == some '\n'
  | .eitherLineStart =>
    place.before.isNone || place.before == some '\n'
      || (place.before == some '\r' && place.rest.head? != some '\n')
  | .eitherLineEnd =>
    place.rest.isEmpty || place.rest.head? == some '\r'
      || (place.rest.head? == some '\n' && place.before != some '\r')
  | .wordEdge word => place.endsIn word != place.startsIn word
  | .notWordEdge word => place.endsIn word == place.startsIn word
  | .wordStart word => !place.endsIn word && place.startsIn word
  | .wordEnd word => place.endsIn word && !place.startsIn word
  | .beforeNotWord word => !place.endsIn word
  | .afterNotWord word => !place.startsIn word

end Place

inductive Mark where
  | opened (group : Nat)
  | closed (group : Nat)
  deriving DecidableEq, Repr

/-- A match: where it stops, and the places of the groups that took part. -/
structure Found where
  stop : Nat
  marks : List (Mark × Nat)
  deriving DecidableEq, Repr

namespace Found

/-- A match with one more place. A round further to the right has already said its own. -/
def note (mark : Mark) (index : Nat) (found : Found) : Found :=
  if found.marks.any fun entry => entry.1 == mark then found
  else { found with marks := (mark, index) :: found.marks }

end Found

/-- The preferred match from each place of a text, from left to right. -/
abbrev Row := List (Option Found)

namespace Row

def orElse (preferred fallback : Row) : Row :=
  List.zipWith (fun first second => first.or second) preferred fallback

def afterChar (chars : CharSet) : List Place → Row → Row
  | place :: places, _ :: later =>
    (if place.startsIn chars then later.head?.join else none) :: afterChar chars places later
  | _, _ => []

def holding (condition : Look) (places : List Place) (row : Row) : Row :=
  List.zipWith (fun place found => if place.meets condition then found else none) places row

def noting (mark : Nat → Mark) (group : Nat) (places : List Place) (row : Row) : Row :=
  List.zipWith (fun (place : Place) found => found.map (Found.note (mark group) place.index))
    places row

/-- Rounds without end. For each place: the match with one more round at least, and the preferred
one of that and leaving. A round that took no character is not followed by another one. -/
def endless (greedy : Bool) (body : List Place → Row → Row) :
    List Place → Row → List (Option Found × Option Found)
  | place :: places, leave :: leaving =>
    let later := endless greedy body places leaving
    let again := (body (place :: places) (leave :: later.map (·.2))).head?.join
    (again, if greedy then again.or leave else leave.or again) :: later
  | _, _ => []

def exactly (body : Row → Row) : Nat → Row → Row
  | 0, row => row
  | count + 1, row => body (exactly body count row)

def upTo (greedy : Bool) (body : Row → Row) (leave : Row) : Nat → Row
  | 0 => leave
  | count + 1 =>
    let again := body (upTo greedy body leave count)
    if greedy then again.orElse leave else leave.orElse again

end Row

namespace Node

/-- The row of a pattern, given the row of what follows it. -/
def row : Node → List Place → Row → Row
  | .empty, _, after => after
  | .set chars, places, after => Row.afterChar chars places after
  | .look condition, places, after => Row.holding condition places after
  | .group index body, places, after =>
    Row.noting .opened index places
      (body.row places (Row.noting .closed index places after))
  | .sequence first second, places, after => first.row places (second.row places after)
  | .choice first second, places, after =>
    (first.row places after).orElse (second.row places after)
  | .rounds least (some most) greedy body, places, after =>
    Row.exactly (body.row places) least (Row.upTo greedy (body.row places) after (most - least))
  | .rounds 0 none greedy body, places, after =>
    (Row.endless greedy body.row places after).map (·.2)
  | .rounds (least + 1) none greedy body, places, after =>
    Row.exactly (body.row places) least
      ((Row.endless greedy body.row places after).map (·.1))

def found (node : Node) (text : List Char) : Row :=
  let places := Place.all text
  node.row places (places.map fun place => some ⟨place.index, []⟩)

end Node

end CloudAudit.Pattern
