import CloudAudit.Pattern.Match
import CloudAudit.Pattern.Parser
import CloudAudit.Pattern.Template
/-!
# Patterns and replacement

A compiled `Pattern` and `Pattern.replaceAll`, which puts a template in the place of each match
from left to right. Matches do not overlap, and an empty one does not follow another match at once.
-/
set_option autoImplicit false

namespace CloudAudit

structure Pattern where
  node : Pattern.Node
  groupCount : Nat
  names : List (String × Nat)
  deriving Repr, Inhabited

namespace Pattern

/-- Patterns that stand for larger automata are refused. -/
def maxWeight : Nat := 10485760

def compile? (text : String) : Option Pattern := do
  let (node, reading) ← read? text
  if node.weight ≤ maxWeight then return ⟨node, reading.groups, reading.names⟩ else none

def slice (text : List Char) (start stop : Nat) : List Char :=
  (text.drop start).take (stop - start)

def groupText (text : List Char) (start : Nat) (found : Found) (group : Nat) : List Char :=
  if group == 0 then slice text start found.stop
  else
    match found.marks.lookup (.opened group), found.marks.lookup (.closed group) with
    | some opened, some closed => slice text opened closed
    | _, _ => []

def namedText (pattern : Pattern) (text : List Char) (start : Nat) (found : Found)
    (name : String) : List Char :=
  match pattern.names.lookup name with
  | some group => groupText text start found group
  | none => []

def replacement (pattern : Pattern) (template : Template) (text : List Char) (start : Nat)
    (found : Found) : List Char :=
  template.expand (groupText text start found) (pattern.namedText text start found)

/-- The match that counts at a place: none inside the match before, and no empty one right at its
end. -/
def counted? (index resume : Nat) (lastStop : Option Nat) (found : Option Found) : Option Found :=
  if index < resume then none
  else
    match found with
    | some found => if found.stop == index && lastStop == some index then none else some found
    | none => none

/-- The rest of a text with its matches replaced. `resume` is where the match before stopped, up
to which characters are left out, and `lastStop` the same if there was a match. -/
def replaceFrom (replace : Nat → Found → List Char) (index resume : Nat) (lastStop : Option Nat) :
    List Char → Row → List Char
  | [], row =>
    match counted? index resume lastStop row.head?.join with
    | some found => replace index found
    | none => []
  | c :: text, row =>
    match counted? index resume lastStop row.head?.join with
    | some found =>
      let kept := if found.stop == index then [c] else []
      replace index found
        ++ (kept ++ replaceFrom replace (index + 1) found.stop (some found.stop) text row.tail)
    | none =>
      let kept := if index < resume then [] else [c]
      kept ++ replaceFrom replace (index + 1) resume lastStop text row.tail

def replaceAll (pattern : Pattern) (template : Template) (source : String) : String :=
  let text := source.toList
  .ofList (replaceFrom (pattern.replacement template text) 0 0 none text
    (pattern.node.found text))

end Pattern

end CloudAudit
