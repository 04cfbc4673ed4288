import CloudAudit.Text.Blank
import CloudAudit.Text.Category
import CloudAudit.Text.Script
import CloudAudit.Text.Property
import CloudAudit.Text.CaseFold
/-!
# Sets of characters

The sets that a pattern can ask for at one place, kept as the operations that build them.
Membership is decided on code points, so a set has no canonical form and needs none.
-/
set_option autoImplicit false

namespace CloudAudit.Pattern

inductive CharSet where
  | ranges (list : Text.Ranges)
  | other (set : CharSet)
  | either (left right : CharSet)
  | both (left right : CharSet)
  /-- The characters that are the same up to case as one in the set. -/
  | anyCase (set : CharSet)
  deriving Repr, Inhabited

namespace CharSet

def has : CharSet → Nat → Bool
  | .ranges list, code => list.has code
  | .other set, code => !set.has code
  | .either left right, code => left.has code || right.has code
  | .both left right, code => left.has code && right.has code
  | .anyCase set, code => set.has code || (Text.sameUpToCase code).any set.has

def weight : CharSet → Nat
  | .ranges list => list.length
  | .other set => set.weight
  | .either left right => left.weight + right.weight
  | .both left right => left.weight + right.weight
  | .anyCase set => 2 * set.weight

def nothing : CharSet := .ranges []

def anything : CharSet := .other nothing

def only (c : Char) : CharSet := .ranges [(c.toNat, c.toNat)]

/-- The characters of two sets that are in one of them only. -/
def oneOf (left right : CharSet) : CharSet :=
  .either (.both left (.other right)) (.both right (.other left))

def ascii : CharSet := .ranges [(0, 0x7F)]

def asciiWord : CharSet := .ranges [(0x30, 0x39), (0x41, 0x5A), (0x5F, 0x5F), (0x61, 0x7A)]

def asciiSpace : CharSet := .ranges [(0x09, 0x0D), (0x20, 0x20)]

def asciiDigit : CharSet := .ranges [(0x30, 0x39)]

/-- A binary property by its name in lower case. -/
def property (name : String) : CharSet := .ranges ((Text.propertyRanges? name).getD [])

def space : CharSet := property "whitespace"

def digit : CharSet := .ranges (Text.baseRanges "Nd")

/-- Characters of words: letters, marks, digits, connectors and joiners. -/
def word : CharSet :=
  .either asciiWord
    (.either (property "alphabetic")
      (.either (.ranges (Text.rangesOfAll ["Mn", "Mc", "Me", "Nd", "Pc"])) (property "joinc")))

/-- The ASCII classes that have a name in square brackets. -/
def named? : String → Option CharSet
  | "alnum" => some (.ranges [(0x30, 0x39), (0x41, 0x5A), (0x61, 0x7A)])
  | "alpha" => some (.ranges [(0x41, 0x5A), (0x61, 0x7A)])
  | "ascii" => some ascii
  | "blank" => some (.ranges [(0x09, 0x09), (0x20, 0x20)])
  | "cntrl" => some (.ranges [(0x00, 0x1F), (0x7F, 0x7F)])
  | "digit" => some asciiDigit
  | "graph" => some (.ranges [(0x21, 0x7E)])
  | "lower" => some (.ranges [(0x61, 0x7A)])
  | "print" => some (.ranges [(0x20, 0x7E)])
  | "punct" => some (.ranges [(0x21, 0x2F), (0x3A, 0x40), (0x5B, 0x60), (0x7B, 0x7E)])
  | "space" => some asciiSpace
  | "upper" => some (.ranges [(0x41, 0x5A)])
  | "word" => some asciiWord
  | "xdigit" => some (.ranges [(0x30, 0x39), (0x41, 0x46), (0x61, 0x66)])
  | _ => none

/-- The name of a property in lower case, without separators and a leading `is`. -/
def propertyName (name : String) : String :=
  let isLead : Char → Char → Bool := fun a b => a.toLower == 'i' && b.toLower == 's'
  let (behind, rest) : Bool × List Char :=
    match name.toList with
    | a :: b :: rest => if isLead a b then (true, rest) else (false, a :: b :: rest)
    | rest => (false, rest)
  let kept := (rest.filter fun c => c.toNat ≤ 0x7F && c != ' ' && c != '_' && c != '-').map
    Char.toLower
  if behind && kept == ['c'] then "isc" else .ofList kept

def assigned : CharSet := .ranges (Text.rangesOfAll Text.assignedCategories)

def category? (name : String) : Option CharSet :=
  if name == "any" then some anything
  else if name == "assigned" then some assigned
  else if name == "ascii" then some ascii
  else
    (Text.categoryNames.lookup name).map fun short =>
      if short == "Cn" then .other assigned
      else if short == "C" then
        .either (.other assigned) (.ranges (Text.rangesOfAll ["Cc", "Cf", "Cs", "Co"]))
      else
        match Text.categoryGroups.lookup short with
        | some members => .ranges (Text.rangesOfAll members)
        | none => .ranges (Text.baseRanges short)

/-- A property, a general category or a script by one name. A few short names mean the category
although a property has them too. -/
def byName? (name : String) : Option CharSet :=
  let normal := propertyName name
  let asProperty :=
    if normal == "cf" || normal == "sc" || normal == "lc" then none
    else (Text.propertyRanges? normal).map .ranges
  match asProperty with
  | some set => some set
  | none =>
    match category? normal with
    | some set => some set
    | none => (Text.scriptRanges? normal).map .ranges

/-- A general category or a script by the name of the property and its value. -/
def byValue? (name value : String) : Option CharSet :=
  match propertyName name with
  | "gc" | "generalcategory" => category? (propertyName value)
  | "sc" | "script" | "scx" | "scriptextensions" =>
    (Text.scriptRanges? (propertyName value)).map .ranges
  | _ => none

end CharSet

end CloudAudit.Pattern
