import CloudAudit.Text.Blank
/-!
# Templates

What replaces a match: text, and references to groups. A reference is a dollar sign and the longest
run of letters, digits and underscores, or any name in braces; two dollar signs stand for one, and
a dollar sign that starts no reference for itself.
-/
set_option autoImplicit false

namespace CloudAudit.Pattern

inductive Part where
  | char (c : Char)
  | numbered (group : Nat)
  | named (group : String)
  deriving DecidableEq, Repr

abbrev Template := List Part

namespace Template

def isNameChar (c : Char) : Bool :=
  c.isAlphanum || c == '_'

/-- The reference that a name makes: a number below 2^64 counts groups, with a plus sign or not. -/
def reference (name : List Char) : Part :=
  let digits := match name with
    | '+' :: digits => digits
    | _ => name
  match Text.decimal? digits with
  | some group => if group < 18446744073709551616 then .numbered group else .named (.ofList name)
  | none => .named (.ofList name)

/-- A reference behind its dollar sign, and how many characters it takes. -/
def reference? : List Char → Option (Part × Nat)
  | '\x7b' :: text =>
    match Text.cutAt '\x7d' text with
    | some (name, _) => some (reference name, name.length + 2)
    | none => none
  | text =>
    match text.takeWhile isNameChar with
    | [] => none
    | name => some (reference name, name.length)

def partsFrom (passed : Nat) : List Char → Template
  | [] => []
  | c :: text =>
    match passed with
    | passed + 1 => partsFrom passed text
    | 0 =>
      if c != '$' then .char c :: partsFrom 0 text
      else if text.head? == some '$' then .char '$' :: partsFrom 1 text
      else
        match reference? text with
        | some (part, length) => part :: partsFrom length text
        | none => .char '$' :: partsFrom 0 text

def ofText (text : String) : Template :=
  partsFrom 0 text.toList

def expand (numbered : Nat → List Char) (named : String → List Char) (template : Template) :
    List Char :=
  template.flatMap fun part =>
    match part with
    | .char c => [c]
    | .numbered group => numbered group
    | .named group => named group

end Template

end CloudAudit.Pattern
