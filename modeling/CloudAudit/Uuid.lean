import CloudAudit.Text.Blank
/-!
# Unique identifiers

A `Uuid` is 128 bits. It is written as lower-case hexadecimal digits in groups of 8, 4, 4, 4 and
12; it is read in either case, grouped or not, and a grouped one also in braces or behind
`urn:uuid:`.
-/
set_option autoImplicit false

namespace CloudAudit

structure Uuid where
  bits : BitVec 128
  deriving DecidableEq, Repr, Inhabited

namespace Uuid

def groups : List Nat := [8, 4, 4, 4, 12]

def digits (id : Uuid) : List Nat :=
  (List.range 32).map fun place => id.bits.toNat / Nat.pow 16 (31 - place) % 16

def hyphenate : List Nat → List Char → List Char
  | [], _ => []
  | [size], text => text.take size
  | size :: sizes, text => text.take size ++ '-' :: hyphenate sizes (text.drop size)

def text (id : Uuid) : String :=
  .ofList (hyphenate groups (id.digits.map Text.hexDigit))

/-- Characters without the hyphens between groups of the given lengths. -/
def ungroup? : List Nat → List Char → Option (List Char)
  | [], _ => none
  | [size], text => if text.length == size then some text else none
  | size :: sizes, text =>
    match text.drop size with
    | '-' :: rest => (ungroup? sizes rest).map (text.take size ++ ·)
    | _ => none

def ofDigits? (text : List Char) : Option Uuid :=
  if text.length == 32 then
    (text.mapM Text.hexDigit?).map fun digits => ⟨BitVec.ofNat 128 (Text.valueIn 16 digits)⟩
  else none

/-- The grouped form without what may surround it. -/
def unwrap (text : List Char) : List Char :=
  match Text.dropLeading? "urn:uuid:".toList text with
  | some rest => rest
  | none =>
    match text with
    | '\x7b' :: rest => if rest.getLast? == some '\x7d' then rest.dropLast else text
    | _ => text

def ofText? (source : String) : Option Uuid :=
  let text := source.toList
  if text.length == 32 then ofDigits? text
  else (ungroup? groups (unwrap text)).bind ofDigits?

end Uuid

end CloudAudit
