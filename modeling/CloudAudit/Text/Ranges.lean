/-!
# Ranges of code points

The tables of Unicode properties are written as gaps and lengths in base 36: the distance from the
end of the range before, then the distance from the first to the last code point of the range.
-/
set_option autoImplicit false

namespace CloudAudit.Text

abbrev Ranges := List (Nat × Nat)

def Ranges.has (ranges : Ranges) (code : Nat) : Bool :=
  ranges.any fun range => range.1 ≤ code && code ≤ range.2

def digit36 (c : Char) : Nat :=
  if c.isDigit then c.toNat - '0'.toNat else c.toNat - 'a'.toNat + 10

/-- The numbers of a text in base 36, separated by spaces; `value` is the number under way. -/
def numbers36 (value : Nat) : List Char → List Nat
  | [] => [value]
  | ' ' :: text => value :: numbers36 0 text
  | c :: text => numbers36 (value * 36 + digit36 c) text

/-- The ranges of gaps and lengths after a code point. -/
def rangesAfter (last : Nat) : List Nat → Ranges
  | gap :: length :: more =>
    (last + gap, last + gap + length) :: rangesAfter (last + gap + length) more
  | _ => []

def decodeRanges (text : String) : Ranges :=
  rangesAfter 0 (numbers36 0 text.toList)

end CloudAudit.Text
