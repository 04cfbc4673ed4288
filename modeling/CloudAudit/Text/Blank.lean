/-!
# Blank characters and cutting text

`isBlank` is the Unicode property `White_Space`, `trim` removes blanks at both ends. The other
functions cut a text at a character or a leading word.
-/
set_option autoImplicit false

namespace CloudAudit.Text

/-- Characters with the Unicode property `White_Space`. -/
def isBlank (c : Char) : Bool :=
  let code := c.toNat
  (0x09 ≤ code && code ≤ 0x0D) || code == 0x20 || code == 0x85 || code == 0xA0 || code == 0x1680
    || (0x2000 ≤ code && code ≤ 0x200A) || code == 0x2028 || code == 0x2029 || code == 0x202F
    || code == 0x205F || code == 0x3000

def strip (drop : Char → Bool) (text : List Char) : List Char :=
  ((text.dropWhile drop).reverse.dropWhile drop).reverse

def trim (text : String) : String :=
  .ofList (strip isBlank text.toList)

def allBlank (text : String) : Bool :=
  text.toList.all isBlank

def dropLeading? : List Char → List Char → Option (List Char)
  | [], text => some text
  | _ :: _, [] => none
  | lead :: leads, c :: text => if lead == c then dropLeading? leads text else none

/-- A text without one occurrence of `lead` at its start, if there is one. -/
def dropLeading (lead text : String) : String :=
  match dropLeading? lead.toList text.toList with
  | some rest => .ofList rest
  | none => text

def cutAt (mark : Char) : List Char → Option (List Char × List Char)
  | [] => none
  | c :: text =>
    if c == mark then some ([], text)
    else (cutAt mark text).map fun (before, after) => (c :: before, after)

/-- The pieces of a text between the occurrences of a character; one piece more than marks. -/
def pieces (mark : Char) : List Char → List (List Char)
  | [] => [[]]
  | c :: text =>
    if c == mark then [] :: pieces mark text
    else
      match pieces mark text with
      | [] => [[c]]
      | piece :: more => (c :: piece) :: more

def lower (text : String) : String :=
  .ofList (text.toList.map Char.toLower)

def listed (text : String) : List String :=
  ((pieces ',' text.toList).map fun piece => String.ofList (strip isBlank piece)).filter
    fun piece => !piece.isEmpty

def digit? (c : Char) : Option Nat :=
  if '0' ≤ c ∧ c ≤ '9' then some (c.toNat - '0'.toNat) else none

def hexDigit? (c : Char) : Option Nat :=
  if '0' ≤ c ∧ c ≤ '9' then some (c.toNat - '0'.toNat)
  else if 'a' ≤ c ∧ c ≤ 'f' then some (c.toNat - 'a'.toNat + 10)
  else if 'A' ≤ c ∧ c ≤ 'F' then some (c.toNat - 'A'.toNat + 10)
  else none

def hexDigit (value : Nat) : Char :=
  if value < 10 then Char.ofNat ('0'.toNat + value) else Char.ofNat ('a'.toNat + (value - 10))

/-- The value of a list of digits in a base, the most significant first. -/
def valueIn (base : Nat) (digits : List Nat) : Nat :=
  digits.foldl (fun value digit => value * base + digit) 0

def leadingDigits : List Char → List Nat × List Char
  | [] => ([], [])
  | c :: text =>
    match digit? c with
    | some value =>
      let (digits, rest) := leadingDigits text
      (value :: digits, rest)
    | none => ([], c :: text)

def decimal? (text : List Char) : Option Nat :=
  match text with
  | [] => none
  | _ => (text.mapM digit?).map (valueIn 10)

/-- A number in decimal, padded with zeros to at least `width` digits. -/
def padded (width value : Nat) : String :=
  let digits := toString value
  .ofList (List.replicate (width - digits.length) '0' ++ digits.toList)

end CloudAudit.Text
