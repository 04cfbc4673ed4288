import CloudAudit.Text.Blank
import CloudAudit.Json.Value
/-!
# Reading JSON as far as it goes

A reader of typed values meets a text from left to right, so of two faults the one that stands
first decides. `Draft` is a text read as far as it is JSON: the values that could be read, and a
mark at the place where it stops being JSON. `Draft.ofText` never fails; `Draft.complete` says
whether the whole text was one value.
-/
set_option autoImplicit false

namespace CloudAudit

/-- A JSON text read as far as it is JSON. -/
inductive Draft where
  /-- No value could be read here. -/
  | broken
  | null
  | bool (value : Bool)
  /-- A number written without fraction and exponent; a negative zero is not one. -/
  | whole (value : Int)
  /-- Any other number that fits a double. -/
  | fraction
  /-- A number too large for a double. -/
  | unbounded
  | string (value : String)
  /-- A string with a surrogate escape that has no partner; it stands for no text. -/
  | unpaired
  /-- The items read; `closed` when the closing bracket was there. -/
  | array (items : List Draft) (closed : Bool)
  /-- The fields read; a key without text is one with an unpaired surrogate. -/
  | object (fields : List (Option String × Draft)) (closed : Bool)
  deriving Repr, Inhabited

namespace Draft

def isSpace (c : Char) : Bool :=
  c == ' ' || c == '\n' || c == '\t' || c == '\r'

def skipSpace (text : List Char) : List Char :=
  text.dropWhile isSpace

def hex4? : List Char → Option (Nat × List Char)
  | a :: b :: c :: d :: text => do
    let digits ← [a, b, c, d].mapM Text.hexDigit?
    return (Text.valueIn 16 digits, text)
  | _ => none

/-- A unit of a quoted string: a character, or half of a surrogate pair. -/
inductive Piece where
  | char (c : Char)
  | high (unit : Nat)
  | low (unit : Nat)

def Piece.ofCode (code : Nat) : Piece :=
  if 0xD800 ≤ code ∧ code < 0xDC00 then .high code
  else if 0xDC00 ≤ code ∧ code < 0xE000 then .low code
  else .char (Char.ofNat code)

def shortEscape? (c : Char) : Option Char :=
  match c with
  | '"' => some '"'
  | '\\' => some '\\'
  | '/' => some '/'
  | 'b' => some '\x08'
  | 'f' => some '\x0c'
  | 'n' => some '\n'
  | 'r' => some '\r'
  | 't' => some '\t'
  | _ => none

def pieces? (fuel : Nat) (text : List Char) : Option (List Piece × List Char) :=
  match fuel, text with
  | 0, _ => none
  | _, [] => none
  | _, '"' :: rest => some ([], rest)
  | fuel + 1, '\\' :: 'u' :: rest => do
    let (code, rest) ← hex4? rest
    let (units, rest) ← pieces? fuel rest
    return (.ofCode code :: units, rest)
  | fuel + 1, '\\' :: c :: rest => do
    let c ← shortEscape? c
    let (units, rest) ← pieces? fuel rest
    return (.char c :: units, rest)
  | fuel + 1, c :: rest =>
    if c.toNat < 0x20 || c == '\\' then none
    else do
      let (units, rest) ← pieces? fuel rest
      return (.char c :: units, rest)

def pair (high low : Nat) : Char :=
  Char.ofNat (0x10000 + (high - 0xD800) * 0x400 + (low - 0xDC00))

def join? : List Piece → Option (List Char)
  | [] => some []
  | .char c :: units => (join? units).map (c :: ·)
  | .high high :: .low low :: units => (join? units).map (pair high low :: ·)
  | .high _ :: _ => none
  | .low _ :: _ => none

/-- A string whose opening quote is behind: its text, if it stands for one, and what follows. -/
def string? (text : List Char) : Option (Option String × List Char) :=
  (pieces? (text.length + 1) text).map fun (units, rest) =>
    ((join? units).map String.ofList, rest)

/-- Numbers from here on round to infinity: 2^1024 less half a unit in the last place. -/
def doubleBound : Nat := Nat.pow 2 1024 - Nat.pow 2 970

/-- Whether `mantissa * 10^exponent` is too large for a double. `digits` bounds the length of the
mantissa, so that no huge power is computed. -/
def isUnbounded (mantissa digits : Nat) (exponent : Int) : Bool :=
  if mantissa == 0 then false
  else if exponent + digits < 300 then false
  else if exponent > 400 then true
  else if 0 ≤ exponent then mantissa * Nat.pow 10 exponent.toNat ≥ doubleBound
  else mantissa ≥ doubleBound * Nat.pow 10 (-exponent).toNat

def fraction? : List Char → Option (List Nat × List Char)
  | '.' :: text =>
    match Text.leadingDigits text with
    | ([], _) => none
    | found => some found
  | text => some ([], text)

/-- The exponent of a number and what follows; the first part says whether there is one. -/
def exponent? : List Char → Option (Bool × Int × List Char)
  | c :: text =>
    if c == 'e' || c == 'E' then
      let (negative, text) : Bool × List Char :=
        match text with
        | '-' :: text => (true, text)
        | '+' :: text => (false, text)
        | text => (false, text)
      match Text.leadingDigits text with
      | ([], _) => none
      | (digits, rest) =>
        let size : Int := Text.valueIn 10 digits
        some (true, if negative then -size else size, rest)
    else some (false, 0, c :: text)
  | [] => some (false, 0, [])

def wholePart? (text : List Char) : Option (List Nat × List Char) :=
  match Text.leadingDigits text with
  | ([], _) => none
  | (0 :: _ :: _, _) => none
  | found => some found

def magnitude? (negative : Bool) (text : List Char) : Option (Draft × List Char) := do
  let (units, text) ← wholePart? text
  let (part, text) ← fraction? text
  let (hasExponent, exponent, text) ← exponent? text
  let digits := units ++ part
  let mantissa := Text.valueIn 10 digits
  let value : Draft :=
    if isUnbounded mantissa digits.length (exponent - part.length) then .unbounded
    else if !part.isEmpty || hasExponent then .fraction
    else if negative then (if mantissa == 0 then .fraction else .whole (-mantissa))
    else .whole mantissa
  return (value, text)

def number? : List Char → Option (Draft × List Char)
  | '-' :: text => magnitude? true text
  | text => magnitude? false text

def word (rest : String) (value : Draft) (text : List Char) : Draft × Option (List Char) :=
  match Text.dropLeading? rest.toList text with
  | some text => (value, some text)
  | none => (.broken, none)

mutual

/-- A value at the start of a text, and what follows it unless reading stopped inside it. -/
def value : Nat → List Char → Draft × Option (List Char)
  | 0, _ => (.broken, none)
  | fuel + 1, text =>
    match skipSpace text with
    | 'n' :: text => word "ull" .null text
    | 't' :: text => word "rue" (.bool true) text
    | 'f' :: text => word "alse" (.bool false) text
    | '"' :: text =>
      match string? text with
      | some (some found, rest) => (.string found, some rest)
      | some (none, rest) => (.unpaired, some rest)
      | none => (.broken, none)
    | '[' :: text =>
      match skipSpace text with
      | ']' :: rest => (.array [] true, some rest)
      | text =>
        let (found, rest) := items fuel text
        (.array found rest.isSome, rest)
    | '\x7b' :: text =>
      match skipSpace text with
      | '\x7d' :: rest => (.object [] true, some rest)
      | text =>
        let (found, rest) := fields fuel text
        (.object found rest.isSome, rest)
    | text =>
      match number? text with
      | some (found, rest) => (found, some rest)
      | none => (.broken, none)

def items : Nat → List Char → List Draft × Option (List Char)
  | 0, _ => ([], none)
  | fuel + 1, text =>
    match value fuel text with
    | (item, none) => ([item], none)
    | (item, some text) =>
      match skipSpace text with
      | ',' :: text =>
        let (more, rest) := items fuel text
        (item :: more, rest)
      | ']' :: rest => ([item], some rest)
      | _ => ([item], none)

def fields : Nat → List Char → List (Option String × Draft) × Option (List Char)
  | 0, _ => ([], none)
  | fuel + 1, text =>
    match skipSpace text with
    | '"' :: text =>
      match string? text with
      | none => ([], none)
      | some (key, text) =>
        match skipSpace text with
        | ':' :: text =>
          match value fuel text with
          | (found, none) => ([(key, found)], none)
          | (found, some text) =>
            match skipSpace text with
            | ',' :: text =>
              let (more, rest) := fields fuel text
              ((key, found) :: more, rest)
            | '\x7d' :: rest => ([(key, found)], some rest)
            | _ => ([(key, found)], none)
        | _ => ([(key, .broken)], none)
    | _ => ([], none)

end

/-- A text read as one value, and whether nothing but white space follows it. Every step of the
reader takes a character or opens a level, so twice the length is fuel enough. -/
def ofText (text : List Char) : Draft × Bool :=
  match value (2 * text.length + 2) text with
  | (found, none) => (found, false)
  | (found, some rest) => (found, (skipSpace rest).isEmpty)

mutual

def complete : Draft → Bool
  | .broken => false
  | .array items closed => closed && completeItems items
  | .object fields closed => closed && completeFields fields
  | _ => true

def completeItems : List Draft → Bool
  | [] => true
  | item :: items => item.complete && completeItems items

def completeFields : List (Option String × Draft) → Bool
  | [] => true
  | (_, value) :: fields => value.complete && completeFields fields

end

end Draft

mutual

def Json.draft : Json → Draft
  | .null => .null
  | .bool value => .bool value
  | .number value => .whole value
  | .string value => .string value
  | .array items => .array (draftItems items) true
  | .object fields => .object (draftFields fields) true

def Json.draftItems : List Json → List Draft
  | [] => []
  | item :: items => item.draft :: draftItems items

def Json.draftFields : List (String × Json) → List (Option String × Draft)
  | [] => []
  | (key, value) :: fields => (some key, value.draft) :: draftFields fields

end

end CloudAudit
