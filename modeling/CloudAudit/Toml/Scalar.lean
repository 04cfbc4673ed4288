import CloudAudit.Json.Draft
import CloudAudit.Text.Blank
import CloudAudit.Time.Calendar
import CloudAudit.Toml.Value
/-!
# Unquoted values of settings files

Truth values, numbers, dates and times. An underscore may stand between two digits of a number; a
decimal number has no leading zeros. Integers fit 128 bits, floats a double.
-/
set_option autoImplicit false

namespace CloudAudit.Toml

def digitIn? (base : Nat) (c : Char) : Option Nat :=
  (Text.hexDigit? c).filter (· < base)

def moreDigits (base : Nat) : List Char → List Nat × List Char
  | [] => ([], [])
  | '_' :: c :: text =>
    match digitIn? base c with
    | some digit =>
      let (digits, rest) := moreDigits base text
      (digit :: digits, rest)
    | none => ([], '_' :: c :: text)
  | c :: text =>
    match digitIn? base c with
    | some digit =>
      let (digits, rest) := moreDigits base text
      (digit :: digits, rest)
    | none => ([], c :: text)

/-- At least one digit, with single underscores between digits, and what follows. -/
def digits? (base : Nat) : List Char → Option (List Nat × List Char)
  | [] => none
  | c :: text => do
    let digit ← digitIn? base c
    let (digits, rest) := moreDigits base text
    return (digit :: digits, rest)

/-- An integer that fits 128 bits, signed or unsigned. -/
def integer? (negative : Bool) (size : Nat) : Option Toml :=
  let value : Int := if negative then -size else size
  if -170141183460469231731687303715884105728 ≤ value
      ∧ value < 340282366920938463463374607431768211456 then some (.integer value)
  else none

def basedInteger? (base : Nat) (text : List Char) : Option Toml :=
  match digits? base text with
  | some (digits, []) => integer? false (Text.valueIn base digits)
  | _ => none

def pointDigits? : List Char → Option (Option (List Nat) × List Char)
  | '.' :: text => (digits? 10 text).map fun (digits, rest) => (some digits, rest)
  | text => some (none, text)

def exponentOf? : List Char → Option (Option Int × List Char)
  | c :: text =>
    if c == 'e' || c == 'E' then
      let (negative, text) : Bool × List Char :=
        match text with
        | '-' :: text => (true, text)
        | '+' :: text => (false, text)
        | text => (false, text)
      (digits? 10 text).map fun (digits, rest) =>
        let size : Int := Text.valueIn 10 digits
        (some (if negative then -size else size), rest)
    else some (none, c :: text)
  | [] => some (none, [])

def decimalNumber? (negative : Bool) (text : List Char) : Option Toml := do
  let (whole, text) ← digits? 10 text
  match whole with
  | 0 :: _ :: _ => none
  | _ =>
    let (part, text) ← pointDigits? text
    let (exponent, text) ← exponentOf? text
    match text, part, exponent with
    | [], none, none => integer? negative (Text.valueIn 10 whole)
    | [], part, exponent =>
      let digits := whole ++ part.getD []
      let shift : Int := exponent.getD 0 - (part.getD []).length
      if Draft.isUnbounded (Text.valueIn 10 digits) digits.length shift then none
      else some .float
    | _, _, _ => none

def unsigned? (negative : Bool) (text : List Char) : Option Toml :=
  if text == "inf".toList || text == "nan".toList then some .float
  else decimalNumber? negative text

/-- A number. Only decimal numbers have a sign. -/
def number? : List Char → Option Toml
  | '+' :: text => unsigned? false text
  | '-' :: text => unsigned? true text
  | '0' :: 'x' :: text => basedInteger? 16 text
  | '0' :: 'o' :: text => basedInteger? 8 text
  | '0' :: 'b' :: text => basedInteger? 2 text
  | text => unsigned? false text

def fixed? (count : Nat) (text : List Char) : Option (Nat × List Char) :=
  if (text.take count).length == count then
    (Text.decimal? (text.take count)).map fun value => (value, text.drop count)
  else none

def date? (text : List Char) : Option (List Char) := do
  let (year, text) ← fixed? 4 text
  let (month, text) ← fixed? 2 (← Text.dropLeading? ['-'] text)
  let (day, text) ← fixed? 2 (← Text.dropLeading? ['-'] text)
  if (Date.mk year month day).isValid then some text else none

/-- The seconds of a time and their fraction, both of which may be missing. -/
def seconds? : List Char → Option (List Char)
  | ':' :: text => do
    let (second, text) ← fixed? 2 text
    if second > 60 then none
    else
      match text with
      | '.' :: text =>
        match Text.leadingDigits text with
        | ([], _) => none
        | (_, rest) => some rest
      | text => some text
  | text => some text

def time? (text : List Char) : Option (List Char) := do
  let (hour, text) ← fixed? 2 text
  let (minute, text) ← fixed? 2 (← Text.dropLeading? [':'] text)
  if hour > 23 || minute > 59 then none else seconds? text

def isZone : List Char → Bool
  | [] => true
  | [c] => c == 'Z' || c == 'z'
  | sign :: text =>
    (sign == '+' || sign == '-') &&
      match fixed? 2 text with
      | some (hour, ':' :: text) =>
        match fixed? 2 text with
        | some (minute, []) => hour ≤ 23 && minute ≤ 59
        | _ => false
      | _ => false

/-- Whether a text is a date, a time, or a date with a time and perhaps an offset. -/
def isMoment (text : List Char) : Bool :=
  match date? text with
  | some [] => true
  | some (mark :: text) =>
    (mark == 'T' || mark == 't' || mark == ' ') &&
      match time? text with
      | some rest => isZone rest
      | none => false
  | none =>
    match time? text with
    | some rest => rest.isEmpty
    | none => false

def scalar? (text : List Char) : Option Toml :=
  if text == "true".toList then some (.bool true)
  else if text == "false".toList then some (.bool false)
  else if isMoment text then some .moment
  else number? text

def isScalarChar (c : Char) : Bool :=
  c.isAlphanum || c == '+' || c == '-' || c == '_' || c == '.' || c == ':'

/-- An unquoted value at the start of a text, and what follows. A single space may divide a date
from a time. -/
def leadingScalar (text : List Char) : List Char × List Char :=
  let word := text.takeWhile isScalarChar
  match text.dropWhile isScalarChar with
  | ' ' :: c :: rest =>
    if (date? word).any List.isEmpty && c.isDigit then
      (word ++ ' ' :: (c :: rest).takeWhile isScalarChar, (c :: rest).dropWhile isScalarChar)
    else (word, ' ' :: c :: rest)
  | rest => (word, rest)

end CloudAudit.Toml
