import CloudAudit.Text.Blank
import CloudAudit.Time.Instant
/-!
# Timestamps

The text of an instant. `Instant.text` writes universal time with a `Z` and as many groups of
three fraction digits as needed. `Instant.ofText?` is lenient: blanks may surround the parts,
digits need no padding, and any offset from universal time below a day may follow.
-/
set_option autoImplicit false

namespace CloudAudit

namespace Instant

/-- A year of four digits, or with a sign when it needs more or lies before year 0. -/
def yearText (year : Int) : String :=
  if 0 ≤ year ∧ year ≤ 9999 then Text.padded 4 year.toNat
  else if year < 0 then "-" ++ Text.padded 4 (-year).toNat
  else "+" ++ Text.padded 4 year.toNat

/-- A fraction of a second: nothing, or a point and 3, 6 or 9 digits. -/
def fractionText (nanos : Nat) : String :=
  if nanos == 0 then ""
  else if nanos % 1000000 == 0 then "." ++ Text.padded 3 (nanos / 1000000)
  else if nanos % 1000 == 0 then "." ++ Text.padded 6 (nanos / 1000)
  else "." ++ Text.padded 9 nanos

def text (time : Instant) : String :=
  let date := Date.ofDays (time.seconds / 86400)
  let second := (time.seconds % 86400).toNat
  let leap := time.nanos / 1000000000
  yearText date.year ++ "-" ++ Text.padded 2 date.month ++ "-" ++ Text.padded 2 date.day ++ "T"
    ++ Text.padded 2 (second / 3600) ++ ":" ++ Text.padded 2 (second / 60 % 60) ++ ":"
    ++ Text.padded 2 (second % 60 + leap) ++ fractionText (time.nanos % 1000000000) ++ "Z"

def skipBlank (text : List Char) : List Char :=
  text.dropWhile Text.isBlank

def someDigits? (most : Nat) (text : List Char) : Option (List Nat × List Char) :=
  let (digits, _) := Text.leadingDigits (text.take most)
  if digits.isEmpty then none else some (digits, text.drop digits.length)

def pairNumber? (text : List Char) : Option (Nat × List Char) := do
  let (digits, text) ← someDigits? 2 (skipBlank text)
  return (Text.valueIn 10 digits, text)

def year? (text : List Char) : Option (Int × List Char) :=
  match skipBlank text with
  | '-' :: text => do
    let (digits, text) ← someDigits? text.length text
    return (-(Text.valueIn 10 digits : Int), text)
  | '+' :: text => do
    let (digits, text) ← someDigits? text.length text
    return (Text.valueIn 10 digits, text)
  | text => do
    let (digits, text) ← someDigits? 4 text
    return (Text.valueIn 10 digits, text)

def mark? (mark : Char) (text : List Char) : Option (List Char) :=
  match skipBlank text with
  | c :: text => if c == mark then some text else none
  | [] => none

def between? : List Char → Option (List Char)
  | c :: text => if c == 'T' || c == 't' || Text.isBlank c then some text else none
  | [] => none

/-- Nanoseconds from the digits of a fraction; digits beyond the ninth are dropped. -/
def nanosOf (digits : List Nat) : Nat :=
  Text.valueIn 10 ((digits ++ List.replicate 9 0).take 9)

def fractionNanos? : List Char → Option (Nat × List Char)
  | '.' :: text =>
    match Text.leadingDigits text with
    | ([], _) => none
    | (digits, text) => some (nanosOf digits, text)
  | text => some (0, text)

/-- An offset from universal time in seconds behind its sign: two digits of hours and two of
minutes, which colons and blanks may separate. -/
def offset? (text : List Char) : Option (Nat × List Char) :=
  match text with
  | a :: b :: text => do
    let hours ← [a, b].mapM Text.digit?
    match text.dropWhile (fun c => c == ':' || Text.isBlank c) with
    | c :: d :: text =>
      let minutes ← [c, d].mapM Text.digit?
      if Text.valueIn 10 minutes < 60 then
        return (Text.valueIn 10 hours * 3600 + Text.valueIn 10 minutes * 60, text)
      else none
    | _ => none
  | _ => none

def zone? (text : List Char) : Option (Int × List Char) :=
  match skipBlank text with
  | 'Z' :: text => some (0, text)
  | 'z' :: text => some (0, text)
  | '+' :: text => do
    let (seconds, text) ← offset? text
    return (seconds, text)
  | '-' :: text => do
    let (seconds, text) ← offset? text
    return (-(seconds : Int), text)
  | '−' :: text => do
    let (seconds, text) ← offset? text
    return (-(seconds : Int), text)
  | a :: b :: c :: text =>
    if [a, b, c].map Char.toUpper == ['U', 'T', 'C'] then some (0, text) else none
  | _ => none

/-- The instant of a date, a time of day and an offset, if the calendar has them. Second 60 is the
leap second of second 59. -/
def ofParts? (date : Date) (hour minute second nanos : Nat) (offset : Int) : Option Instant :=
  if date.isValid && hour < 24 && minute < 60 && second ≤ 60 && offset.natAbs < 86400 then
    let leap := second / 60
    let clock : Int := hour * 3600 + minute * 60 + (second - leap : Nat)
    let wall : Instant := ⟨date.toDays * 86400 + clock, nanos + leap * 1000000000⟩
    let time : Instant := ⟨wall.seconds - offset, wall.nanos⟩
    if wall.inCalendar && time.inCalendar then some time else none
  else none

def ofText? (source : String) : Option Instant := do
  let (year, text) ← year? source.toList
  let text ← mark? '-' text
  let (month, text) ← pairNumber? text
  let text ← mark? '-' text
  let (day, text) ← pairNumber? text
  let text ← between? text
  let (hour, text) ← pairNumber? text
  let text ← mark? ':' text
  let (minute, text) ← pairNumber? text
  let text ← mark? ':' text
  let (second, text) ← pairNumber? text
  let (nanos, text) ← fractionNanos? text
  let (offset, text) ← zone? text
  if (skipBlank text).isEmpty then ofParts? ⟨year, month, day⟩ hour minute second nanos offset
  else none

end Instant

end CloudAudit
