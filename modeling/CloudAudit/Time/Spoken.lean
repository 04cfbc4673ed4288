import CloudAudit.Text.Blank
import CloudAudit.Time.Duration
/-!
# Durations as people write them

A duration is one number with a unit or several of them, `1h 30m` or `1h30m`, and their sum is
meant. A number may have a fraction where that makes a whole number of seconds, or of nanoseconds
for units up to a minute. A zero needs no unit.

Blanks may stand between the digits of a number and before its unit. No number, no part of the sum
and no intermediate product may reach 2^64.
-/
set_option autoImplicit false

namespace CloudAudit

structure TimeUnit where
  seconds : Nat
  nanos : Nat
  /-- What a fraction of the unit is measured in: seconds, or nanoseconds; none for the smallest
  unit, which cannot be divided. -/
  fractionSeconds : Nat := seconds
  fractionNanos : Nat := nanos
  divisible : Bool := true
  deriving DecidableEq, Repr

namespace TimeUnit

/-- The unit of a name. A month is a twelfth of 365.28 days, a year 365.25 days. -/
def ofName? (name : String) : Option TimeUnit :=
  match name with
  | "nanos" | "nsec" | "ns" => some { seconds := 0, nanos := 1, divisible := false }
  | "usec" | "us" | "µs" => some { seconds := 0, nanos := 1000 }
  | "millis" | "msec" | "ms" => some { seconds := 0, nanos := 1000000 }
  | "seconds" | "second" | "secs" | "sec" | "s" =>
    some { seconds := 1, nanos := 0, fractionSeconds := 0, fractionNanos := 1000000000 }
  | "minutes" | "minute" | "min" | "mins" | "m" =>
    some { seconds := 60, nanos := 0, fractionSeconds := 0, fractionNanos := 60000000000 }
  | "hours" | "hour" | "hrs" | "hr" | "h" => some { seconds := 3600, nanos := 0 }
  | "days" | "day" | "d" => some { seconds := 86400, nanos := 0 }
  | "weeks" | "week" | "wks" | "wk" | "w" => some { seconds := 604800, nanos := 0 }
  | "months" | "month" | "M" => some { seconds := 2630016, nanos := 0 }
  | "years" | "year" | "yrs" | "yr" | "y" => some { seconds := 31557600, nanos := 0 }
  | _ => none

end TimeUnit

namespace Spoken

def bounded? (value : Nat) : Option Nat :=
  if value < 18446744073709551616 then some value else none

/-- The part of a number after its point: `numerator / denominator`. -/
structure Fraction where
  numerator : Nat := 0
  denominator : Nat := 1
  deriving DecidableEq, Repr, Inhabited

def Fraction.push? (fraction : Fraction) (digit : Nat) : Option Fraction := do
  let denominator ← bounded? (fraction.denominator * 10)
  let numerator ← bounded? (fraction.numerator * 10 + digit)
  return ⟨numerator, denominator⟩

def Fraction.of? (fraction : Fraction) (measure : Nat) : Option Nat := do
  let product ← bounded? (fraction.numerator * measure)
  if product % fraction.denominator == 0 then some (product / fraction.denominator) else none

/-- Where reading is: what is known of the current number and unit. -/
inductive Place where
  /-- Before a number. -/
  | between
  /-- In the whole part of a number. -/
  | whole (number : Nat)
  /-- After the point of a number. -/
  | fraction (number : Nat) (part : Fraction)
  /-- In a unit; its letters so far, the last one first. -/
  | unit (number : Nat) (part : Option Fraction) (letters : List Char)
  deriving Repr, Inhabited

/-- Where reading is, and the sum of what was read; no sum before the first number. -/
structure State where
  place : Place := .between
  sum : Option Duration := none
  deriving Repr, Inhabited

def add? (sum : Duration) (seconds nanos : Nat) : Option Duration := do
  let nanos ← bounded? (sum.nanos + nanos)
  Duration.make? (sum.seconds + seconds) nanos

def addFraction? (unit : TimeUnit) (sum : Duration) (part : Fraction) : Option Duration := do
  if !unit.divisible then none
  else
    let seconds ← part.of? unit.fractionSeconds
    let nanos ← part.of? unit.fractionNanos
    add? sum seconds nanos

def addItem? (sum : Duration) (number : Nat) (part : Option Fraction) (letters : List Char) :
    Option Duration := do
  let unit ← TimeUnit.ofName? (.ofList letters.reverse)
  let seconds ← bounded? (number * unit.seconds)
  let nanos ← bounded? (number * unit.nanos)
  let whole ← add? sum seconds nanos
  match part with
  | none => some whole
  | some part => addFraction? unit whole part

def isLetter (c : Char) : Bool :=
  c.isAlpha || c == 'µ'

def step? (state : State) (c : Char) : Option State :=
  match state.place with
  | .between =>
    match Text.digit? c with
    | some digit => some { state with place := .whole digit }
    | none => if Text.isBlank c then some state else none
  | .whole number =>
    match Text.digit? c with
    | some digit => (bounded? (number * 10 + digit)).map fun number =>
        { state with place := .whole number }
    | none =>
      if Text.isBlank c then some state
      else if isLetter c then some { state with place := .unit number none [c] }
      else if c == '.' then some { state with place := .fraction number {} }
      else none
  | .fraction number part =>
    match Text.digit? c with
    | some digit => (part.push? digit).map fun part =>
        { state with place := .fraction number part }
    | none =>
      if Text.isBlank c then some state
      else if isLetter c && part.denominator != 1 then
        some { state with place := .unit number (some part) [c] }
      else none
  | .unit number part letters =>
    if isLetter c then some { state with place := .unit number part (c :: letters) }
    else do
      let sum ← addItem? (state.sum.getD .zero) number part letters
      match Text.digit? c with
      | some digit => some ⟨.whole digit, some sum⟩
      | none => if Text.isBlank c then some ⟨.between, some sum⟩ else none

def finish? (state : State) : Option Duration :=
  match state.place with
  | .between => state.sum
  | .unit number part letters => addItem? (state.sum.getD .zero) number part letters
  | _ => none

end Spoken

def Duration.ofSpoken? (text : String) : Option Duration :=
  if text == "0" then some .zero
  else (text.toList.foldlM Spoken.step? {}).bind Spoken.finish?

/-- A count with its unit; nothing for a count of zero. -/
def Spoken.item (unit : String) (count : Nat) : List String :=
  if count = 0 then [] else [toString count ++ unit]

/-- A count with its unit, which takes an `s` from two on. -/
def Spoken.plural (unit : String) (count : Nat) : List String :=
  Spoken.item (if count > 1 then unit ++ "s" else unit) count

def Duration.spoken (length : Duration) : String :=
  let inYear := length.seconds % 31557600
  let inMonth := inYear % 2630016
  let inDay := inMonth % 86400
  let items := Spoken.plural "year" (length.seconds / 31557600)
    ++ Spoken.plural "month" (inYear / 2630016)
    ++ Spoken.plural "day" (inMonth / 86400)
    ++ Spoken.item "h" (inDay / 3600)
    ++ Spoken.item "m" (inDay % 3600 / 60)
    ++ Spoken.item "s" (inDay % 60)
    ++ Spoken.item "ms" (length.nanos / 1000000)
    ++ Spoken.item "us" (length.nanos / 1000 % 1000)
    ++ Spoken.item "ns" (length.nanos % 1000)
  if items.isEmpty then "0s" else " ".intercalate items

end CloudAudit
