/-!
# Durations and spans

A `Duration` is a length of time of 64-bit seconds and nanoseconds; a `Span` is a signed distance
between two instants.
-/
set_option autoImplicit false

namespace CloudAudit

/-- A length of time: at most 2^64 - 1 seconds and a part below one second. -/
structure Duration where
  seconds : Nat
  nanos : Nat
  seconds_lt : seconds < 18446744073709551616
  nanos_lt : nanos < 1000000000
  deriving DecidableEq, Repr

namespace Duration

/-- Seconds and nanoseconds, whole seconds of the latter carried over, if they fit. -/
def make? (seconds nanos : Nat) : Option Duration :=
  if fits : seconds + nanos / 1000000000 < 18446744073709551616 then
    some ⟨seconds + nanos / 1000000000, nanos % 1000000000, fits, Nat.mod_lt _ (by decide)⟩
  else none

def ofSeconds? (seconds : Nat) : Option Duration :=
  make? seconds 0

def zero : Duration := ⟨0, 0, by decide, by decide⟩

def sixHours : Duration := ⟨21600, 0, by decide, by decide⟩

def oneDay : Duration := ⟨86400, 0, by decide, by decide⟩

instance : Inhabited Duration := ⟨zero⟩

def totalNanos (length : Duration) : Nat :=
  length.seconds * 1000000000 + length.nanos

end Duration

structure Span where
  nanos : Int
  deriving DecidableEq, Repr, Inhabited

namespace Span

def ofMillis (millis : Int) : Span := ⟨millis * 1000000⟩

def week : Span := ⟨604800000000000⟩

/-- The whole seconds of a distance, cut toward zero. -/
def wholeSeconds (distance : Span) : Int := distance.nanos.tdiv 1000000000

/-- What the whole seconds leave, with the sign of the distance. -/
def partNanos (distance : Span) : Int := distance.nanos.tmod 1000000000

def reversed (distance : Span) : Span := ⟨-distance.nanos⟩

end Span

end CloudAudit
