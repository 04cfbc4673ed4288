import CloudAudit.Time.Duration
import CloudAudit.Time.Calendar
/-!
# Instants

An `Instant` is a point in universal time: seconds since 1970-01-01T00:00:00Z and nanoseconds
within the second. Nanoseconds from 10^9 on stand for a leap second, which belongs to the second
before it. The supported calendar has the years -262143 to 262142.
-/
set_option autoImplicit false

namespace CloudAudit

structure Instant where
  seconds : Int
  nanos : Nat
  deriving DecidableEq, Repr, Inhabited

namespace Instant

def firstSecond : Int := (Date.mk (-262143) 1 1).toDays * 86400

def lastSecond : Int := (Date.mk 262142 12 31).toDays * 86400 + 86399

def inCalendar (time : Instant) : Bool :=
  firstSecond ≤ time.seconds && time.seconds ≤ lastSecond

def after (time other : Instant) : Bool :=
  other.seconds < time.seconds || (other.seconds == time.seconds && other.nanos < time.nanos)

def notBefore (time other : Instant) : Bool :=
  !other.after time

/-- Undated comes before every instant. -/
def laterStamp (stamp other : Option Instant) : Bool :=
  match stamp, other with
  | some time, some earlier => time.after earlier
  | some _, none => true
  | none, _ => false

def later (time : Instant) (nanos : Nat) : Instant :=
  ⟨time.seconds + ((time.nanos + nanos) / 1000000000 : Nat), (time.nanos + nanos) % 1000000000⟩

def next (time : Instant) : Instant :=
  time.later 1

/-- Where a second and signed nanoseconds below two seconds lie. -/
def settle (seconds nanos : Int) : Instant :=
  if nanos < 0 then ⟨seconds - 1, (nanos + 1000000000).toNat⟩
  else if nanos ≥ 1000000000 then ⟨seconds + 1, (nanos - 1000000000).toNat⟩
  else ⟨seconds, nanos.toNat⟩

/-- The instant at a distance. A leap second is left in the direction of the distance, and not
left at all by a distance below one second that stays within it and the second before. -/
def shift (time : Instant) (distance : Span) : Instant :=
  let seconds := distance.wholeSeconds
  let part := distance.partNanos
  if time.nanos < 1000000000 then settle (time.seconds + seconds) (time.nanos + part)
  else if seconds > 0 || (part > 0 && time.nanos + part ≥ 2000000000) then
    settle (time.seconds + seconds) (time.nanos - 1000000000 + part)
  else if seconds < 0 then settle (time.seconds + 1 + seconds) (time.nanos - 1000000000 + part)
  else ⟨time.seconds, (time.nanos + part).toNat⟩

/-- The instant at a distance, if the calendar has it. -/
def add? (time : Instant) (distance : Span) : Option Instant :=
  let moved := time.shift distance
  if moved.inCalendar then some moved else none

end Instant

end CloudAudit
