import CloudAudit.Time.Instant
import CloudAudit.Uuid
/-!
# Clock readings and new identifiers

A `Clock` never goes back; how much time passes between two readings is open. A `Supply` hands out
the readings of its clock, and identifiers, each different from all before and greater as a text.
-/
set_option autoImplicit false

namespace CloudAudit

/-- A clock: what it showed last, and how many nanoseconds pass before each further reading, the
next one first. Two readings in a row may be the same. -/
structure Clock where
  now : Instant
  gaps : Nat → Nat := fun _ => 1
  deriving Inhabited

namespace Clock

def reading (clock : Clock) : Instant :=
  clock.now.later (clock.gaps 0)

def turned (clock : Clock) : Clock where
  now := clock.reading
  gaps count := clock.gaps (count + 1)

end Clock

/-- An instant as a clock that showed it last and goes on by a nanosecond with each reading. -/
instance : Coe Instant Clock where
  coe now := { now }

/-- A clock, and the number of identifiers handed out. -/
structure Supply extends Clock where
  minted : Nat := 0
  deriving Inhabited

namespace Supply

def read (supply : Supply) : Instant × Supply :=
  (supply.reading, { supply with toClock := supply.turned })

def firstId : Nat := 0x0193f6a27c4b7d1e8a35000000000000

def idText (number : Nat) : String :=
  (Uuid.mk (BitVec.ofNat 128 (firstId + number))).text

def mint (supply : Supply) : String × Supply :=
  (idText supply.minted, { supply with minted := supply.minted + 1 })

end Supply

end CloudAudit
