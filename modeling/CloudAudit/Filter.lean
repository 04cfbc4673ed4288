import CloudAudit.Error
import CloudAudit.Resource
/-!
# Filters

What a listing of the store asks for. Every constraint is optional; a time window needs both its
start and its length.
-/
set_option autoImplicit false

namespace CloudAudit

structure Filter where
  groups : Option (List String) := none
  names : Option (List String) := none
  kinds : Option (List ResourceKind) := none
  operation : Option String := none
  limit : Option Nat := none
  start : Option Instant := none
  offset : Option Span := none
  deriving DecidableEq, Repr, Inhabited

/-- The instants after the first and up to the last. -/
structure Window where
  start : Instant
  stop : Instant
  deriving DecidableEq, Repr

namespace Window

def has (window : Window) : Option Instant → Bool
  | some time => time.after window.start && window.stop.notBefore time
  | none => false

end Window

namespace Filter

def allows {α : Type} [BEq α] (constraint : Option (List α)) (value : α) : Bool :=
  match constraint with
  | some allowed => allowed.contains value
  | none => true

def window? (filter : Filter) : Except AuditError (Option Window) :=
  match filter.start, filter.offset with
  | none, none => .ok none
  | some start, some offset =>
    match start.add? offset with
    | some stop => .ok (some ⟨start, stop⟩)
    | none => .error .outsideCalendar
  | _, _ => .error (.invalidInput "start_time and time_offset must both be set")

def inWindow (window : Option Window) (time : Option Instant) : Bool :=
  match window with
  | some window => window.has time
  | none => true

/-- A filter with a window that ends now and is as long as an age. -/
def since (filter : Filter) (now : Instant) (age : Span) : Except AuditError Filter :=
  match now.add? age.reversed with
  | some start => .ok { filter with start := some start, offset := some age }
  | none => .error .outsideCalendar

def cut {α : Type} (filter : Filter) (found : List α) : List α :=
  match filter.limit with
  | some limit => found.take limit
  | none => found

end Filter

end CloudAudit
