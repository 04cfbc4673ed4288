import Mathlib.Logic.Function.Iterate
import CloudAudit.Filter
import CloudAudit.Supply
/-!
# The order of instants

`after` is a strict total order with `notBefore` as its reflexive closure, a clock reading is never
before the last one, and the window of a listing is the week up to its own clock reading.
-/
set_option autoImplicit false

namespace CloudAudit

namespace Instant

theorem after_iff (time other : Instant) :
    time.after other = true ↔
      other.seconds < time.seconds ∨ other.seconds = time.seconds ∧ other.nanos < time.nanos := by
  simp [after]

theorem notBefore_iff (time other : Instant) :
    time.notBefore other = true ↔ ¬ other.after time = true := by
  simp [notBefore]

theorem after_irrefl (time : Instant) : ¬ time.after time = true := by
  rw [after_iff]
  omega

theorem after_asymm {first second : Instant} (later : first.after second = true) :
    ¬ second.after first = true := by
  rw [after_iff] at *
  omega

theorem after_trans {first second third : Instant} (later : first.after second = true)
    (last : second.after third = true) : first.after third = true := by
  rw [after_iff] at *
  omega

theorem notBefore_refl (time : Instant) : time.notBefore time = true :=
  (notBefore_iff _ _).2 (after_irrefl time)

theorem notBefore_of_after {first second : Instant} (later : first.after second = true) :
    first.notBefore second = true :=
  (notBefore_iff _ _).2 (after_asymm later)

theorem notBefore_trans {first second third : Instant} (later : first.notBefore second = true)
    (last : second.notBefore third = true) : first.notBefore third = true := by
  rw [notBefore_iff, after_iff] at *
  omega

theorem after_of_after_of_notBefore {first second third : Instant}
    (later : first.after second = true) (last : second.notBefore third = true) :
    first.after third = true := by
  rw [notBefore_iff] at last
  rw [after_iff] at *
  omega

theorem after_of_notBefore_of_after {first second third : Instant}
    (later : first.notBefore second = true) (last : second.after third = true) :
    first.after third = true := by
  rw [notBefore_iff] at later
  rw [after_iff] at *
  omega

theorem eq_of_notBefore {first second : Instant} (later : first.notBefore second = true)
    (earlier : second.notBefore first = true) : first = second := by
  rw [notBefore_iff, after_iff] at later earlier
  obtain ⟨seconds, nanos⟩ := first
  obtain ⟨otherSeconds, otherNanos⟩ := second
  simp only [mk.injEq] at *
  omega

theorem later_nanos (time : Instant) (nanos : Nat) : (time.later nanos).nanos < 1000000000 :=
  Nat.mod_lt _ (by decide)

theorem later_notBefore (time : Instant) (nanos : Nat) :
    (time.later nanos).notBefore time = true := by
  rw [notBefore_iff, after_iff, later]
  simp only
  omega

theorem later_after (time : Instant) {nanos : Nat} (positive : 0 < nanos) :
    (time.later nanos).after time = true := by
  rw [after_iff, later]
  simp only
  omega

/-- A whole number of seconds moves the seconds only, but for a leap second. -/
theorem shift_seconds {time : Instant} (normal : time.nanos < 1000000000) (seconds : Int) :
    time.shift ⟨seconds * 1000000000⟩ = ⟨time.seconds + seconds, time.nanos⟩ := by
  have whole : (Span.mk (seconds * 1000000000)).wholeSeconds = seconds :=
    Int.mul_tdiv_cancel _ (by decide)
  have part : (Span.mk (seconds * 1000000000)).partNanos = 0 := Int.mul_tmod_left _ _
  have below : ¬ (time.nanos : Int) ≥ 1000000000 := by omega
  have natural : ¬ (time.nanos : Int) < 0 := by omega
  simp [shift, whole, part, normal, settle, below, natural]

end Instant

namespace Clock

theorem reading_nanos (clock : Clock) : clock.reading.nanos < 1000000000 :=
  Instant.later_nanos _ _

theorem reading_notBefore (clock : Clock) : clock.reading.notBefore clock.now = true :=
  Instant.later_notBefore _ _

/-- Each reading of the clock is later than the one before. -/
def Ticks (clock : Clock) : Prop :=
  ∀ count, 0 < clock.gaps count

theorem Ticks.reading_after {clock : Clock} (ticks : clock.Ticks) :
    clock.reading.after clock.now = true :=
  Instant.later_after _ (ticks 0)

/-- Whether a clock shows another one after some readings. -/
def Becomes (clock later : Clock) : Prop :=
  ∃ count, turned^[count] clock = later

namespace Becomes

theorem refl (clock : Clock) : clock.Becomes clock :=
  ⟨0, rfl⟩

theorem turned (clock : Clock) : clock.Becomes clock.turned :=
  ⟨1, rfl⟩

theorem turns (clock : Clock) (count : Nat) : clock.Becomes (Clock.turned^[count] clock) :=
  ⟨count, rfl⟩

variable {clock later : Clock}

theorem trans {last : Clock} (first : clock.Becomes later) (second : later.Becomes last) :
    clock.Becomes last := by
  obtain ⟨count, rfl⟩ := first
  obtain ⟨more, rfl⟩ := second
  exact ⟨more + count, Function.iterate_add_apply _ _ _ _⟩

/-- What holds of a clock and is kept by each reading holds after all of them. -/
theorem keeps {holds : Clock → Prop} (kept : ∀ clock, holds clock → holds clock.turned)
    (becomes : clock.Becomes later) (start : holds clock) : holds later := by
  obtain ⟨count, rfl⟩ := becomes
  exact Function.Iterate.rec holds start kept count

theorem now_notBefore (becomes : clock.Becomes later) :
    later.now.notBefore clock.now = true :=
  becomes.keeps (fun clock earlier => Instant.notBefore_trans clock.reading_notBefore earlier)
    (Instant.notBefore_refl _)

theorem reading_notBefore (becomes : clock.Becomes later) :
    later.reading.notBefore clock.reading = true :=
  becomes.keeps
    (fun clock earlier => Instant.notBefore_trans clock.turned.reading_notBefore earlier)
    (Instant.notBefore_refl _)

theorem ticks (becomes : clock.Becomes later) (ticks : clock.Ticks) : later.Ticks :=
  becomes.keeps (fun _ ticks count => ticks (count + 1)) ticks

end Becomes

end Clock

namespace Window

/-- The seven days up to an instant. -/
def weekTo (now : Instant) : Window :=
  ⟨now.shift Span.week.reversed, now⟩

theorem weekTo_start {now : Instant} (normal : now.nanos < 1000000000) :
    (weekTo now).start = ⟨now.seconds - 604800, now.nanos⟩ := by
  have back : Span.week.reversed = ⟨-604800 * 1000000000⟩ := by decide
  rw [weekTo, back]
  exact Instant.shift_seconds normal (-604800)

theorem weekTo_shift {now : Instant} (normal : now.nanos < 1000000000) :
    (weekTo now).start.shift Span.week = now := by
  rw [weekTo_start normal]
  have earlier : (⟨now.seconds - 604800, now.nanos⟩ : Instant).nanos < 1000000000 := normal
  refine (Instant.shift_seconds earlier 604800).trans ?_
  simp

theorem has_iff (window : Window) (time : Instant) :
    window.has (some time) = true ↔
      time.after window.start = true ∧ window.stop.notBefore time = true := by
  simp [has]

theorem exists_of_has {window : Window} {stamp : Option Instant} (has : window.has stamp = true) :
    ∃ time, stamp = some time ∧ time.after window.start = true ∧
      window.stop.notBefore time = true := by
  cases stamp with
  | none => cases has
  | some time => exact ⟨time, rfl, (has_iff window time).1 has⟩

section

variable {now later : Instant} (order : later.notBefore now = true)
include order

/-- What is not older than something in a later week, and was there at the end of an earlier one,
lies in the later one. -/
theorem has_weekTo_of_newer {time other : Instant} (newer : time.notBefore other = true)
    (past : now.notBefore time = true) (inLater : (weekTo later).has (some other) = true) :
    (weekTo later).has (some time) = true := by
  obtain ⟨started, _⟩ := (has_iff _ _).1 inLater
  exact (has_iff _ _).2
    ⟨Instant.after_of_notBefore_of_after newer started, Instant.notBefore_trans order past⟩

variable (normal : now.nanos < 1000000000) (laterNormal : later.nanos < 1000000000)
include normal laterNormal

/-- What lies in a later week and was there at the end of an earlier one lies in that one too. -/
theorem has_weekTo_of_later {time : Instant} (past : now.notBefore time = true)
    (inLater : (weekTo later).has (some time) = true) : (weekTo now).has (some time) = true := by
  obtain ⟨started, _⟩ := (has_iff _ _).1 inLater
  refine (has_iff _ _).2 ⟨?_, past⟩
  rw [weekTo_start laterNormal] at started
  rw [weekTo_start normal]
  rw [Instant.notBefore_iff] at order
  rw [Instant.after_iff] at *
  simp only at *
  omega

theorem filter_weekTo_of_later {α : Type} {list : List α} {stamp : α → Option Instant}
    (past : ∀ entry ∈ list, ∀ time, stamp entry = some time → now.notBefore time = true) :
    (list.filter fun entry => (weekTo later).has (stamp entry)) =
      (list.filter fun entry => (weekTo now).has (stamp entry)).filter
        fun entry => (weekTo later).has (stamp entry) := by
  rw [List.filter_filter]
  refine List.filter_congr fun entry member => ?_
  cases inLater : (weekTo later).has (stamp entry) with
  | false => rfl
  | true =>
    obtain ⟨time, stamped, -⟩ := exists_of_has inLater
    rw [stamped] at inLater ⊢
    rw [has_weekTo_of_later order normal laterNormal (past entry member time stamped) inLater]
    rfl

end

end Window

namespace Filter

/-- The filter for some groups in the seven days up to an instant. -/
def lastWeek (groups : List String) (now : Instant) : Filter where
  groups := some groups
  start := some (Window.weekTo now).start
  offset := some .week

theorem since_eq (groups : List String) (now : Instant) :
    since { groups := some groups } now .week =
      if (Window.weekTo now).start.inCalendar then .ok (lastWeek groups now)
      else .error .outsideCalendar := by
  rw [since, Instant.add?, Window.weekTo]
  split <;> split <;> simp_all [lastWeek, Window.weekTo]

theorem since_week {groups : List String} {now : Instant}
    (started : (Window.weekTo now).start.inCalendar = true) :
    since { groups := some groups } now .week = .ok (lastWeek groups now) := by
  rw [since_eq, if_pos started]

theorem window?_lastWeek {groups : List String} {now : Instant} (normal : now.nanos < 1000000000) :
    (lastWeek groups now).window? =
      if now.inCalendar then .ok (some (Window.weekTo now)) else .error .outsideCalendar := by
  simp only [window?, lastWeek, Instant.add?, Window.weekTo_shift normal]
  by_cases supported : now.inCalendar = true
  · rw [if_pos supported, if_pos supported]
    rfl
  · rw [if_neg supported, if_neg supported]

end Filter

end CloudAudit
