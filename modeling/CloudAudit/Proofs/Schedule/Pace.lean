import CloudAudit.Schedule
import Mathlib.Algebra.Ring.Nat
import Mathlib.Data.List.Intervals
import Mathlib.Data.List.Sort
/-!
# A runner keeps its pace

A runner attempts runs at the multiples of its interval, rounded up to whole ticks of its timer,
whatever comes of the attempts and however the time that passes is cut into stretches. Cancelled, it
attempts nothing more.

An attempt may be any action that says whether it was accepted; `fullRun` is the one of a
deployment. Statements about what a runner does are equations between actions: both sides attempt
the same runs in the same order, so they say what is recorded as well as what the attempts have
changed.
-/
set_option autoImplicit false

namespace CloudAudit

/-! ## Timers -/

/-- A timer that works in ticks: a sleep ends at a whole tick, never before it is over, and less
than a tick after that. -/
structure Timer.Keeps (timer : Timer) (tick : Nat) : Prop where
  positive : 0 < tick
  notEarly : ∀ start length, start + length ≤ timer.ends start length
  prompt : ∀ start length, timer.ends start length < start + length + tick
  whole : ∀ start length, tick ∣ timer.ends start length

theorem Timer.milliseconds_keeps : milliseconds.Keeps 1000000 where
  positive := by decide
  notEarly start length := by
    simp only [milliseconds]
    omega
  prompt start length := by
    simp only [milliseconds]
    omega
  whole _ _ := Nat.dvd_mul_left _ _

/-- An interval rounded up to whole ticks. -/
def period (tick interval : Nat) : Nat :=
  (interval + (tick - 1)) / tick * tick

example : period 1000000 500000 = 1000000 := rfl

theorem period_bounds {tick : Nat} (positive : 0 < tick) (interval : Nat) :
    interval ≤ period tick interval ∧ period tick interval < interval + tick := by
  have parts := Nat.div_add_mod' (interval + (tick - 1)) tick
  have small := Nat.mod_lt (interval + (tick - 1)) positive
  rw [period]
  omega

theorem eq_of_dvd_of_near {tick first second : Nat} (isFirst : tick ∣ first)
    (isSecond : tick ∣ second) (above : first < second + tick) (below : second < first + tick) :
    first = second := by
  obtain ⟨one, rfl⟩ := isFirst
  obtain ⟨other, rfl⟩ := isSecond
  rw [← Nat.mul_succ] at above below
  have atMost := Nat.le_of_lt_succ (Nat.lt_of_mul_lt_mul_left above)
  have atLeast := Nat.le_of_lt_succ (Nat.lt_of_mul_lt_mul_left below)
  rw [Nat.le_antisymm atMost atLeast]

theorem period_of_dvd {tick interval : Nat} (positive : 0 < tick) (divides : tick ∣ interval) :
    period tick interval = interval := by
  have bounds := period_bounds positive interval
  exact eq_of_dvd_of_near (Nat.dvd_mul_left _ _) divides bounds.2 (by omega)

/-- By the timer, a sleep of the interval that begins at a multiple of a period ends at the next
one. -/
structure Timer.Paces (timer : Timer) (interval period : Nat) : Prop where
  positive : 0 < period
  next : ∀ slot, timer.ends (slot * period) interval = (slot + 1) * period

theorem Timer.Keeps.paces {timer : Timer} {tick : Nat} (keeps : timer.Keeps tick) {interval : Nat}
    (positive : 0 < interval) : timer.Paces interval (period tick interval) where
  positive := Nat.lt_of_lt_of_le positive (period_bounds keeps.positive interval).1
  next slot := by
    have bounds := period_bounds keeps.positive interval
    have late := keeps.notEarly (slot * period tick interval) interval
    have early := keeps.prompt (slot * period tick interval) interval
    have dvd : tick ∣ (slot + 1) * period tick interval :=
      Nat.dvd_mul_left_of_dvd (Nat.dvd_mul_left _ _) _
    have next : (slot + 1) * period tick interval =
        slot * period tick interval + period tick interval := Nat.succ_mul _ _
    exact eq_of_dvd_of_near (keeps.whole _ _) dvd (by omega) (by omega)

namespace Runner

def slots (period first next : Nat) : List Nat :=
  (List.Ico first next).map (· * period)

@[simp] theorem slots_self (period slot : Nat) : slots period slot slot = [] := by
  simp [slots]

theorem slots_of_lt (period : Nat) {first next : Nat} (below : first < next) :
    slots period first next = first * period :: slots period (first + 1) next := by
  rw [slots, List.Ico.eq_cons below, List.map_cons, slots]

theorem slots_append (period : Nat) {first middle next : Nat} (begins : first ≤ middle)
    (ends : middle ≤ next) :
    slots period first middle ++ slots period middle next = slots period first next := by
  rw [slots, slots, ← List.map_append, List.Ico.append_consecutive begins ends, slots]

theorem mem_slots_iff (period first next time : Nat) :
    time ∈ slots period first next ↔
      ∃ slot, first ≤ slot ∧ slot < next ∧ time = slot * period := by
  simp [slots, and_assoc, eq_comm]

/-- The multiples of a period below a time that is none of them. -/
theorem filter_dvd_range {period time : Nat} (positive : 0 < period) (off : ¬ period ∣ time) :
    (List.range time).filter (period ∣ ·) = slots period 0 (time / period + 1) := by
  have ascending : (slots period 0 (time / period + 1)).Pairwise (· < ·) :=
    List.Pairwise.map _ (fun _ _ below => Nat.mul_lt_mul_of_pos_right below positive)
      (List.Ico.pairwise_lt 0 _)
  refine List.Pairwise.eq_of_mem_iff (List.pairwise_lt_range.filter _) ascending fun other => ?_
  simp only [List.mem_filter, List.mem_range, decide_eq_true_eq, mem_slots_iff]
  constructor
  · rintro ⟨below, slot, rfl⟩
    rw [Nat.mul_comm] at below ⊢
    have reached := (Nat.le_div_iff_mul_le positive).2 (Nat.le_of_lt below)
    exact ⟨slot, Nat.zero_le slot, Nat.lt_succ_of_le reached, rfl⟩
  · rintro ⟨slot, -, reached, rfl⟩
    have within := (Nat.le_div_iff_mul_le positive).1 (Nat.le_of_lt_succ reached)
    have missed : slot * period ≠ time := fun same => off (same ▸ Nat.dvd_mul_left period slot)
    exact ⟨Nat.lt_of_le_of_ne within missed, Nat.dvd_mul_left period slot⟩

section Pace

variable {σ : Type} (attempt : StateM σ Bool)

def attemptAt (times : List Nat) : StateM σ (List Attempt) :=
  times.mapM fun time => return ⟨time, ← attempt⟩

@[simp] theorem attemptAt_nil : attemptAt attempt [] = pure [] :=
  List.mapM_nil

theorem attemptAt_cons (time : Nat) (times : List Nat) :
    attemptAt attempt (time :: times) = (do
      let accepted ← attempt
      let made ← attemptAt attempt times
      return ⟨time, accepted⟩ :: made) := by
  simp [attemptAt, List.mapM_cons]

theorem attemptAt_append (times later : List Nat) :
    attemptAt attempt (times ++ later) = (do
      let made ← attemptAt attempt times
      let more ← attemptAt attempt later
      return made ++ more) := by
  simp [attemptAt, List.mapM_append]

/-- Let time pass in several stretches. -/
def passAll (stretches : List Nat) (runner : Runner) : StateM σ Runner :=
  stretches.foldlM (fun runner length => runner.pass attempt length) runner

@[simp] theorem passAll_nil (runner : Runner) : passAll attempt [] runner = pure runner := rfl

theorem passAll_cons (length : Nat) (stretches : List Nat) (runner : Runner) :
    passAll attempt (length :: stretches) runner = (do
      let runner ← runner.pass attempt length
      passAll attempt stretches runner) := rfl

/-! ## From one attempt to the next -/

def atSlot (timer : Timer) (interval period slot : Nat) (attempts : List Attempt) : Runner :=
  { timer, interval, now := slot * period, attempts }

def asleepAt (timer : Timer) (interval period now : Nat) (attempts : List Attempt) : Runner :=
  { timer, interval, now, place := .asleep ((now / period + 1) * period), attempts }

section

variable {timer : Timer} {interval period : Nat}

@[simp] theorem atSlot_now (slot : Nat) (attempts : List Attempt) :
    (atSlot timer interval period slot attempts).now = slot * period := rfl

@[simp] theorem asleepAt_now (now : Nat) (attempts : List Attempt) :
    (asleepAt timer interval period now attempts).now = now := rfl

@[simp] theorem asleepAt_attempts (now : Nat) (attempts : List Attempt) :
    (asleepAt timer interval period now attempts).attempts = attempts := rfl

variable (paces : timer.Paces interval period)
include paces

theorem goOn_atSlot (horizon wakes slot : Nat) (attempts : List Attempt) :
    goOn attempt horizon (wakes + 1) (atSlot timer interval period slot attempts) = (do
      let accepted ← attempt
      goOn attempt horizon wakes
        (asleepAt timer interval period (slot * period)
          (attempts ++ [⟨slot * period, accepted⟩]))) := by
  simp [goOn, tryRun, atSlot, asleepAt, Nat.mul_div_cancel slot paces.positive, paces.next]

/-- A runner wakes at the next multiple, or sleeps on to the horizon. -/
theorem goOn_asleepAt (wakes : Nat) {now horizon : Nat} (ahead : now ≤ horizon)
    (attempts : List Attempt) :
    goOn attempt horizon (wakes + 1) (asleepAt timer interval period now attempts) =
      if now / period < horizon / period then
        goOn attempt horizon wakes (atSlot timer interval period (now / period + 1) attempts)
      else return asleepAt timer interval period horizon attempts := by
  have due : (now / period + 1) * period ≤ horizon ↔ now / period < horizon / period :=
    (Nat.le_div_iff_mul_le paces.positive).symm
  have step : goOn attempt horizon (wakes + 1) (asleepAt timer interval period now attempts) =
      if (now / period + 1) * period ≤ horizon then
        goOn attempt horizon wakes (atSlot timer interval period (now / period + 1) attempts)
      else return { asleepAt timer interval period now attempts with now := horizon } := rfl
  simp only [step, due]
  split
  · rfl
  · rename_i sleeps
    have same : now / period = horizon / period :=
      Nat.le_antisymm (Nat.div_le_div_right ahead) (Nat.not_lt.1 sleeps)
    simp [asleepAt, same]

/-- All attempts up to a horizon, each of which takes two wake-ups. -/
theorem goOn_attempts {horizon : Nat} (rest : Nat) {slot : Nat}
    (last : horizon / period = slot + rest) {wakes : Nat} (enough : 2 * (rest + 1) ≤ wakes)
    (attempts : List Attempt) :
    goOn attempt horizon wakes (atSlot timer interval period slot attempts) = (do
      let made ← attemptAt attempt (slots period slot (horizon / period + 1))
      return asleepAt timer interval period horizon (attempts ++ made)) := by
  -- On the number of multiples between this one and the horizon.
  induction rest generalizing slot wakes attempts with
  | zero =>
    obtain ⟨wakes, rfl⟩ := Nat.exists_eq_add_of_le' enough
    have reached : slot * period ≤ horizon :=
      (Nat.le_div_iff_mul_le paces.positive).1 (Nat.le_of_eq last.symm)
    rw [goOn_atSlot attempt paces, slots_of_lt _ (by omega), attemptAt_cons]
    simp [goOn_asleepAt attempt paces _ reached, Nat.mul_div_cancel slot paces.positive, last]
  | succ rest ih =>
    obtain ⟨wakes, rfl⟩ := Nat.exists_eq_add_of_le' (Nat.le_trans (by omega : 2 ≤ _) enough)
    have below : slot < horizon / period := by omega
    have reached := (Nat.le_div_iff_mul_le paces.positive).1 (Nat.le_of_lt below)
    have later : horizon / period = slot + 1 + rest := by omega
    rw [goOn_atSlot attempt paces, slots_of_lt _ (by omega), attemptAt_cons]
    simp [goOn_asleepAt attempt paces _ reached, Nat.mul_div_cancel slot paces.positive, below,
      ih later (by omega : 2 * (rest + 1) ≤ wakes)]

/-! ## From one stretch of time to the next -/

theorem pass_new (length : Nat) :
    pass attempt length { timer, interval } = (do
      let made ← attemptAt attempt (slots period 0 (length / period + 1))
      return asleepAt timer interval period length made) := by
  have new : ({ timer, interval } : Runner) = atSlot timer interval period 0 [] := by simp [atSlot]
  have few := Nat.div_le_self length period
  rw [pass, new, atSlot_now, Nat.zero_mul, Nat.zero_add,
    goOn_attempts attempt paces (length / period) (Nat.zero_add _).symm (by omega)]
  simp

theorem pass_asleepAt (now length : Nat) (attempts : List Attempt) :
    pass attempt length (asleepAt timer interval period now attempts) = (do
      let made ← attemptAt attempt
        (slots period (now / period + 1) ((now + length) / period + 1))
      return asleepAt timer interval period (now + length) (attempts ++ made)) := by
  have few : (now + length) / period ≤ now / period + length := by
    rw [← Nat.add_mul_div_right now length paces.positive]
    exact Nat.div_le_div_right
      (Nat.add_le_add_left (Nat.le_mul_of_pos_right length paces.positive) now)
  have later : now / period ≤ (now + length) / period :=
    Nat.div_le_div_right (Nat.le_add_right now length)
  rw [pass, asleepAt_now, goOn_asleepAt attempt paces _ (Nat.le_add_right now length)]
  split
  · rename_i wakes
    obtain ⟨rest, last⟩ := Nat.exists_eq_add_of_lt wakes
    exact goOn_attempts attempt paces rest (by omega) (by omega) attempts
  · rename_i sleeps
    have same : (now + length) / period = now / period := by omega
    simp [same]

theorem passAll_asleepAt (stretches : List Nat) (now : Nat) (attempts : List Attempt) :
    passAll attempt stretches (asleepAt timer interval period now attempts) = (do
      let made ← attemptAt attempt
        (slots period (now / period + 1) ((now + stretches.sum) / period + 1))
      return asleepAt timer interval period (now + stretches.sum) (attempts ++ made)) := by
  induction stretches generalizing now attempts with
  | nil => simp
  | cons length stretches ih =>
    have begins : now / period + 1 ≤ (now + length) / period + 1 :=
      Nat.succ_le_succ (Nat.div_le_div_right (Nat.le_add_right now length))
    have ends : (now + length) / period + 1 ≤ (now + length + stretches.sum) / period + 1 :=
      Nat.succ_le_succ (Nat.div_le_div_right (Nat.le_add_right _ _))
    rw [List.sum_cons, ← Nat.add_assoc, ← slots_append period begins ends, attemptAt_append,
      passAll_cons, pass_asleepAt attempt paces]
    simp [ih]

/-- Until it is cancelled, a runner attempts a run at each multiple of its period. -/
theorem passAll_new (length : Nat) (stretches : List Nat) :
    passAll attempt (length :: stretches) { timer, interval } = (do
      let made ← attemptAt attempt
        (slots period 0 ((length + stretches.sum) / period + 1))
      return asleepAt timer interval period (length + stretches.sum) made) := by
  have ends : length / period + 1 ≤ (length + stretches.sum) / period + 1 :=
    Nat.succ_le_succ (Nat.div_le_div_right (Nat.le_add_right _ _))
  rw [← slots_append period (Nat.zero_le _) ends, attemptAt_append, passAll_cons,
    pass_new attempt paces]
  simp [passAll_asleepAt attempt paces]

end

/-! ## After the cancellation -/

theorem pass_cancelled {runner : Runner} (cancelled : runner.cancelled = true) (length : Nat) :
    runner.pass attempt length =
      return { runner with place := .ended, now := runner.now + length } := by
  obtain ⟨timer, interval, now, _, place, attempts⟩ := runner
  obtain rfl : _ = true := cancelled
  cases place <;> rfl

theorem passAll_cancelled (stretches : List Nat) {runner : Runner}
    (cancelled : runner.cancelled = true) :
    (do
      let runner ← passAll attempt stretches runner
      return runner.attempts) = return runner.attempts := by
  induction stretches generalizing runner with
  | nil => rfl
  | cons length stretches ih =>
    rw [passAll_cons, pass_cancelled attempt cancelled, pure_bind]
    exact ih cancelled

end Pace

/-- An attempt that counts how often it was made and is refused the second time. -/
def refusedOnce : StateM Nat Bool := fun made => (made != 1, made + 1)

end Runner

end CloudAudit
