import CloudAudit.Service
/-!
# The schedule

Full runs that start by themselves. A `Runner` attempts a run, sleeps for the interval, and begins
again, until it is cancelled; it looks for a cancellation before each attempt, and a cancellation
wakes it from its sleep. What comes of an attempt does not matter to it. When a sleep ends is for
its timer to say, which may be coarser than the interval.

Times are nanoseconds since the runner was made, at a whole tick of its timer.
-/
set_option autoImplicit false

namespace CloudAudit

/-- When a sleep ends that begins at some time and is to last for some time. -/
structure Timer where
  ends (start length : Nat) : Nat
  deriving Inhabited

def Timer.milliseconds : Timer where
  ends start length := (start + length + 999999) / 1000000 * 1000000

inductive RunnerPlace where
  /-- Before an attempt. -/
  | atHead
  /-- Asleep until a time. -/
  | asleep (due : Nat)
  | ended
  deriving DecidableEq, Repr, Inhabited

structure Attempt where
  time : Nat
  accepted : Bool
  deriving DecidableEq, Repr, Inhabited

structure Runner where
  timer : Timer := .milliseconds
  interval : Nat
  now : Nat := 0
  cancelled : Bool := false
  place : RunnerPlace := .atHead
  /-- The attempts so far, the first one first. -/
  attempts : List Attempt := []
  deriving Inhabited

namespace Runner

def ofSettings? (settings : PipelineSettings) : Option Runner :=
  if settings.automatic then some { interval := settings.interval.totalNanos } else none

def hasEnded (runner : Runner) : Bool :=
  runner.place == .ended

/-- Ask a runner to end. It does so when it next goes on. -/
def cancel (runner : Runner) : Runner :=
  { runner with cancelled := true }

section

variable {σ : Type} (attempt : StateM σ Bool)

def tryRun (runner : Runner) : StateM σ Runner := do
  let accepted ← attempt
  return { runner with
    place := .asleep (runner.timer.ends runner.now runner.interval)
    attempts := runner.attempts ++ [⟨runner.now, accepted⟩] }

/-- Go on until `horizon`: end if cancelled, attempt a run where one is due, and let the clock jump
to the end of a sleep that is over by then. Each wake-up takes two of the `wakes`. -/
def goOn (horizon : Nat) : Nat → Runner → StateM σ Runner
  | 0, runner => return runner
  | wakes + 1, runner =>
    match runner.place with
    | .ended => return { runner with now := horizon }
    | .atHead =>
      if runner.cancelled then return { runner with place := .ended, now := horizon }
      else do goOn horizon wakes (← runner.tryRun attempt)
    | .asleep due =>
      if runner.cancelled then return { runner with place := .ended, now := horizon }
      else if due ≤ horizon then goOn horizon wakes { runner with place := .atHead, now := due }
      else return { runner with now := horizon }

/-- Let time pass. With a timer that ends no sleep before its time, a runner wakes at most once in
each nanosecond. -/
def pass (length : Nat) (runner : Runner) : StateM σ Runner :=
  goOn attempt (runner.now + length) (2 * length + 3) runner

end

def fullRun (deployment : Deployment) : Work Bool := do
  let result ← (Service.collectAndScanAll deployment).run
  Pipeline.settle deployment
  return result.isOk

end Runner

end CloudAudit
