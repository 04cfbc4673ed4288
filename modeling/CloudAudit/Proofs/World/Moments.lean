import CloudAudit.Proofs.World.Events
/-!
# Every phase of every run

Events take runs through their phases, one at a time or several in a row. A `Moment` is a run that
is about to go through a phase, with the books at that time. What each phase and each call keeps,
all events keep.
-/
set_option autoImplicit false

namespace CloudAudit

/-- A run right before a phase. -/
structure Moment where
  run : Run
  books : Books

theorem running_sameUnderWay : Running fun old new => new.underWay = old.underWay :=
  .of_view Books.underWay fun _ _ _ _ _ _ _ _ => rfl

namespace Pipeline

/-- The moments on the way of a run that goes as far as it can. -/
def moments (deployment : Deployment) : Nat → Run → Books → List Moment
  | 0, _, _ => []
  | steps + 1, run, books =>
    if run.isFinished || isWaiting deployment books run then []
    else
      ⟨run, books⟩ ::
        moments deployment steps ((step deployment run).run books).1
          ((step deployment run).run books).2

/-- The moments on the ways of several runs, one run after the other. -/
def settleMoments (deployment : Deployment) : List Run → Books → List Moment
  | [], _ => []
  | run :: runs, books =>
    moments deployment run.phase.left run books ++
      settleMoments deployment runs ((proceed deployment run).run books).2

end Pipeline

def Event.moments (deployment : Deployment) (books : Books) : Event → List Moment
  | .turn place =>
    match books.underWay[place]? with
    | none => []
    | some run => if Pipeline.isWaiting deployment books run then [] else [⟨run, books⟩]
  | .settle => Pipeline.settleMoments deployment books.underWay books
  | .call .. | .permit _ | .disturb .. => []

def Books.moments (deployment : Deployment) : Books → List Event → List Moment
  | _, [] => []
  | books, event :: events =>
    event.moments deployment books ++
      Books.moments deployment ((event.happen deployment).run books).2 events

/-- What holds of the past moments, the runs under way and the books, whatever happens. The runs
stand apart from the books, which learn of them only at the end of an event. -/
structure Lasting (deployment : Deployment) (holds : List Moment → List Run → Books → Prop) :
    Prop where
  step : ∀ {past : List Moment} {before after : List Run} {run : Run} {books : Books},
    holds past (before ++ run :: after) books → Pipeline.isWaiting deployment books run = false →
      holds (past ++ [⟨run, books⟩])
        (before ++ ((Pipeline.step deployment run).run books).1 :: after)
        ((Pipeline.step deployment run).run books).2
  leave : ∀ {past : List Moment} {before after : List Run} {run : Run} {books : Books},
    holds past (before ++ run :: after) books → run.isFinished = true →
      holds past (before ++ after) books
  underWay : ∀ {past : List Moment} {runs : List Run} {books : Books},
    holds past runs books → ∀ underWay, holds past runs { books with underWay }
  permits : ∀ {past : List Moment} {runs : List Run} {books : Books},
    holds past runs books → ∀ permits, holds past runs { books with permits }
  disturb : ∀ {past : List Moment} {runs : List Run} {books : Books},
    holds past runs books → ∀ fails losesCreated,
      holds past runs { books with fails, losesCreated }
  call : ∀ {past : List Moment} {books : Books} (caller : Option String) (request : Web.Call),
    holds past books.underWay books →
      holds past ((request.perform deployment caller).run.run books).2.underWay
        ((request.perform deployment caller).run.run books).2

namespace Lasting

variable {deployment : Deployment} {holds : List Moment → List Run → Books → Prop}
  (lasting : Lasting deployment holds)
include lasting

theorem advance (steps : Nat) {past : List Moment} {before after : List Run} {run : Run}
    {books : Books} (start : holds past (before ++ run :: after) books) :
    holds (past ++ Pipeline.moments deployment steps run books)
      (before ++ ((Pipeline.advance deployment steps run).run books).1 :: after)
      ((Pipeline.advance deployment steps run).run books).2 := by
  induction steps generalizing past run books with
  | zero =>
    rw [Pipeline.moments, List.append_nil]
    exact start
  | succ steps ih =>
    simp only [Pipeline.advance, Pipeline.moments, StateT.run_bind, StateT.run_get, pure_bind]
    by_cases stops : (run.isFinished || Pipeline.isWaiting deployment books run) = true
    · rw [if_pos stops, if_pos stops, List.append_nil]
      exact start
    · rw [if_neg stops, if_neg stops, List.append_cons]
      have goesOn : Pipeline.isWaiting deployment books run = false := by
        simp only [Bool.or_eq_true, not_or, Bool.not_eq_true] at stops
        exact stops.2
      exact ih (lasting.step start goesOn)

theorem settleRuns (runs : List Run) {past : List Moment} {before : List Run} {books : Books}
    (start : holds past (before ++ runs) books) :
    holds (past ++ Pipeline.settleMoments deployment runs books)
      (before ++ ((runs.mapM (Pipeline.proceed deployment)).run books).1)
      ((runs.mapM (Pipeline.proceed deployment)).run books).2 := by
  induction runs generalizing past before books with
  | nil =>
    rw [Pipeline.settleMoments, List.append_nil]
    exact start
  | cons run runs ih =>
    have first := lasting.advance run.phase.left start
    rw [List.append_cons] at first
    have rest := ih first
    rw [List.append_assoc, ← List.append_cons] at rest
    rw [List.mapM_cons]
    exact rest

theorem leaveFinished (runs : List Run) {past : List Moment} {before : List Run} {books : Books}
    (start : holds past (before ++ runs) books) :
    holds past (before ++ runs.filter fun run => !run.isFinished) books := by
  induction runs generalizing before with
  | nil => exact start
  | cons run runs ih =>
    by_cases finished : run.isFinished = true
    · rw [List.filter_cons_of_neg (by simp [finished])]
      exact ih (lasting.leave start finished)
    · rw [List.filter_cons_of_pos (by simp [finished]), List.append_cons]
      rw [List.append_cons] at start
      exact ih start

theorem takeTurn (place : Nat) {past : List Moment} {books : Books}
    (start : holds past books.underWay books) :
    holds (past ++ (Event.turn place).moments deployment books)
      ((Event.takeTurn deployment place).run books).2.underWay
      ((Event.takeTurn deployment place).run books).2 := by
  simp only [Event.takeTurn, Event.moments, StateT.run_bind, StateT.run_get, pure_bind]
  cases found : books.underWay[place]? with
  | none =>
    rw [List.append_nil]
    exact start
  | some run =>
    simp only
    by_cases waits : Pipeline.isWaiting deployment books run = true
    · rw [if_pos waits, if_pos waits, List.append_nil]
      exact start
    · rw [if_neg waits, if_neg waits]
      obtain ⟨inside, same⟩ := List.getElem?_eq_some_iff.1 found
      have split : books.underWay =
          books.underWay.take place ++ run :: books.underWay.drop (place + 1) := by
        rw [← same, ← List.drop_eq_getElem_cons inside, List.take_append_drop]
      have goesOn : Pipeline.isWaiting deployment books run = false := by simpa using waits
      have next := lasting.step (split ▸ start) goesOn
      have unchanged := running_sameUnderWay.step deployment run books
      have result : ((do
          let next ← Pipeline.step deployment run
          modify fun books =>
            { books with
              underWay :=
                if next.isFinished then books.underWay.eraseIdx place
                else books.underWay.set place next } : Work Unit).run books).2 =
          { ((Pipeline.step deployment run).run books).2 with
            underWay :=
              if ((Pipeline.step deployment run).run books).1.isFinished then
                ((Pipeline.step deployment run).run books).2.underWay.eraseIdx place
              else
                ((Pipeline.step deployment run).run books).2.underWay.set place
                  ((Pipeline.step deployment run).run books).1 } := rfl
      rw [result, unchanged]
      refine lasting.underWay ?_ _
      split
      · rename_i finished
        rw [List.eraseIdx_eq_take_drop_succ]
        exact lasting.leave next finished
      · rw [List.set_eq_take_append_cons_drop, if_pos inside]
        exact next

theorem happen (event : Event) {past : List Moment} {books : Books}
    (start : holds past books.underWay books) :
    holds (past ++ event.moments deployment books)
      ((event.happen deployment).run books).2.underWay
      ((event.happen deployment).run books).2 := by
  cases event with
  | call caller request =>
    rw [Event.moments, List.append_nil]
    exact lasting.call caller request start
  | turn place => exact lasting.takeTurn place start
  | settle =>
    have begun : holds past ([] ++ books.underWay) books := start
    have settled := lasting.settleRuns _ begun
    exact lasting.underWay (lasting.leaveFinished _ settled) _
  | permit count =>
    rw [Event.moments, List.append_nil]
    exact lasting.permits start _
  | disturb fails losesCreated =>
    rw [Event.moments, List.append_nil]
    exact lasting.disturb start fails losesCreated

theorem after (events : List Event) {past : List Moment} {books : Books}
    (start : holds past books.underWay books) :
    holds (past ++ books.moments deployment events) (books.after deployment events).underWay
      (books.after deployment events) := by
  induction events generalizing past books with
  | nil =>
    rw [Books.moments, List.append_nil]
    exact start
  | cons event events ih =>
    rw [Books.moments, Books.after_cons, ← List.append_assoc]
    exact ih (lasting.happen event start)

end Lasting

end CloudAudit
