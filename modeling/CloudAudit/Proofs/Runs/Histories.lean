import CloudAudit.Proofs.Runs.Alone
import CloudAudit.Proofs.Runs.Starting
import CloudAudit.Proofs.World.Identifiers
import CloudAudit.Proofs.World.Moments
/-!
# Histories of overlapping runs

Between two phases of a run other runs go on, callers start further runs, and callers ask for
statuses. What each of these keeps holds after any events, and whoever goes through a phase finds
the books as the phases before it left them.
-/
set_option autoImplicit false

namespace CloudAudit

/-! ## Calls and requests -/

/-- Requests after some questions for statuses. -/
inductive Requests.Polled (requests : Requests) : Requests → Prop where
  | refl : Polled requests requests
  | status {after : Requests} (polled : Polled requests after) (kind : OperationKind)
      (id : String) : Polled requests (after.status kind id).2

theorem Requests.Polled.trans {first second third : Requests} (one : first.Polled second)
    (two : second.Polled third) : first.Polled third := by
  induction two with
  | refl => exact one
  | status _ kind id ih => exact ih.status kind id

theorem quiet_polled : Quiet fun old new => old.requests.Polled new.requests where
  refl _ := .refl
  trans one two := one.trans two
  readClock _ := .refl
  mintId _ := .refl
  attempt call books := by
    rw [Books.attempt_run]
    exact .refl
  changeExceptions _ _ := .refl
  changeDeliveries _ _ := .refl
  changePermits _ _ := .refl

/-- Nothing but a run changes the requests, other than by asking for statuses. -/
theorem Web.Call.perform_polled (deployment : Deployment) (caller : Option String)
    {call : Web.Call} (noRun : call.asksForRun = false) (books : Books) :
    books.requests.Polled ((call.perform deployment caller).run.run books).2.requests := by
  refine quiet_polled.perform ?_ ?_ deployment caller noRun books
  · intro report books
    rw [Pipeline.collecting_sameRequests.createObservation report books]
    exact .refl
  · intro kind id books
    exact Requests.Polled.refl.status kind id

/-- What phases, starts of runs and questions for statuses keep while identifiers last, in whatever
order the runs stand. -/
structure Carried (deployment : Deployment)
    (holds : List Moment → List Run → Requests → Supply → Prop) : Prop where
  perm : ∀ {past : List Moment} {runs others : List Run} {requests : Requests} {supply : Supply},
    holds past runs requests supply → runs.Perm others → holds past others requests supply
  step : ∀ {past : List Moment} {run : Run} {others : List Run} {books : Books},
    holds past (run :: others) books.requests books.supply →
      holds (past ++ [⟨run, books⟩]) (((Pipeline.step deployment run).run books).1 :: others)
        ((Pipeline.step deployment run).run books).2.requests
        ((Pipeline.step deployment run).run books).2.supply
  leave : ∀ {past : List Moment} {run : Run} {others : List Run} {requests : Requests}
      {supply : Supply},
    holds past (run :: others) requests supply → run.isFinished = true →
      holds past others requests supply
  status : ∀ {past : List Moment} {runs : List Run} {requests : Requests} {supply : Supply},
    holds past runs requests supply → ∀ kind id,
      holds past runs (requests.status kind id).2 supply
  minted : ∀ {past : List Moment} {runs : List Run} {requests : Requests} {supply later : Supply},
    holds past runs requests supply → supply.minted ≤ later.minted →
      holds past runs requests later
  starts : ∀ {past : List Moment} {runs : List Run} {books : Books},
    holds past runs books.requests books.supply → books.supply.minted + 2 ≤ 2 ^ 128 → ∀ groups,
      holds past (books.nextRun groups :: runs) books.requests
        (books.withRuns [books.nextRun groups]).supply

namespace Carried

variable {deployment : Deployment} {holds : List Moment → List Run → Requests → Supply → Prop}
  (carried : Carried deployment holds)
include carried

theorem polled {past : List Moment} {runs : List Run} {requests after : Requests}
    {supply : Supply} (held : holds past runs requests supply) (polled : requests.Polled after) :
    holds past runs after supply := by
  induction polled with
  | refl => exact held
  | status _ kind id ih => exact carried.status ih kind id

theorem lasting : Lasting deployment fun past runs books =>
    books.supply.minted ≤ 2 ^ 128 → holds past runs books.requests books.supply where
  step := by
    intro past before after run books held _ enough
    have enoughBefore := Nat.le_trans (steady_minted.step deployment run books) enough
    -- The run may stand anywhere among those under way; `step` has it first.
    have first := carried.perm (held enoughBefore) List.perm_middle
    exact carried.perm (carried.step first) List.perm_middle.symm
  leave := by
    intro past before after run books held finished enough
    exact carried.leave (carried.perm (held enough) List.perm_middle) finished
  underWay held _ := held
  permits held _ := held
  disturb held _ _ := held
  call := by
    intro past books caller request held enough
    have minted := steady_minted.perform deployment caller request books
    have before := held (Nat.le_trans minted enough)
    cases asks : request.asksForRun with
    | false =>
      rw [running_sameUnderWay.perform deployment caller asks books]
      have polled := request.perform_polled deployment caller asks books
      exact carried.polled (carried.minted before minted) polled
    | true =>
      rcases request.perform_run deployment caller asks books with
        same | refused | ⟨groups, started⟩
      · rw [same]
        exact before
      · have unchanged : (books.withRuns []).underWay = books.underWay := List.append_nil _
        rw [refused, unchanged]
        exact carried.minted before (Nat.le_add_right _ 2)
      · rw [started] at enough ⊢
        exact carried.perm (carried.starts before enough groups)
          (List.perm_append_singleton _ _).symm

/-- What phases and starts keep holds after any events from the start. -/
theorem after {supply : Supply} (start : holds [] [] {} supply) {events : List Event}
    (enough : ((Books.fresh supply).after deployment events).supply.minted ≤ 2 ^ 128) :
    holds ((Books.fresh supply).moments deployment events)
      ((Books.fresh supply).after deployment events).underWay
      ((Books.fresh supply).after deployment events).requests
      ((Books.fresh supply).after deployment events).supply := by
  have begun : (Books.fresh supply).supply.minted ≤ 2 ^ 128 →
      holds [] (Books.fresh supply).underWay (Books.fresh supply).requests
        (Books.fresh supply).supply := fun _ => start
  exact carried.lasting.after events begun enough

end Carried

/-! ## From one moment to the next -/

def Moment.left (deployment : Deployment) (moment : Moment) : Books :=
  ((Pipeline.step deployment moment.run).run moment.books).2

/-- A moment of a history that goes on is the last one, or it was there before. -/
theorem Moment.last_or_earlier {past before later : List Moment} {last moment : Moment}
    (split : past ++ [last] = before ++ moment :: later) :
    (later = [] ∧ moment = last) ∨
      ∃ earlier, later = earlier ++ [last] ∧ past = before ++ moment :: earlier := by
  rcases List.eq_nil_or_concat later with rfl | ⟨earlier, final, rfl⟩
  · obtain ⟨-, same⟩ := List.append_inj' split rfl
    exact .inl ⟨rfl, (List.cons.inj same).1.symm⟩
  · rw [List.concat_eq_append, ← List.cons_append, ← List.append_assoc] at split
    obtain ⟨same, final⟩ := List.append_inj' split rfl
    obtain rfl := (List.cons.inj final).1
    exact .inr ⟨earlier, List.concat_eq_append, same⟩

theorem Moment.exists_at {past : List Moment} {holds : Moment → Prop} (place : Nat)
    (reached : place < past.length) (here : ∀ moment ∈ (past.drop place).head?, holds moment) :
    ∃ before moment later, past = before ++ moment :: later ∧ holds moment ∧
      later = (past.drop place).tail := by
  have long : 0 < (past.drop place).length := by
    rw [List.length_drop]
    omega
  obtain ⟨moment, later, rest⟩ := List.exists_cons_of_length_pos long
  rw [rest] at here ⊢
  refine ⟨past.take place, moment, later, ?_, here moment rfl, rfl⟩
  rw [← rest, List.take_append_drop]

/-- What phases and starts keep holds at each moment after a given past, with the run of the moment
first. -/
theorem Carried.throughout {deployment : Deployment}
    {holds : List Moment → List Run → Requests → Supply → Prop}
    (carried : Carried deployment holds) (first : List Moment) :
    Carried deployment fun past runs requests supply =>
      holds past runs requests supply ∧
        ∀ before moment later, past = first ++ before ++ moment :: later →
          ∃ others, holds (first ++ before) (moment.run :: others) moment.books.requests
            moment.books.supply where
  perm held same := ⟨carried.perm held.1 same, held.2⟩
  step := by
    intro past run others books held
    refine ⟨carried.step held.1, ?_⟩
    intro before moment later split
    rcases Moment.last_or_earlier split with ⟨rfl, rfl⟩ | ⟨earlier, rfl, known⟩
    · obtain ⟨rfl, -⟩ := List.append_inj' split rfl
      exact ⟨others, held.1⟩
    · exact held.2 before moment earlier known
  leave held finished := ⟨carried.leave held.1 finished, held.2⟩
  status held kind id := ⟨carried.status held.1 kind id, held.2⟩
  minted held more := ⟨carried.minted held.1 more, held.2⟩
  starts held enough groups := ⟨carried.starts held.1 enough groups, held.2⟩

/-- What each moment left leads to the later ones and to the books. -/
def Kept (deployment : Deployment) (relation : Books → Books → Prop) (past : List Moment)
    (books : Books) : Prop :=
  ∀ before moment later, past = before ++ moment :: later →
    (∀ next ∈ later, relation (moment.left deployment) next.books) ∧
      relation (moment.left deployment) books

section

variable {relation : Books → Books → Prop} (steady : Steady relation) {deployment : Deployment}
  {past : List Moment} {books after : Books}
include steady

theorem Kept.further (kept : Kept deployment relation past books) (leads : relation books after) :
    Kept deployment relation past after := by
  intro before moment later split
  obtain ⟨between, last⟩ := kept before moment later split
  exact ⟨between, steady.trans last leads⟩

omit steady in
theorem Kept.last (kept : Kept deployment relation past books) {moment : Moment}
    (isPast : moment ∈ past) : relation (moment.left deployment) books := by
  obtain ⟨before, later, split⟩ := List.append_of_mem isPast
  exact (kept before moment later split).2

theorem Kept.append (kept : Kept deployment relation past books) (run : Run) :
    Kept deployment relation (past ++ [⟨run, books⟩])
      ((Pipeline.step deployment run).run books).2 := by
  intro before moment later split
  rcases Moment.last_or_earlier split with ⟨rfl, rfl⟩ | ⟨earlier, rfl, known⟩
  · exact ⟨by simp, steady.refl _⟩
  · obtain ⟨between, reached⟩ := kept before moment earlier known
    refine ⟨?_, steady.trans reached (steady.step deployment run books)⟩
    intro next member
    rcases List.mem_append.1 member with isEarlier | isLast
    · exact between next isEarlier
    · rw [List.mem_singleton] at isLast
      subst isLast
      exact reached

theorem Kept.lasting
    (failing : ∀ books fails losesCreated, relation books { books with fails, losesCreated }) :
    Lasting deployment fun past _ books => Kept deployment relation past books where
  step kept _ := kept.append steady _
  leave kept _ := kept
  underWay kept _ := kept.further steady (steady.changeUnderWay _ _)
  permits kept _ := kept.further steady (steady.changePermits _ _)
  disturb kept _ _ := kept.further steady (failing _ _ _)
  call caller request kept := kept.further steady (steady.perform deployment caller request _)

theorem Steady.keeps
    (failing : ∀ books fails losesCreated, relation books { books with fails, losesCreated })
    (deployment : Deployment) (books : Books) (events : List Event) :
    Kept deployment relation (books.moments deployment events)
      (books.after deployment events) := by
  have start : Kept deployment relation [] books := by
    intro before moment later split
    simp at split
  exact (Kept.lasting steady failing).after events start

end

/-! ## Moments of calm events -/

section

variable {relation : Books → Books → Prop} {deployment : Deployment}

theorem Running.moments (running : Running relation) (steps : Nat) (run : Run) (books : Books) :
    ∀ moment ∈ Pipeline.moments deployment steps run books, relation books moment.books := by
  induction steps generalizing run books with
  | zero => simp [Pipeline.moments]
  | succ steps ih =>
    intro moment member
    rw [Pipeline.moments] at member
    split at member
    · cases member
    · rcases List.mem_cons.1 member with rfl | later
      · exact running.refl books
      · exact running.trans (running.step deployment run books) (ih _ _ moment later)

theorem Running.settleMoments (running : Running relation) (runs : List Run) (books : Books) :
    ∀ moment ∈ Pipeline.settleMoments deployment runs books, relation books moment.books := by
  induction runs generalizing books with
  | nil => simp [Pipeline.settleMoments]
  | cons run runs ih =>
    intro moment member
    rw [Pipeline.settleMoments] at member
    rcases List.mem_append.1 member with now | later
    · exact running.moments _ _ _ moment now
    · exact running.trans (running.advance deployment _ run books) (ih _ moment later)

theorem Steady.moments_calm (steady : Steady relation) {events : List Event}
    (calm : ∀ event ∈ events, event.isCalm = true) (books : Books) :
    ∀ moment ∈ books.moments deployment events, relation books moment.books := by
  induction events generalizing books with
  | nil => simp [Books.moments]
  | cons event events ih =>
    obtain ⟨first, rest⟩ := List.forall_mem_cons.1 calm
    intro moment member
    rw [Books.moments] at member
    rcases List.mem_append.1 member with now | later
    · cases event with
      | turn place =>
        rw [Event.moments] at now
        split at now
        · cases now
        · split at now
          · cases now
          · rw [List.mem_singleton] at now
            subst now
            exact steady.refl books
      | settle => exact steady.toRunning.settleMoments _ _ moment now
      | call | permit | disturb => cases now
    · exact steady.trans (steady.happen_calm deployment first books) (ih rest _ moment later)

end

/-! ## Accepted runs -/

def Event.accepted (deployment : Deployment) (books : Books) : Event → List Run
  | .call caller request =>
    ((request.perform deployment caller).run.run books).2.underWay.drop books.underWay.length
  | .turn _ | .settle | .permit _ | .disturb .. => []

def Books.accepted (deployment : Deployment) : Books → List Event → List Run
  | _, [] => []
  | books, event :: events =>
    event.accepted deployment books ++
      Books.accepted deployment ((event.happen deployment).run books).2 events

theorem Event.accepted_starting (deployment : Deployment) (books : Books) (event : Event) :
    ∀ run ∈ event.accepted deployment books, run.phase = .starting ∧
      run ∈ ((event.happen deployment).run books).2.underWay := by
  intro run member
  cases event with
  | call caller request =>
    rw [accepted] at member
    have under : run ∈ ((request.perform deployment caller).run.run books).2.underWay :=
      List.mem_of_mem_drop member
    refine ⟨?_, under⟩
    cases asks : request.asksForRun with
    | false =>
      rw [running_sameUnderWay.perform deployment caller asks books, List.drop_length] at member
      cases member
    | true =>
      rcases request.perform_run deployment caller asks books with
        same | refused | ⟨groups, started⟩
      · rw [same, List.drop_length] at member
        cases member
      · have unchanged : (books.withRuns []).underWay = books.underWay := List.append_nil _
        rw [refused, unchanged, List.drop_length] at member
        cases member
      · have added : (books.withRuns [books.nextRun groups]).underWay =
            books.underWay ++ [books.nextRun groups] := rfl
        rw [started, added, List.drop_left, List.mem_singleton] at member
        rw [member]
        rfl
  | turn | settle | permit | disturb => cases member

/-- A run is under way as it stands or was so at some moment. -/
def Begun (run : Run) (past : List Moment) (runs : List Run) : Prop :=
  run ∈ runs ∨ ∃ moment ∈ past, moment.run = run

theorem Begun.lasting (deployment : Deployment) {run : Run} (unfinished : run.isFinished = false) :
    Lasting deployment fun past runs _ => Begun run past runs where
  step := by
    rintro past before after other books (waits | ⟨moment, isPast, same⟩) -
    · by_cases same : run = other
      · exact .inr ⟨⟨other, books⟩, by simp, same.symm⟩
      · left
        simp only [List.mem_append, List.mem_cons, same, false_or] at waits ⊢
        rcases waits with isBefore | isAfter
        · exact .inl isBefore
        · exact .inr (.inr isAfter)
    · exact .inr ⟨moment, List.mem_append_left _ isPast, same⟩
  leave := by
    rintro past before after other books (waits | went) finished
    · left
      have distinct : run ≠ other := by
        rintro rfl
        rw [unfinished] at finished
        cases finished
      simp only [List.mem_append, List.mem_cons, distinct, false_or] at waits
      exact List.mem_append.2 waits
    · exact .inr went
  underWay begun _ := begun
  permits begun _ := begun
  disturb begun _ _ := begun
  call := by
    rintro past books caller request (waits | went)
    · left
      cases asks : request.asksForRun with
      | false =>
        rw [running_sameUnderWay.perform deployment caller asks books]
        exact waits
      | true =>
        rcases request.perform_run deployment caller asks books with
          same | refused | ⟨groups, started⟩
        · rw [same]
          exact waits
        · rw [refused]
          exact List.mem_append_left _ waits
        · rw [started]
          exact List.mem_append_left _ waits
    · exact .inr went

theorem Books.accepted_begun (deployment : Deployment) (events : List Event) (books : Books) :
    ∀ run ∈ books.accepted deployment events, run.phase = .starting ∧
      Begun run (books.moments deployment events) (books.after deployment events).underWay := by
  induction events generalizing books with
  | nil => simp [Books.accepted]
  | cons event events ih =>
    intro run member
    rw [Books.accepted] at member
    rw [Books.after_cons, Books.moments]
    have later : ∀ {rest : List Moment} {runs : List Run}, Begun run rest runs →
        Begun run (event.moments deployment books ++ rest) runs := by
      rintro rest runs (waits | ⟨moment, isPast, same⟩)
      · exact .inl waits
      · exact .inr ⟨moment, List.mem_append_right _ isPast, same⟩
    rcases List.mem_append.1 member with now | accepted
    · obtain ⟨starting, under⟩ := event.accepted_starting deployment books run now
      -- It stays under way until its first phase, since it cannot leave before it is finished.
      have unfinished : run.isFinished = false := by
        rw [Run.isFinished, starting]
        rfl
      have start : Begun run [] ((event.happen deployment).run books).2.underWay := .inl under
      have begun := (Begun.lasting deployment unfinished).after events start
      rw [List.nil_append] at begun
      exact ⟨starting, later begun⟩
    · obtain ⟨starting, begun⟩ := ih _ run accepted
      exact ⟨starting, later begun⟩

end CloudAudit
