import CloudAudit.Proofs.Runs.Starting
/-!
# Calls that are refused

A call that answers an error leaves the books as they were, up to the clock, the identifiers that
were handed out and the number of calls on the store. The one exception is a report that the store
keeps without handing it back.
-/
set_option autoImplicit false

namespace CloudAudit

namespace Books

/-- Whether later books differ at most in the clock, the identifiers that were handed out and the
number of calls on the store. -/
def Untouched (books after : Books) : Prop :=
  ∃ supply storeCalls, after = { books with supply, storeCalls }

namespace Untouched

theorem refl (books : Books) : books.Untouched books :=
  ⟨books.supply, books.storeCalls, rfl⟩

theorem trans {first second third : Books} (one : first.Untouched second)
    (two : second.Untouched third) : first.Untouched third := by
  obtain ⟨_, _, rfl⟩ := one
  obtain ⟨supply, storeCalls, rfl⟩ := two
  exact ⟨supply, storeCalls, rfl⟩

end Untouched

/-- Whether an action, where it fails, leaves the books untouched. -/
def Cautious {α : Type} (action : Act α) : Prop :=
  ∀ books after error, action.run.run books = (.error error, after) → books.Untouched after

section Composition

variable {α β : Type} {action : Act α} {next : α → Act β}

theorem Cautious.of_along (reads : Along Untouched action.run) : Cautious action := by
  intro books after error ran
  have untouched := reads books
  rwa [ran] at untouched

/-- What fails after an action that only reads left all as it was or failed in what came after. -/
theorem untouched_or_failed {books after : Books} {error : AuditError}
    (reads : Along Untouched action.run)
    (ran : (action >>= next).run.run books = (.error error, after)) :
    books.Untouched after ∨
      ∃ value middle, books.Untouched middle ∧
        (next value).run.run middle = (.error error, after) := by
  rcases bind_error ran with failed | ⟨value, middle, read, failed⟩
  · exact .inl (Cautious.of_along reads books after error failed)
  · have untouched := reads books
    rw [read] at untouched
    exact .inr ⟨value, middle, untouched, failed⟩

theorem Cautious.bind (reads : Along Untouched action.run)
    (second : ∀ value, Cautious (next value)) : Cautious (action >>= next) := by
  intro books after error ran
  rcases untouched_or_failed reads ran with untouched | ⟨value, middle, untouched, failed⟩
  · exact untouched
  · exact untouched.trans (second value middle after error failed)

/-- Whether an action that fails leaves the books untouched, or has left them so when it comes to a
certain outcome. -/
def CautiousBut {α : Type} (outcome : Books → AuditError → Books → Prop) (action : Act α) : Prop :=
  ∀ books after error, action.run.run books = (.error error, after) →
    books.Untouched after ∨ ∃ middle, books.Untouched middle ∧ outcome middle error after

theorem CautiousBut.bind {outcome : Books → AuditError → Books → Prop}
    (reads : Along Untouched action.run)
    (second : ∀ value, CautiousBut outcome (next value)) :
    CautiousBut outcome (action >>= next) := by
  intro books after error ran
  rcases untouched_or_failed reads ran with untouched | ⟨value, middle, reached, failed⟩
  · exact .inl untouched
  · rcases second value middle after error failed with untouched | ⟨last, further, came⟩
    · exact .inl (reached.trans untouched)
    · exact .inr ⟨last, reached.trans further, came⟩

theorem map_error {function : α → β} {books after : Books} {error : AuditError}
    (ran : (function <$> action).run.run books = (.error error, after)) :
    action.run.run books = (.error error, after) := by
  rw [map_run] at ran
  cases first : action.run.run books with
  | mk answer middle =>
    rw [first] at ran
    cases answer with
    | ok value => cases ran
    | error failure =>
      cases ran
      rfl

theorem Cautious.map (cautious : Cautious action) (function : α → β) :
    Cautious (function <$> action) :=
  fun books after error ran => cautious books after error (map_error ran)

theorem untouched_bind (first : Along Untouched action.run)
    (second : ∀ value, Along Untouched (next value).run) :
    Along Untouched (action >>= next).run := by
  intro books
  have untouched := first books
  cases ran : action.run.run books with
  | mk answer middle =>
    rw [ran] at untouched
    cases answer with
    | ok value =>
      rw [show (action >>= next).run.run books = _ from bind_run_ok ran]
      exact untouched.trans (second value middle)
    | error error =>
      rw [show (action >>= next).run.run books = _ from bind_run_error ran]
      exact untouched

end Composition

/-! ## Actions that only read -/

theorem untouched_settled {α : Type} (result : Except AuditError α) :
    Along Untouched (settled result).run :=
  fun books => .refl books

/-- Looking something up in the store only reads, whether the call on the store fails or not. -/
theorem untouched_lookup {α : Type} (call : StoreCall) (answer : Store → Except AuditError α) :
    Along Untouched (do
      attempt call
      let books ← get
      settled (answer books.store) : Act α).run := by
  refine untouched_bind (fun books => ?_) fun _ books => .refl books
  rw [show (attempt call).run.run books = _ from attempt_run books call]
  exact ⟨_, _, rfl⟩

theorem untouched_readClock : Along Untouched (liftM readClock : Act Instant).run :=
  fun _ => ⟨_, _, rfl⟩

theorem untouched_mintId : Along Untouched (liftM mintId : Act String).run :=
  fun _ => ⟨_, _, rfl⟩

end Books

open Books (Untouched Cautious)

namespace Service

theorem untouched_validateGroups (deployment : Deployment) (requested : List String) :
    Along Untouched (validateGroups deployment requested).run := by
  obtain ⟨answer, ran⟩ := validateGroups_run deployment requested
  intro books
  rw [show (validateGroups deployment requested).run.run books = _ from ran books]
  exact .refl books

theorem untouched_listObservations (deployment : Deployment) (requested : List String) :
    Along Untouched (listObservations deployment requested).run :=
  Books.untouched_bind (untouched_validateGroups _ _) fun _ =>
    Books.untouched_bind Books.untouched_readClock fun _ =>
      Books.untouched_bind (Books.untouched_settled _) fun _ =>
        Books.untouched_bind (Books.untouched_lookup _ fun store => store.listObservations _)
          fun _ =>
            Books.untouched_bind (Books.untouched_lookup _ fun store => store.listOperations _)
              fun _ books => .refl books

theorem cautious_collectAndScan (deployment : Deployment) (requested : List String) :
    Cautious (collectAndScan deployment requested) := by
  intro books after error ran
  obtain ⟨answer, runs⟩ := collectAndScan_run deployment requested
  rw [(runs books).2] at ran
  cases answer with
  | ok groups => cases ran
  | error refusal =>
    cases ran
    exact .refl books

theorem cautious_collectAndScanAll (deployment : Deployment) :
    Cautious (collectAndScanAll deployment) := by
  intro books after error ran
  rw [collectAndScanAll, Pipeline.start_run] at ran
  cases covered : Pipeline.covered deployment [] .full with
  | ok groups =>
    rw [covered] at ran
    cases ran
  | error refusal =>
    rw [covered] at ran
    cases ran
    refine ⟨⟨books.supply.toClock, books.supply.minted + 2⟩, books.storeCalls, ?_⟩
    rw [Books.withRuns, List.append_nil]

/-! ## Exceptions -/

theorem untouched_requireExceptions (deployment : Deployment) :
    Along Untouched (Notifier.requireExceptions deployment).run := by
  intro books
  unfold Notifier.requireExceptions
  split <;> exact .refl books

theorem untouched_ownedException (deployment : Deployment) (user uuid : String) :
    Along Untouched (ownedException deployment user uuid).run := by
  refine Books.untouched_bind ?_ fun wish books => ?_
  · refine Books.untouched_bind (untouched_requireExceptions _) fun _ books => ?_
    rw [Books.bind_run_ok books.get_run]
    split <;> exact .refl books
  · split <;> exact .refl books

theorem untouched_authenticate (caller : Option String) :
    Along Untouched (authenticate caller).run :=
  Books.untouched_settled _

theorem untouched_listExceptions (deployment : Deployment) (caller : Option String) (size : Nat)
    (token : Option String) :
    Along Untouched (listExceptions deployment caller size token).run :=
  Books.untouched_bind (untouched_authenticate _) fun _ =>
    Books.untouched_bind (untouched_requireExceptions _) fun _ books => .refl books

theorem cautious_createException (deployment : Deployment) (caller : Option String)
    (wish : NotificationException) : Cautious (createException deployment caller wish) := by
  refine .bind (untouched_authenticate _) fun user => ?_
  split
  · exact .of_along fun books => .refl books
  · refine .bind (untouched_requireExceptions _) fun _ => ?_
    refine .bind Books.untouched_mintId fun uuid => .bind Books.untouched_readClock fun now => ?_
    -- From here on nothing can fail.
    intro books after error ran
    cases ran

theorem cautious_updateException (deployment : Deployment) (caller : Option String)
    (uuid : String) (wish : NotificationException) :
    Cautious (updateException deployment caller uuid wish) := by
  refine .bind (untouched_authenticate _) fun user => ?_
  refine .bind (untouched_ownedException _ _ _) fun existing => ?_
  refine .bind (untouched_requireExceptions _) fun _ books after error ran => ?_
  rw [Books.bind_run_ok books.get_run] at ran
  split at ran
  · cases ran
  · cases ran
    exact .refl books

theorem cautious_deleteException (deployment : Deployment) (caller : Option String)
    (uuid : String) : Cautious (deleteException deployment caller uuid) := by
  refine .bind (untouched_authenticate _) fun user => ?_
  refine .bind (untouched_ownedException _ _ _) fun existing => ?_
  refine .bind (untouched_requireExceptions _) fun _ books after error ran => ?_
  rw [Books.bind_run_ok books.get_run] at ran
  split at ran
  · cases ran
  · cases ran
    exact .refl books

/-! ## Reports -/

/-- The error of a report that the store kept without handing it back. -/
def lost : AuditError := .storage "unexpected number of created observations"

theorem untouched_reportUid (uid : String) :
    Along Untouched (liftM (reportUid uid) : Act String).run := by
  unfold reportUid
  split
  · exact Books.untouched_mintId
  · exact fun books => .refl books

/-- Storing a report fails and leaves all as it was, or it keeps the report and the store does not
hand it back. -/
theorem storeReport_error {observation : Observation} {books after : Books} {error : AuditError}
    (ran : (do
      let stored ← Books.addObservations [observation]
      Books.settled (onlyStored stored) : Act Observation).run.run books = (.error error, after)) :
    books.Untouched after ∨
      books.losesCreated = true ∧ error = lost ∧
        Untouched { books with store := books.store.addObservations [observation] } after := by
  rcases Books.bind_error ran with failed | ⟨stored, kept, keeps, failed⟩
  · rw [Books.addObservations_run] at failed
    split at failed
    · cases failed
      exact .inl ⟨_, _, rfl⟩
    · cases failed
  · rw [Books.addObservations_run] at keeps
    split at keeps
    · cases keeps
    · cases keeps
      cases loses : books.losesCreated with
      | false =>
        rw [loses] at failed
        cases failed
      | true =>
        rw [loses] at failed
        cases failed
        exact .inr ⟨rfl, rfl, ⟨books.supply, books.storeCalls + 1, by rw [← loses]; rfl⟩⟩

theorem createObservation_error {report : Observation} {books after : Books} {error : AuditError}
    (ran : (createObservation report).run.run books = (.error error, after)) :
    books.Untouched after ∨
      books.losesCreated = true ∧ error = lost ∧ ∃ resource uid now,
        Untouched
          { books with
            store := books.store.addObservations
              [{ linked report resource with uid, timestamp := some now }] } after := by
  have cautious : Books.CautiousBut (fun middle error after =>
      middle.losesCreated = true ∧ error = lost ∧ ∃ resource uid now,
        Untouched
          { middle with
            store := middle.store.addObservations
              [{ linked report resource with uid, timestamp := some now }] } after)
      (createObservation report) := by
    refine .bind (Books.untouched_settled _) fun _ => ?_
    refine .bind (Books.untouched_lookup _ fun store => store.listResources _) fun found => ?_
    refine .bind (Books.untouched_settled _) fun resource => ?_
    refine .bind (untouched_reportUid _) fun uid => ?_
    refine .bind Books.untouched_readClock fun now middle after error ran => ?_
    rcases storeReport_error ran with untouched | ⟨loses, isLost, kept⟩
    · exact .inl untouched
    · exact .inr ⟨middle, .refl middle, loses, isLost, resource, uid, now, kept⟩
  rcases cautious books after error ran with
    untouched | ⟨_, ⟨supply, storeCalls, rfl⟩, loses, isLost, resource, uid, now, kept⟩
  · exact .inl untouched
  · refine .inr ⟨loses, isLost, resource, uid, now, .trans ?_ kept⟩
    exact ⟨supply, storeCalls, rfl⟩

end Service

/-! ## Any call -/

/-- A call other than a report leaves the books untouched where it is refused. -/
theorem Web.Call.cautious_perform (deployment : Deployment) (caller : Option String)
    {call : Web.Call} (noReport : ∀ report, call ≠ .createObservation report) :
    Cautious (call.perform deployment caller) := by
  cases call with
  | health => exact .of_along fun books => .refl books
  | collectAndScan groups => exact (Service.cautious_collectAndScan _ _).map _
  | collectAndScanAll => exact (Service.cautious_collectAndScanAll _).map _
  | status collectId scanId =>
    intro books after error ran
    cases ran
  | listObservations groups =>
    exact (Cautious.of_along (Service.untouched_listObservations _ _)).map _
  | createObservation report => exact absurd rfl (noReport report)
  | listExceptions size token =>
    exact (Cautious.of_along (Service.untouched_listExceptions _ _ _ _)).map _
  | createException wish => exact (Service.cautious_createException _ _ _).map _
  | getException uuid =>
    refine (Cautious.of_along ?_).map _
    exact Books.untouched_bind (Service.untouched_authenticate _) fun _ =>
      Service.untouched_ownedException _ _ _
  | updateException uuid wish => exact (Service.cautious_updateException _ _ _ _).map _
  | deleteException uuid =>
    have cautious := (Service.cautious_deleteException deployment caller uuid).map
      fun _ => Web.Reply.noContent
    rwa [map_eq_pure_bind] at cautious

/-- A call that is refused leaves everything as it was, whoever asked and whatever failed, up to the
clock, the identifiers handed out and the count of calls on the store. Only a report that the store
keeps without handing it back stays stored, and it is all that changes. -/
theorem refused_calls_change_nothing (deployment : Deployment) (caller : Option String)
    (call : Web.Call) (books after : Books) (error : AuditError)
    (refused : (call.perform deployment caller).run.run books = (.error error, after)) :
    books.Untouched after ∨
      ∃ report resource uid now, call = .createObservation report ∧
        books.losesCreated = true ∧
        error = .storage "unexpected number of created observations" ∧
        Untouched
          { books with
            store := books.store.addObservations
              [{ Service.linked report resource with uid, timestamp := some now }] } after := by
  by_cases reports : ∃ report, call = .createObservation report
  · obtain ⟨report, rfl⟩ := reports
    rcases Service.createObservation_error (Books.map_error refused) with
      untouched | ⟨loses, rfl, resource, uid, now, kept⟩
    · exact .inl untouched
    · exact .inr ⟨report, resource, uid, now, rfl, loses, rfl, kept⟩
  · refine .inl (Web.Call.cautious_perform deployment caller ?_ books after error refused)
    exact fun report same => reports ⟨report, same⟩

/-! A run over a group, then another one under way, and a store that no longer hands back what it
keeps. -/
namespace Lost

def deployment : Deployment where
  inventory := ⟨[Resource.group "g"]⟩
  rules := []
  contacts := default
  notificationInterval := .zero
  sourceSystem := "CloudAudit"

def supply : Supply := { now := ⟨0, 0⟩ }

def earlier : List Event :=
  [.call none (.collectAndScan ["g"]), .settle, .call none (.collectAndScan ["g"]),
   .disturb (fun _ _ => false) true]

@[irreducible]
def looked : Books := (Books.fresh supply).after deployment earlier

theorem looked_eq : (Books.fresh supply).after deployment earlier = looked := by
  rw [looked]

def report (name : String) : Observation where
  name := "MANUAL"
  resourceRef := { name }
  remediation := ⟨"d", "r"⟩

theorem refused {name : String} {error : AuditError}
    (fails : ((Service.createObservation (report name)).run.run looked).1 = .error error) :
    ((Web.Call.createObservation (report name)).perform deployment none).run.run looked =
      (.error error, ((Service.createObservation (report name)).run.run looked).2) := by
  rw [Web.Call.perform, Books.map_run, fails]
  rfl

theorem reports_fail :
    looked.underWay.length = 1 ∧
      ((Service.createObservation (report "other")).run.run looked).1 =
        .error (.notFound "found 0 resources matching other") ∧
      ((Service.createObservation (report "g")).run.run looked).1 = .error Service.lost ∧
      ((Service.createObservation (report "g")).run.run looked).2.store.listObservations {} ≠
        looked.store.listObservations {} := by
  decide +kernel

theorem report_on_nothing_changes_nothing :
    looked.underWay.length = 1 ∧ ∃ after,
      ((Web.Call.createObservation (report "other")).perform deployment none).run.run looked =
        (.error (.notFound "found 0 resources matching other"), after) ∧
      looked.Untouched after := by
  obtain ⟨oneUnderWay, fails, -⟩ := reports_fail
  refine ⟨oneUnderWay, _, refused fails, ?_⟩
  rcases refused_calls_change_nothing deployment none _ looked _ _ (refused fails) with
    untouched | ⟨_, _, _, _, _, _, isLost, -⟩
  · exact untouched
  · cases isLost

end Lost

/-- The store may keep a report whose caller is told that it failed. -/
theorem refused_report_may_stay :
    ¬ ∀ (deployment : Deployment) (supply : Supply) (earlier : List Event)
        (caller : Option String) (call : Web.Call) (after : Books) (error : AuditError),
      (call.perform deployment caller).run.run
        ((Books.fresh supply).after deployment earlier) = (.error error, after) →
      ((Books.fresh supply).after deployment earlier).Untouched after := by
  intro untouched
  obtain ⟨-, -, fails, changes⟩ := Lost.reports_fail
  have claimed := untouched Lost.deployment Lost.supply Lost.earlier none
    (.createObservation (Lost.report "g"))
  rw [Lost.looked_eq] at claimed
  obtain ⟨supply, storeCalls, same⟩ := claimed _ _ (Lost.refused fails)
  rw [same] at changes
  exact changes rfl

end CloudAudit
