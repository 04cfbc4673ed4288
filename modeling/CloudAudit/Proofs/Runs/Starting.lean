import CloudAudit.Proofs.Listing.Showing
import CloudAudit.Proofs.World.Events
/-!
# How runs start

A run starts with two new identifiers, behind the runs under way. Only calls that ask for a run
start one.
-/
set_option autoImplicit false

namespace CloudAudit

namespace Books

def withRuns (books : Books) (started : List Run) : Books :=
  { books with
    supply := { books.supply with minted := books.supply.minted + 2 }
    underWay := books.underWay ++ started }

def nextRun (books : Books) (groups : List String) : Run where
  collectId := Supply.idText books.supply.minted
  scanId := Supply.idText (books.supply.minted + 1)
  groups

end Books

namespace Pipeline

def covered (deployment : Deployment) (groups : List String) :
    ScanType → Except AuditError (List String)
  | .selected => .ok groups
  | .full =>
    match deployment.collector with
    | .unreachable => .error Collector.unreachable
    | _ => .ok (Collector.namesOf deployment.inventory)

def runIds (run : Run) : RunIds :=
  ⟨⟨run.collectId⟩, ⟨run.scanId⟩⟩

theorem start_run (deployment : Deployment) (scanType : ScanType) (groups : List String)
    (books : Books) :
    (start deployment scanType groups).run.run books =
      match covered deployment groups scanType with
      | .ok groups => (.ok (runIds (books.nextRun groups)), books.withRuns [books.nextRun groups])
      | .error error => (.error error, books.withRuns []) := by
  cases scanType with
  | selected => rfl
  | full =>
    have unchanged : books.withRuns [] =
        { books with supply := { books.supply with minted := books.supply.minted + 2 } } := by
      rw [Books.withRuns, List.append_nil]
    rw [unchanged]
    obtain ⟨inventory, collector, rules, notifier, access, contacts, interval, source⟩ := deployment
    cases collector <;> rfl

end Pipeline

namespace Service

/-- A request for some groups starts a run over the groups that the caller may ask for. -/
theorem collectAndScan_run (deployment : Deployment) (requested : List String) :
    ∃ answer, ∀ books,
      (validateGroups deployment requested).run.run books = (answer, books) ∧
      (collectAndScan deployment requested).run.run books =
        match answer with
        | .ok groups =>
          (.ok (Pipeline.runIds (books.nextRun groups)), books.withRuns [books.nextRun groups])
        | .error error => (.error error, books) := by
  obtain ⟨answer, valid⟩ := validateGroups_run deployment requested
  refine ⟨answer, fun books => ⟨valid books, ?_⟩⟩
  rw [collectAndScan, ExceptT.run_bind, StateT.run_bind, valid]
  cases answer with
  | ok groups => exact Pipeline.start_run deployment .selected groups books
  | error error => rfl

end Service

/-- The books after a call that asks for a run: it may be refused, before or after two identifiers
were handed out. -/
theorem Web.Call.perform_run (deployment : Deployment) (caller : Option String)
    {call : Web.Call} (asks : call.asksForRun = true) (books : Books) :
    ((call.perform deployment caller).run.run books).2 = books ∨
      ((call.perform deployment caller).run.run books).2 = books.withRuns [] ∨
      ∃ groups, ((call.perform deployment caller).run.run books).2 =
        books.withRuns [books.nextRun groups] := by
  cases call with
  | collectAndScan requested =>
    obtain ⟨answer, ran⟩ := Service.collectAndScan_run deployment requested
    rw [perform, Books.map_run, (ran books).2]
    cases answer with
    | ok groups => exact .inr (.inr ⟨groups, rfl⟩)
    | error error => exact .inl rfl
  | collectAndScanAll =>
    rw [perform, Books.map_run, Service.collectAndScanAll, Pipeline.start_run]
    cases Pipeline.covered deployment [] .full with
    | ok groups => exact .inr (.inr ⟨groups, rfl⟩)
    | error error => exact .inr (.inl rfl)
  | _ => cases asks

end CloudAudit
