import CloudAudit.Proofs.World.Growth
import CloudAudit.Proofs.Listing.Selection
/-!
# A scan completes

Whatever rules and collaborators fail in a scan, it ends with an entry in the operation log that
says so for each of its groups, unless that entry itself cannot be written.
-/
set_option autoImplicit false

namespace CloudAudit

namespace Books

def AlwaysLogs (books : Books) : Prop :=
  ∀ count, books.fails count .addOperationLog = false

theorem logGroups_writes {books : Books} (writes : books.AlwaysLogs) {groups : List String}
    {group : String} (member : group ∈ groups) (id : String) (kind : OperationKind)
    (status : OperationStatus) :
    ∃ time, time.notBefore books.supply.reading = true ∧
      ⟨id, group, kind, time, status⟩ ∈
        ((logGroups id groups kind status).run.run books).2.store.journal := by
  obtain ⟨time, found⟩ := mem_stamped member id kind status books.supply.toClock
  have dated := (Dated.stamped id kind status books.supply.toClock groups).within _ found
  have writable : (books.ticked groups.length).failsAt .addOperationLog = false := writes _
  refine ⟨time, dated.1, ?_⟩
  rw [logGroups_run, log_run, writable]
  exact List.mem_append_right _ (List.mem_append_right _ found)

end Books

theorem steady_sameFails : Steady fun old new => new.fails = old.fails :=
  .of_view Books.fails fun _ _ _ _ _ _ _ _ _ => rfl

theorem Books.fails_after_disturb (deployment : Deployment) (books : Books)
    (before : List Event) (fails : Nat → StoreCall → Bool) (losesCreated : Bool)
    {calm : List Event} (allCalm : ∀ event ∈ calm, event.isCalm = true) :
    (books.after deployment (before ++ .disturb fails losesCreated :: calm)).fails = fails := by
  rw [Books.after_append, Books.after_cons]
  exact steady_sameFails.after_calm deployment allCalm _

namespace Scan

/-- A scan but for its last entry in the operation log. -/
def judge (deployment : Deployment) (scanId collectId : String) (groups : List String)
    (skeletons : List Resource) : Work (List Observation × List AuditError) := do
  logStatus scanId groups .started
  let outcomes ← deployment.rules.mapM fun rule => checkRule rule collectId groups skeletons
  let records ← (resourcesFor collectId groups [.resourceGroup] skeletons).run
  let (records, recordErrors) : List Resource × List AuditError :=
    match records with
    | .ok records => (records, [])
    | .error error => ([], [error])
  let (observations, errors) ←
    keepOutcomes (hierarchy skeletons records) scanId collectId outcomes
  return (observations, recordErrors ++ errors)

theorem checkRules_eq (deployment : Deployment) (scanId collectId : String)
    (groups : List String) (skeletons : List Resource) :
    checkRules deployment scanId collectId groups skeletons = do
      let found ← judge deployment scanId collectId groups skeletons
      logStatus scanId groups .completed
      return found :=
  rfl

theorem judge_along {relation : Books → Books → Prop} (steady : Steady relation)
    (deployment : Deployment) (scanId collectId : String) (groups : List String)
    (skeletons : List Resource) :
    Along relation (judge deployment scanId collectId groups skeletons) := by
  refine steady.bind (steady.logStatus _ _ _) fun _ => ?_
  refine steady.bind (steady.mapM (fun rule => steady.checkRule rule _ _ _) _) fun outcomes => ?_
  refine steady.bind (steady.resourcesFor _ _ _ _) fun records => ?_
  exact steady.bind (steady.keepOutcomes _ _ _ _) fun kept => steady.pure _

/-- However many rules fail, a scan logs that it is complete. -/
theorem checkRules_completes (deployment : Deployment) (scanId collectId : String)
    {groups : List String} {group : String} (member : group ∈ groups)
    (skeletons : List Resource) {books : Books} (writes : books.AlwaysLogs) :
    ∃ time, time.notBefore books.supply.reading = true ∧
      ⟨scanId, group, .scan, time, .completed⟩ ∈
        ((checkRules deployment scanId collectId groups skeletons).run books).2.store.journal := by
  have grown := judge_along Grows.steady deployment scanId collectId groups skeletons books
  have sameFails := judge_along steady_sameFails deployment scanId collectId groups skeletons books
  have writesStill :
      ((judge deployment scanId collectId groups skeletons).run books).2.AlwaysLogs := by
    intro count
    rw [sameFails]
    exact writes count
  obtain ⟨time, later, found⟩ := Books.logGroups_writes writesStill member scanId .scan .completed
  rw [checkRules_eq]
  exact ⟨time, Instant.notBefore_trans later grown.becomes.reading_notBefore, found⟩

end Scan

namespace Event

theorem takeTurn_store {deployment : Deployment} {books : Books} {place : Nat} {run : Run}
    (underWay : books.underWay[place]? = some run)
    (goesOn : Pipeline.isWaiting deployment books run = false) :
    ((takeTurn deployment place).run books).2.store =
      ((Pipeline.step deployment run).run books).2.store := by
  simp only [takeTurn, StateT.run_bind, StateT.run_get, pure_bind, underWay, goesOn]
  rfl

/-- What a run that checks rules does to the store. -/
theorem takeTurn_checking {deployment : Deployment} {books : Books} {place : Nat} {run : Run}
    {skeletons : List Resource} {collected : List Observation} {claim : Claim}
    (underWay : books.underWay[place]? = some run)
    (scans : run.phase = .checking skeletons collected claim) (granted : claim.granted ≠ []) :
    ((takeTurn deployment place).run books).2.store =
      ((Scan.checkRules deployment run.scanId run.collectId claim.granted skeletons).run
        books).2.store := by
  have goesOn : Pipeline.isWaiting deployment books run = false := by
    rw [Pipeline.isWaiting, scans]
  rw [takeTurn_store underWay goesOn, Pipeline.step, scans]
  simp only [List.isEmpty_iff, if_neg granted]
  rfl

end Event

end CloudAudit
