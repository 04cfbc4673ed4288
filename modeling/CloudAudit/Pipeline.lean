import CloudAudit.Collector
import CloudAudit.Scan
import CloudAudit.Dispatch
/-!
# The pipeline

Starting runs and taking them from phase to phase. A run never fails: what goes wrong in a phase
leaves that phase without result.
-/
set_option autoImplicit false

namespace CloudAudit.Pipeline

def preCollect (deployment : Deployment) (collectId : String) : Act (List Resource) := do
  let records ← Collector.groupRecords deployment none
  return records.map fun record => { record with collectionUid := some collectId }

def abandon (run : Run) : Work Unit :=
  modify fun books =>
    { books with
      requests :=
        (books.requests.finish .collect run.collectId run.groups).finish .scan run.scanId
          run.groups }

def gathered (run : Run) : Act (List Observation) :=
  Books.listObservations { groups := some run.groups, operation := some run.collectId }

def announce (deployment : Deployment) (observations : List Observation) : Work Unit := do
  if !observations.isEmpty then
    let _ ← Dispatch.dispatch deployment observations

/-- The result of an action, or nothing where it failed. -/
def orNone {α : Type} (action : Act (List α)) : Work (List α) := do
  match ← action.run with
  | .ok found => return found
  | .error _ => return []

def step (deployment : Deployment) (run : Run) : Work Run := do
  match run.phase with
  | .starting =>
    match ← (preCollect deployment run.collectId).run with
    | .ok skeletons => return { run with phase := .claimingCollect skeletons }
    | .error _ =>
      abandon run
      return { run with phase := .finished }
  | .claimingCollect skeletons =>
    let claim ← Books.claim .collect run.collectId run.groups
    return { run with phase := .snapshotting skeletons claim }
  | .snapshotting skeletons claim =>
    if !claim.granted.isEmpty then
      let _ ← (Collector.collect deployment run.collectId claim.granted skeletons).run
    return { run with phase := .releasingCollect skeletons claim }
  | .releasingCollect skeletons claim =>
    Books.release claim
    return { run with phase := .gathering skeletons }
  | .gathering skeletons =>
    let collected ← orNone (gathered run)
    return { run with phase := .claimingScan skeletons collected }
  | .claimingScan skeletons collected =>
    let claim ← Books.claim .scan run.scanId run.groups
    return { run with phase := .checking skeletons collected claim }
  | .checking skeletons collected claim =>
    let (scanned, _) ←
      if claim.granted.isEmpty then pure ([], [])
      else Scan.checkRules deployment run.scanId run.collectId claim.granted skeletons
    return { run with phase := .releasingScan collected scanned claim }
  | .releasingScan collected scanned claim =>
    Books.release claim
    if claim.granted.isEmpty then return { run with phase := .dispatching collected [] }
    else return { run with phase := .flushing collected scanned }
  | .flushing collected scanned =>
    let _ ← Books.flush.run
    return { run with phase := .dispatching collected scanned }
  | .dispatching collected scanned =>
    announce deployment collected
    announce deployment scanned
    return { run with phase := .finished }
  | .finished => return run

def isWaiting (deployment : Deployment) (books : Books) (run : Run) : Bool :=
  match run.phase with
  | .snapshotting _ claim =>
    deployment.collector == .gated && !claim.granted.isEmpty && books.permits == 0
  | _ => false

/-- Take a run through up to `steps` phases, until it is finished or waits. -/
def advance (deployment : Deployment) : Nat → Run → Work Run
  | 0, run => return run
  | steps + 1, run => do
    let books ← get
    if run.isFinished || isWaiting deployment books run then return run
    else advance deployment steps (← step deployment run)

def proceed (deployment : Deployment) (run : Run) : Work Run :=
  advance deployment run.phase.left run

/-- Take the runs under way as far as they go, one after the other. -/
def settle (deployment : Deployment) : Work Unit := do
  let books ← get
  let runs ← books.underWay.mapM (proceed deployment)
  modify fun books => { books with underWay := runs.filter fun run => !run.isFinished }

/-- Accept a run over groups, or over every known group. -/
def start (deployment : Deployment) (scanType : ScanType) (groups : List String) :
    Act RunIds := do
  let collectId ← Books.mintId
  let scanId ← Books.mintId
  let groups ←
    match scanType with
    | .full => Collector.groupNames deployment
    | .selected => pure groups
  modify fun books =>
    { books with underWay := books.underWay ++ [{ collectId, scanId, groups }] }
  return ⟨⟨collectId⟩, ⟨scanId⟩⟩

def status (collectId scanId : String) : Work RunStatus := do
  let collectStatus ← Books.status .collect collectId
  let scanStatus ← Books.status .scan scanId
  return ⟨collectStatus, scanStatus⟩

def permit (count : Nat) : Work Unit :=
  modify fun books => { books with permits := books.permits + count }

end CloudAudit.Pipeline
