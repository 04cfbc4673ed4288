import CloudAudit.Requests
import CloudAudit.Report
/-!
# Runs

A run collects the resources of some groups, scans them, and notifies whoever is responsible. It
goes through phases; each phase is one step that nothing interrupts, and between two phases other
runs may go on.
-/
set_option autoImplicit false

namespace CloudAudit

/-- What a run has to do next, with what it holds for that. `skeletons` are the group records known
before collecting, `collected` the observations found while collecting. -/
inductive Phase where
  /-- Get the group records. -/
  | starting
  | claimingCollect (skeletons : List Resource)
  /-- Collect the granted groups; nothing is done when there are none. -/
  | snapshotting (skeletons : List Resource) (claim : Claim)
  | releasingCollect (skeletons : List Resource) (claim : Claim)
  /-- Get the observations found while collecting. -/
  | gathering (skeletons : List Resource)
  | claimingScan (skeletons : List Resource) (collected : List Observation)
  /-- Check the rules on the granted groups; nothing is done when there are none. -/
  | checking (skeletons : List Resource) (collected : List Observation) (claim : Claim)
  | releasingScan (collected scanned : List Observation) (claim : Claim)
  /-- Flush the operation log. -/
  | flushing (collected scanned : List Observation)
  /-- Notify of what was found, first while collecting and then in the scan. -/
  | dispatching (collected scanned : List Observation)
  | finished
  deriving DecidableEq, Repr, Inhabited

namespace Phase

def left : Phase → Nat
  | .starting => 10
  | .claimingCollect _ => 9
  | .snapshotting .. => 8
  | .releasingCollect .. => 7
  | .gathering _ => 6
  | .claimingScan .. => 5
  | .checking .. => 4
  | .releasingScan .. => 3
  | .flushing .. => 2
  | .dispatching .. => 1
  | .finished => 0

end Phase

structure Run where
  collectId : String
  scanId : String
  groups : List String
  phase : Phase := .starting
  deriving DecidableEq, Repr, Inhabited

namespace Run

def isFinished (run : Run) : Bool :=
  run.phase == .finished

end Run

end CloudAudit
