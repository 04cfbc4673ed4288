import CloudAudit.Books
/-!
# Collecting

The collector lists the groups of the inventory and keeps snapshots of them in the store. A snapshot
takes a group record that is already known as it is, but always the policy of the inventory.
-/
set_option autoImplicit false

namespace CloudAudit.Collector

def unreachable : AuditError := .collector "cloud api unreachable"

/-- The group records of an inventory, those of some names only if names are given, without their
policies. -/
def skeletonsOf (inventory : Inventory) (names : Option (List String)) : List Resource :=
  ((inventory.resources.filter Resource.isGroup).filter fun resource =>
    Filter.allows names resource.name).map fun resource => { resource with iamPolicy := none }

def groupRecords (deployment : Deployment) (names : Option (List String)) :
    Act (List Resource) :=
  match deployment.collector with
  | .unreachable => throw unreachable
  | _ => pure (skeletonsOf deployment.inventory names)

def namesOf (inventory : Inventory) : List String :=
  (inventory.resources.filter Resource.isGroup).map Resource.name

def groupNames (deployment : Deployment) : Act (List String) :=
  match deployment.collector with
  | .unreachable => throw unreachable
  | _ => pure (namesOf deployment.inventory)

/-- Resources by name, the last of equal names staying. -/
def byName (skeletons : List Resource) : Table Resource :=
  .ofList (skeletons.map fun skeleton => (skeleton.name, skeleton))

def snapshotOf (known : Table Resource) (collectId : String) (now : Instant)
    (resource : Resource) : Resource :=
  let base :=
    match known.get? resource.name with
    | some skeleton => { skeleton with iamPolicy := resource.iamPolicy }
    | none => resource
  { base with collectionUid := some collectId, timestamp := some now }

def members (inventory : Inventory) (group : String) : List Resource :=
  inventory.resources.filter fun resource => resource.resourceGroupName == group

/-- The snapshots of groups, unless one of them has no resources. -/
def batch (inventory : Inventory) (known : Table Resource) (collectId : String) (now : Instant) :
    List String → Except AuditError (List Resource)
  | [] => .ok []
  | group :: groups =>
    match members inventory group with
    | [] => .error (.collector ("resource group " ++ group ++ " not found in inventory"))
    | found => do
      let rest ← batch inventory known collectId now groups
      return found.map (snapshotOf known collectId now) ++ rest

/-- Collect groups and keep their snapshots, with entries in the operation log before and after. -/
def keepSnapshots (deployment : Deployment) (collectId : String) (groups : List String)
    (skeletons : List Resource) : Act Unit := do
  Books.logGroups collectId groups .collect .started
  let now ← Books.readClock
  let snapshots ←
    Books.settled (batch deployment.inventory (byName skeletons) collectId now groups)
  let _ ← Books.addResources snapshots
  Books.logGroups collectId groups .collect .completed

def report (collectId group : String) : Observation where
  name := "EXTERNAL"
  resourceRef := { name := group, resourceGroupName := group }
  collectionId := some collectId
  remediation := ⟨"found while collecting", "review"⟩

def usePermit : Work Unit :=
  modify fun books => { books with permits := books.permits - 1 }

def collect (deployment : Deployment) (collectId : String) (groups : List String)
    (skeletons : List Resource) : Act Unit :=
  match deployment.collector with
  | .plain => keepSnapshots deployment collectId groups skeletons
  | .unreachable => throw unreachable
  | .failingSnapshot => throw (.collector "snapshot failed")
  | .observing => do
    keepSnapshots deployment collectId groups skeletons
    let _ ← Books.addObservations (groups.map (report collectId))
  | .gated => do
    usePermit
    keepSnapshots deployment collectId groups skeletons

end CloudAudit.Collector
