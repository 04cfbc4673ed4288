import CloudAudit.Deployment
import CloudAudit.Notification
import CloudAudit.Run
import CloudAudit.Store
import CloudAudit.Supply
/-!
# Books

All that changes while the service runs, and the actions on it. An action may fail; what it changed
before stays changed.
-/
set_option autoImplicit false

namespace CloudAudit

/-- A call on the store. -/
inductive StoreCall where
  | batchCreateResources
  | listResources
  | batchCreateObservations
  | listObservations
  | addOperationLog
  | flushOpsLog
  | listOperations
  deriving DecidableEq, Repr

namespace StoreCall

def name : StoreCall → String
  | .batchCreateResources => "batch_create_resources"
  | .listResources => "list_resources"
  | .batchCreateObservations => "batch_create_observations"
  | .listObservations => "list_observations"
  | .addOperationLog => "add_operation_log"
  | .flushOpsLog => "flush_ops_log"
  | .listOperations => "list_operations"

end StoreCall

/-- A batch of notifications that was submitted: how many, and what came of them. -/
structure Delivery where
  submitted : Nat
  delivered : Option (List Notification)
  deriving DecidableEq, Repr, Inhabited

/-- All that changes while the service runs. -/
structure Books where
  store : Store := {}
  requests : Requests := {}
  /-- Exceptions by their identifiers. -/
  exceptions : Table NotificationException := Table.empty
  /-- Submitted batches, the last one first. -/
  deliveries : List Delivery := []
  /-- Runs that are not finished, the oldest first. -/
  underWay : List Run := []
  /-- Snapshots that a gated collector may take. -/
  permits : Nat := 0
  supply : Supply
  /-- The number of calls on the store so far. -/
  storeCalls : Nat := 0
  /-- Whether a call on the store fails, given the number of calls before it. -/
  fails : Nat → StoreCall → Bool := fun _ _ => false
  /-- Whether the store keeps observations without handing them back. -/
  losesCreated : Bool := false
  deriving Inhabited

/-- Work on the books that cannot fail. -/
abbrev Work := StateM Books

/-- Work on the books that may fail. -/
abbrev Act := ExceptT AuditError (StateM Books)

namespace Books

def settled {α : Type} (result : Except AuditError α) : Act α :=
  ExceptT.mk (pure result)

def outcome {α : Type} (action : Act α) : Act (Except AuditError α) :=
  ExceptT.mk do
    let result ← action.run
    return .ok result

def readClock : Work Instant := do
  let books ← get
  let (now, supply) := books.supply.read
  set { books with supply }
  return now

def mintId : Work String := do
  let books ← get
  let (id, supply) := books.supply.mint
  set { books with supply }
  return id

/-- Fail if a call on the store does. -/
def attempt (call : StoreCall) : Act Unit := do
  let books ← get
  set { books with storeCalls := books.storeCalls + 1 }
  if books.fails books.storeCalls call then throw (.storage (call.name ++ " failed"))

def addResources (batch : List Resource) : Act (List Resource) := do
  attempt .batchCreateResources
  modify fun books => { books with store := books.store.addResources batch }
  return batch

def listResources (filter : Filter) : Act (List Resource) := do
  attempt .listResources
  let books ← get
  settled (books.store.listResources filter)

/-- Keep observations; answers those kept and those without a group. -/
def addObservations (batch : List Observation) : Act (List Observation) := do
  attempt .batchCreateObservations
  modify fun books => { books with store := books.store.addObservations batch }
  let books ← get
  return if books.losesCreated then [] else batch

def listObservations (filter : Filter) : Act (List Observation) := do
  attempt .listObservations
  let books ← get
  settled (books.store.listObservations filter)

def log (entries : List Operation) : Act Unit := do
  attempt .addOperationLog
  modify fun books => { books with store := books.store.log entries }

def flush : Act Unit := do
  attempt .flushOpsLog
  modify fun books => { books with store := books.store.flush }

def listOperations (filter : Filter) : Act (List Operation) := do
  attempt .listOperations
  let books ← get
  settled (books.store.listOperations filter)

def entry (id group : String) (kind : OperationKind) (status : OperationStatus) :
    Work Operation := do
  let now ← readClock
  return ⟨id, group, kind, now, status⟩

def logGroups (id : String) (groups : List String) (kind : OperationKind)
    (status : OperationStatus) : Act Unit := do
  let entries ← groups.mapM fun group => entry id group kind status
  log entries

def claim (kind : OperationKind) (id : String) (groups : List String) : Work Claim := do
  let books ← get
  let (claim, requests) := Claim.acquire books.requests kind id groups
  set { books with requests }
  return claim

def release (claim : Claim) : Work Unit :=
  modify fun books => { books with requests := claim.release books.requests }

def status (kind : OperationKind) (id : String) : Work RequestStatus := do
  let books ← get
  let (status, requests) := books.requests.status kind id
  set { books with requests }
  return status

end Books

end CloudAudit
