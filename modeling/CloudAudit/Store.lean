import CloudAudit.Filter
import CloudAudit.Observation
import CloudAudit.Operation
/-!
# The store

Resources and observations by group in the order in which they came, and the operation log: entries
wait until a flush. Nothing is ever overwritten.
-/
set_option autoImplicit false

namespace CloudAudit

structure Store where
  resources : Table (List Resource) := Table.empty
  observations : Table (List Observation) := Table.empty
  pending : List Operation := []
  operations : List Operation := []
  deriving DecidableEq, Repr, Inhabited

namespace Store

def append {α : Type} (records : Table (List α)) (group : String) (record : α) :
    Table (List α) :=
  records.update group [] fun found => found ++ [record]

def addResources (store : Store) (batch : List Resource) : Store :=
  { store with
    resources := batch.foldl
      (fun records resource => append records resource.resourceGroupName resource)
      store.resources }

/-- Keep one observation, unless it has no group. -/
def addObservation (records : Table (List Observation)) (observation : Observation) :
    Table (List Observation) :=
  if observation.groupName.isEmpty then records
  else append records observation.groupName observation

def addObservations (store : Store) (batch : List Observation) : Store :=
  { store with observations := batch.foldl addObservation store.observations }

def log (store : Store) (entries : List Operation) : Store :=
  { store with pending := store.pending ++ entries }

/-- Move the waiting entries of the operation log to those that can be listed. -/
def flush (store : Store) : Store :=
  { store with pending := [], operations := store.operations ++ store.pending }

/-- The records of the groups that a filter names, in its order and as often as it names them, or
of all groups in ascending order. -/
def selected {α : Type} (records : Table (List α)) (filter : Filter) : List α :=
  match filter.groups with
  | some names => names.flatMap fun name => (records.get? name).getD []
  | none => records.values.flatten

def resourceMatches (filter : Filter) (window : Option Window) (resource : Resource) : Bool :=
  Filter.allows filter.kinds resource.kind
    && filter.operation.all (fun id => resource.collectionUid == some id)
    && Filter.allows filter.names resource.name
    && Filter.inWindow window resource.timestamp

/-- Whether an observation meets a filter, its window apart from the groups. The operation may be
its collection or its scan. -/
def observationMatches (filter : Filter) (window : Option Window) (observation : Observation) :
    Bool :=
  filter.operation.all
      (fun id => observation.collectionId == some id || observation.scanId == some id)
    && Filter.allows filter.names observation.resourceRef.name
    && Filter.inWindow window observation.timestamp

def operationMatches (filter : Filter) (window : Option Window) (operation : Operation) : Bool :=
  Filter.allows filter.groups operation.resourceGroup
    && filter.operation.all (fun id => id == operation.id)
    && Filter.inWindow window (some operation.statusTime)

def listResources (store : Store) (filter : Filter) : Except AuditError (List Resource) := do
  let window ← filter.window?
  return filter.cut ((selected store.resources filter).filter (resourceMatches filter window))

def listObservations (store : Store) (filter : Filter) :
    Except AuditError (List Observation) := do
  let window ← filter.window?
  return filter.cut
    ((selected store.observations filter).filter (observationMatches filter window))

/-- The flushed entries of the operation log that meet a filter, by time; entries of one time keep
their order. -/
def listOperations (store : Store) (filter : Filter) : Except AuditError (List Operation) := do
  let window ← filter.window?
  return filter.cut
    ((store.operations.filter (operationMatches filter window)).mergeSort
      fun first second => second.statusTime.notBefore first.statusTime)

def summary (store : Store) : String :=
  "InMemoryStorage \x7b resource_groups: " ++ toString store.resources.size
    ++ ", observation_groups: " ++ toString store.observations.size
    ++ ", operations: " ++ toString store.operations.length ++ " \x7d"

end Store

end CloudAudit
