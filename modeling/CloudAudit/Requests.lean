import CloudAudit.Table
import CloudAudit.Status
/-!
# Requests and claims

At most one request at a time works on a resource group, for collecting and for scanning apart. A
request that asks for a group in work depends on the request that holds it, and its status is found
through those that it depends on. Requests are never forgotten.
-/
set_option autoImplicit false

namespace CloudAudit

structure ClaimTable where
  /-- The request that works on a group. -/
  claims : Table String := Table.empty
  /-- The requests that stood in the way of a request. -/
  dependencies : Table NameSet := Table.empty
  statuses : Table RequestStatus := Table.empty
  deriving DecidableEq, Repr, Inhabited

namespace ClaimTable

def holder? (table : ClaimTable) (group : String) : Option String :=
  table.claims.get? group

def dependenciesOf (table : ClaimTable) (id : String) : List String :=
  match table.dependencies.get? id with
  | some found => found.names
  | none => []

def claimGroup (id : String) (granted : List String) (table : ClaimTable) (group : String) :
    List String × ClaimTable :=
  match table.holder? group with
  | some owner =>
    if owner = id then (if granted.contains group then granted else granted ++ [group], table)
    else
      (granted,
        { table with
          dependencies := table.dependencies.update id Table.empty fun found => found.add owner })
  | none => (granted ++ [group], { table with claims := table.claims.insert group id })

def claimGroups (id : String) : List String → List String → ClaimTable → List String × ClaimTable
  | granted, [], table => (granted, table)
  | granted, group :: groups, table =>
    let (granted, table) := table.claimGroup id granted group
    claimGroups id granted groups table

def setStatus (table : ClaimTable) (id : String) (status : RequestStatus) : ClaimTable :=
  { table with statuses := table.statuses.insert id status }

/-- Register a request and claim for it every group that no other request holds. Answers the
claimed groups; a request that gets none is covered by others. -/
def add (table : ClaimTable) (id : String) (groups : List String) : List String × ClaimTable :=
  let (granted, table) := claimGroups id [] groups (table.setStatus id .running)
  if granted.isEmpty then (granted, table.setStatus id .alreadyRunning) else (granted, table)

def free (id : String) (claims : Table String) (group : String) : Table String :=
  if claims.get? group = some id then claims.erase group else claims

/-- End a request and free those of the given groups that it holds. Unknown requests are
ignored. -/
def finish (table : ClaimTable) (id : String) (groups : List String) : ClaimTable :=
  if table.statuses.contains id then
    { table with
      statuses := table.statuses.insert id .done
      claims := groups.foldl (free id) table.claims }
  else table

mutual

/-- The status of a request, found through its dependencies, and the statuses as they are stored
after that. `fresh` holds the requests not under way in this walk; one that is under way answers
with its own status only. -/
def resolve (dependencies : Table NameSet) (fresh : List String) (statuses : Table RequestStatus)
    (id : String) : RequestStatus × Table RequestStatus :=
  match statuses.get? id with
  | none => (.unknown, statuses)
  | some .unknown => (.unknown, statuses)
  | some .cancelled => (.cancelled, statuses)
  | some stored =>
    let settled : RequestStatus := if stored = .alreadyRunning then .done else stored
    let statuses := if stored = .alreadyRunning then statuses.insert id .done else statuses
    if _member : id ∈ fresh then
      resolveThrough dependencies (fresh.erase id) statuses id settled
        (match dependencies.get? id with
          | some found => found.names
          | none => [])
    else (settled, statuses)
termination_by (fresh.length, 0)
decreasing_by
  have := List.length_erase_of_mem _member
  have := List.length_pos_of_mem _member
  omega

/-- The status of a request given the dependencies still to look at: the first one that runs
decides. One that is unknown or cancelled marks the request as cancelled for later. -/
def resolveThrough (dependencies : Table NameSet) (fresh : List String)
    (statuses : Table RequestStatus) (id : String) (settled : RequestStatus) :
    List String → RequestStatus × Table RequestStatus
  | [] => (settled, statuses)
  | dependency :: more =>
    match resolve dependencies fresh statuses dependency with
    | (.running, statuses) => (.running, statuses)
    | (.unknown, statuses) | (.cancelled, statuses) =>
      resolveThrough dependencies fresh (statuses.insert id .cancelled) id settled more
    | (_, statuses) => resolveThrough dependencies fresh statuses id settled more
termination_by names => (fresh.length, names.length + 1)

end

def statusOnPath (table : ClaimTable) (path : List String) (id : String) :
    RequestStatus × ClaimTable :=
  let fresh := table.statuses.names.filter fun name => !path.contains name
  let (status, statuses) := resolve table.dependencies fresh table.statuses id
  (status, { table with statuses })

/-- The status of a request. Asking may settle what is stored. -/
def status (table : ClaimTable) (id : String) : RequestStatus × ClaimTable :=
  table.statusOnPath [] id

end ClaimTable

structure Requests where
  collect : ClaimTable := {}
  scan : ClaimTable := {}
  deriving DecidableEq, Repr, Inhabited

namespace Requests

def table (requests : Requests) : OperationKind → ClaimTable
  | .collect => requests.collect
  | .scan => requests.scan

def setTable (requests : Requests) (kind : OperationKind) (table : ClaimTable) : Requests :=
  match kind with
  | .collect => { requests with collect := table }
  | .scan => { requests with scan := table }

def add (requests : Requests) (kind : OperationKind) (id : String) (groups : List String) :
    List String × Requests :=
  let (granted, table) := (requests.table kind).add id groups
  (granted, requests.setTable kind table)

def finish (requests : Requests) (kind : OperationKind) (id : String) (groups : List String) :
    Requests :=
  requests.setTable kind ((requests.table kind).finish id groups)

def status (requests : Requests) (kind : OperationKind) (id : String) :
    RequestStatus × Requests :=
  let (status, table) := (requests.table kind).status id
  (status, requests.setTable kind table)

def summary (requests : Requests) : String :=
  "RequestStateManager \x7b collect_claims: " ++ toString requests.collect.claims.size
    ++ ", collect_requests: " ++ toString requests.collect.statuses.size
    ++ ", scan_claims: " ++ toString requests.scan.claims.size
    ++ ", scan_requests: " ++ toString requests.scan.statuses.size ++ " \x7d"

end Requests

/-- A request that was registered and not yet ended, with the groups granted to it. -/
structure Claim where
  kind : OperationKind
  id : String
  requested : List String
  granted : List String
  deriving DecidableEq, Repr, Inhabited

namespace Claim

def acquire (requests : Requests) (kind : OperationKind) (id : String) (groups : List String) :
    Claim × Requests :=
  let (granted, requests) := requests.add kind id groups
  (⟨kind, id, groups, granted⟩, requests)

def release (claim : Claim) (requests : Requests) : Requests :=
  requests.finish claim.kind claim.id claim.requested

end Claim

inductive RequestCall where
  | add (kind : OperationKind) (id : String) (groups : List String)
  | finish (kind : OperationKind) (id : String) (groups : List String)
  | status (kind : OperationKind) (id : String)
  | dependencies (kind : OperationKind) (id : String)
  | holder (kind : OperationKind) (group : String)
  | acquire (name : String) (kind : OperationKind) (id : String) (groups : List String)
  | release (name : String)
  | summary
  deriving DecidableEq, Repr

inductive RequestReply where
  | nothing
  | names (list : List String)
  | holder (id : Option String)
  | status (status : RequestStatus)
  | released (wasHeld : Bool)
  | summary (text : String)
  deriving DecidableEq, Repr

/-- The requests and the claims that are held under names. -/
structure RequestDesk where
  requests : Requests := {}
  held : Table Claim := Table.empty
  deriving DecidableEq, Repr, Inhabited

namespace RequestDesk

def releaseClaim (claim : Option Claim) (requests : Requests) : Requests :=
  match claim with
  | some claim => claim.release requests
  | none => requests

/-- One call. A claim already held under a name is released after the new one was acquired. -/
def call (desk : RequestDesk) : RequestCall → RequestReply × RequestDesk
  | .add kind id groups =>
    let (granted, requests) := desk.requests.add kind id groups
    (.names granted, { desk with requests })
  | .finish kind id groups =>
    (.nothing, { desk with requests := desk.requests.finish kind id groups })
  | .status kind id =>
    let (status, requests) := desk.requests.status kind id
    (.status status, { desk with requests })
  | .dependencies kind id => (.names ((desk.requests.table kind).dependenciesOf id), desk)
  | .holder kind group => (.holder ((desk.requests.table kind).holder? group), desk)
  | .acquire name kind id groups =>
    let (claim, requests) := Claim.acquire desk.requests kind id groups
    (.names claim.granted,
      { requests := releaseClaim (desk.held.get? name) requests
        held := desk.held.insert name claim })
  | .release name =>
    let claim := desk.held.get? name
    (.released claim.isSome,
      { requests := releaseClaim claim desk.requests
        held := desk.held.erase name })
  | .summary => (.summary desk.requests.summary, desk)

def run : RequestDesk → List RequestCall → List RequestReply × RequestDesk
  | desk, [] => ([], desk)
  | desk, next :: calls =>
    let (reply, desk) := desk.call next
    let (replies, desk) := run desk calls
    (reply :: replies, desk)

end RequestDesk

end CloudAudit
