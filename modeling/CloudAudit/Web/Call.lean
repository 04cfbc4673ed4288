import CloudAudit.Notification
import CloudAudit.Report
import CloudAudit.Web.Endpoint
/-!
# Calls

What a request asks for, once it could be read. A request that cannot be read is rejected before
anybody looks at its caller; of several faults the first in the order path, query, kind of body,
body decides.
-/
set_option autoImplicit false

namespace CloudAudit.Web

inductive Call where
  | health
  | collectAndScan (groups : List String)
  | collectAndScanAll
  | status (collectId scanId : String)
  | listObservations (groups : List String)
  | createObservation (observation : Observation)
  | listExceptions (pageSize : Nat) (pageToken : Option String)
  | createException (wish : NotificationException)
  | getException (uuid : String)
  | updateException (uuid : String) (wish : NotificationException)
  | deleteException (uuid : String)
  deriving Repr, Inhabited

inductive Rejection where
  | unknownPath
  | wrongMethod
  /-- The path names an exception by bytes that are no text. -/
  | unreadablePath
  /-- A known field of the query is missing, repeated or unreadable. -/
  | unreadableQuery
  /-- The body is not said to be JSON. -/
  | otherMedia
  /-- The body has no value of the expected type. -/
  | unreadableBody (fault : Fault)
  deriving DecidableEq, Repr

namespace Call

def valuesOf (pairs : List (String × String)) (name : String) : List String :=
  pairs.filterMap fun pair => if pair.1 == name then some pair.2 else none

/-- The value of a field that may stand in a query once. -/
def single? (pairs : List (String × String)) (name : String) : Except Rejection (Option String) :=
  match valuesOf pairs name with
  | [] => .ok none
  | [value] => .ok (some value)
  | _ => .error .unreadableQuery

def required (pairs : List (String × String)) (name : String) : Except Rejection String :=
  match single? pairs name with
  | .ok (some value) => .ok value
  | _ => .error .unreadableQuery

/-- A number below 2^64 in decimal, perhaps after a plus sign. -/
def size? (text : String) : Option Nat := do
  let digits :=
    match text.toList with
    | '+' :: digits => digits
    | digits => digits
  let size ← Text.decimal? digits
  if size < 18446744073709551616 then some size else none

/-- The size of a page; zero when the query does not tell. -/
def pageSize (pairs : List (String × String)) : Except Rejection Nat := do
  match ← single? pairs "page_size" with
  | none => return 0
  | some text =>
    match size? text with
    | some size => return size
    | none => throw .unreadableQuery

def bodyOf {α : Type} [Wire α] (request : Request) : Except Rejection α :=
  if request.saysJson then
    match (Wire.ofText request.body : Except Fault α) with
    | .ok value => .ok value
    | .error fault => .error (.unreadableBody fault)
  else .error .otherMedia

def segmentText (segment : String) : Except Rejection String :=
  match segmentText? segment with
  | some text => .ok text
  | none => .error .unreadablePath

def ofEndpoint (request : Request) (endpoint : Endpoint) : Except Rejection Call :=
  let pairs := queryPairs request.query
  match endpoint, request.method.effective with
  | .health, .get => return .health
  | .collectAndScan, .post => do
    let wanted : RunRequest ← bodyOf request
    return .collectAndScan wanted.resourceGroupNames
  | .collectAndScanAll, .post => return .collectAndScanAll
  | .status, .get => do
    return .status (← required pairs "collect_id") (← required pairs "scan_id")
  | .observations, .get =>
    return .listObservations ((valuesOf pairs "group").filter fun group => !group.isEmpty)
  | .observations, .post => do return .createObservation (← bodyOf request)
  | .exceptions, .get => do
    return .listExceptions (← pageSize pairs) (← single? pairs "page_token")
  | .exceptions, .post => do return .createException (← bodyOf request)
  | .exception segment, .get => do return .getException (← segmentText segment)
  | .exception segment, .put => do
    return .updateException (← segmentText segment) (← bodyOf request)
  | .exception segment, .delete => do return .deleteException (← segmentText segment)
  | _, _ => throw .wrongMethod

def ofRequest (request : Request) : Except Rejection Call :=
  match Endpoint.ofPath? request.path with
  | some endpoint => ofEndpoint request endpoint
  | none => .error .unknownPath

end Call

end CloudAudit.Web
