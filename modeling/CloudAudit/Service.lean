import CloudAudit.Identity
import CloudAudit.Pipeline
/-!
# The service

What callers can ask for: runs over groups that they own, the observations of these groups, reports
of their own observations, and exceptions from notifications.
-/
set_option autoImplicit false

namespace CloudAudit.Service

def ownedGroups (deployment : Deployment) : Act (List String) :=
  match deployment.access with
  | .broken => throw (.storage "acl backend down")
  | .owned [] => do
    let names ← Collector.groupNames deployment
    return (NameSet.ofNames names).names
  | .owned groups => pure (NameSet.ofNames groups).names

/-- The requested groups if all of them are owned; every owned one if none is requested. -/
def permitted (owned requested : List String) : Except AuditError (List String) :=
  if requested.isEmpty then .ok owned
  else
    match requested.find? fun group => !owned.contains group with
    | some denied => .error (.accessDenied ("resource group " ++ denied ++ " is not accessible"))
    | none => .ok requested

/-- The groups that a request covers. Who cannot find out what a caller owns does not know the
caller. -/
def validateGroups (deployment : Deployment) (requested : List String) : Act (List String) := do
  match ← Books.outcome (ownedGroups deployment) with
  | .ok owned => Books.settled (permitted owned requested)
  | .error error => throw (.unauthenticated error.message)

def collectAndScan (deployment : Deployment) (requested : List String) : Act RunIds := do
  let groups ← validateGroups deployment requested
  Pipeline.start deployment .selected groups

def collectAndScanAll (deployment : Deployment) : Act RunIds :=
  Pipeline.start deployment .full []

/-- The latest completed scan of each group, of equal instants the last. -/
def latestEntries (latest : Table (Instant × String)) :
    List Operation → Table (Instant × String)
  | [] => latest
  | operation :: operations =>
    if operation.kind = .scan ∧ operation.status = .completed then
      match latest.get? operation.resourceGroup with
      | some seen =>
        if operation.statusTime.notBefore seen.1 then
          latestEntries
            (latest.insert operation.resourceGroup (operation.statusTime, operation.id)) operations
        else latestEntries latest operations
      | none =>
        latestEntries (latest.insert operation.resourceGroup (operation.statusTime, operation.id))
          operations
    else latestEntries latest operations

def latestCompletedScans (operations : List Operation) : Table String :=
  (latestEntries Table.empty operations).map (·.2)

/-- For each group without a completed scan, the scan of its latest observation, of equal instants
the first. -/
def latestSeen (completed : Table String) (latest : Table (Option Instant × String)) :
    List Observation → Table (Option Instant × String)
  | [] => latest
  | observation :: observations =>
    match observation.scanId with
    | none => latestSeen completed latest observations
    | some scanId =>
      if completed.contains observation.groupName then
        latestSeen completed latest observations
      else
        match latest.get? observation.groupName with
        | some seen =>
          if Instant.laterStamp observation.timestamp seen.1 then
            latestSeen completed
              (latest.insert observation.groupName (observation.timestamp, scanId)) observations
          else latestSeen completed latest observations
        | none =>
          latestSeen completed
            (latest.insert observation.groupName (observation.timestamp, scanId)) observations

def countedScan? (completed : Table String) (latest : Table (Option Instant × String))
    (group : String) : Option String :=
  match completed.get? group with
  | some scanId => some scanId
  | none => (latest.get? group).map (·.2)

/-- The observations of the scan of each group that counts, and those of no scan. -/
def latestScanOnly (observations : List Observation) (completed : Table String) :
    List Observation :=
  let latest := latestSeen completed Table.empty observations
  observations.filter fun observation =>
    match observation.scanId with
    | none => true
    | some scanId => countedScan? completed latest observation.groupName == some scanId

abbrev ByRule := Table (List Observation)

def emptyByRule (rules : List Rule) : ByRule :=
  .ofList (rules.map fun rule => (rule.name, []))

def place (grouped : Table ByRule) (observation : Observation) : Table ByRule :=
  grouped.update observation.groupName Table.empty fun byRule =>
    byRule.update observation.name [] fun found => found ++ [observation]

/-- Observations by group and rule; every given group and every rule has its place. -/
def grouped (rules : List Rule) (groups : List String) (observations : List Observation) :
    Table ByRule :=
  observations.foldl place (.ofList (groups.map fun group => (group, emptyByRule rules)))

def entries (grouped : Table ByRule) : List GroupObservations :=
  grouped.entries.map fun group =>
    ⟨group.1, group.2.entries.map fun rule => ⟨rule.1, rule.2⟩⟩

/-- The observations of groups within the last seven days, those of each group's latest scan and
those of no scan. -/
def listObservations (deployment : Deployment) (requested : List String) :
    Act (List GroupObservations) := do
  let groups ← validateGroups deployment requested
  let now ← Books.readClock
  let filter ← Books.settled (Filter.since { groups := some groups } now .week)
  let observations ← Books.listObservations filter
  let operations ← Books.listOperations filter
  return entries
    (grouped deployment.rules groups
      (latestScanOnly observations (latestCompletedScans operations)))

def checkReport (observation : Observation) : Except AuditError Unit :=
  if observation.name.isEmpty then .error (.invalidInput "observation does not have a name")
  else if observation.resourceRef.name.isEmpty then
    .error (.invalidInput "resource to link observation with not defined")
  else if observation.remediation.recommendation.isEmpty then
    .error (.invalidInput "cannot create an observation without recommendation")
  else .ok ()

/-- The resources of the collection with the latest resource. -/
def current (found : List Resource) : List Resource :=
  let latest := (Scan.newest none found).bind Resource.collectionUid
  found.filter fun resource => resource.collectionUid == latest

def onlyCurrent (name : String) (found : List Resource) : Except AuditError Resource :=
  match current found with
  | [resource] => .ok resource
  | others =>
    .error (.notFound
      ("found " ++ toString others.length ++ " resources matching " ++ name))

def linked (observation : Observation) (resource : Resource) : Observation :=
  { observation with
    resourceRef := ⟨resource.name, resource.resourceGroupName, some resource.uid⟩
    collectionId := observation.collectionId.or resource.collectionUid }

def onlyStored : List Observation → Except AuditError Observation
  | [stored] => .ok stored
  | _ => .error (.storage "unexpected number of created observations")

def reportUid (uid : String) : Work String :=
  if uid.isEmpty then Books.mintId else pure uid

def createObservation (observation : Observation) : Act Observation := do
  Books.settled (checkReport observation)
  let found ← Books.listResources { names := some [observation.resourceRef.name] }
  let resource ← Books.settled (onlyCurrent observation.resourceRef.name found)
  let uid ← reportUid observation.uid
  let now ← Books.readClock
  let stored ←
    Books.addObservations [{ linked observation resource with uid, timestamp := some now }]
  Books.settled (onlyStored stored)

def authenticate (caller : Option String) : Act String :=
  Books.settled (Identity.authenticate caller)

def ownedException (deployment : Deployment) (user uuid : String) :
    Act NotificationException := do
  let wish ← Notifier.getException deployment uuid
  if wish.userEmail == user then return wish
  else throw (.unauthenticated ("exception " ++ uuid ++ " belongs to another user"))

def getException (deployment : Deployment) (caller : Option String) (uuid : String) :
    Act NotificationException := do
  let user ← authenticate caller
  ownedException deployment user uuid

def createException (deployment : Deployment) (caller : Option String)
    (wish : NotificationException) : Act NotificationException := do
  let user ← authenticate caller
  if Text.allBlank wish.notificationName then
    throw (.invalidInput "exception does not name a notification")
  Notifier.createException deployment
    { wish with userEmail := user, sourceSystem := deployment.sourceSystem }

/-- Replace an exception of the caller. What it is about stays unless the new one names it; whose it
is and where it came from stay in any case. -/
def updateException (deployment : Deployment) (caller : Option String) (uuid : String)
    (wish : NotificationException) : Act NotificationException := do
  let user ← authenticate caller
  let existing ← ownedException deployment user uuid
  let notificationName :=
    if Text.allBlank wish.notificationName then existing.notificationName
    else wish.notificationName
  Notifier.updateException deployment
    { wish with
      notificationName
      uuid := existing.uuid
      userEmail := existing.userEmail
      sourceSystem := existing.sourceSystem }

def deleteException (deployment : Deployment) (caller : Option String) (uuid : String) :
    Act Unit := do
  let user ← authenticate caller
  let _ ← ownedException deployment user uuid
  Notifier.deleteException deployment uuid

def listExceptions (deployment : Deployment) (caller : Option String) (size : Nat)
    (token : Option String) : Act (List NotificationException) := do
  let user ← authenticate caller
  Notifier.listExceptions deployment user size token

end CloudAudit.Service
