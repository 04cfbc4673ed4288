import CloudAudit.Notifier
/-!
# Dispatching

From observations to notifications: one for each contact of the group of each observation, submitted
as one batch.
-/
set_option autoImplicit false

namespace CloudAudit.Dispatch

def recordFilter (observation : Observation) : Filter where
  groups := some [observation.groupName]
  names := some [observation.groupName]
  kinds := some [.resourceGroup]
  operation := observation.collectionId
  limit := some 2

def content (remediation : Remediation) : String :=
  remediation.description ++ "\n\n" ++ remediation.recommendation

def notification (deployment : Deployment) (observation : Observation) (recipient : String) :
    Notification where
  sourceSystem := deployment.sourceSystem
  name := observation.name
  recipient
  content := content observation.remediation
  interval := deployment.notificationInterval

/-- The notifications of an observation given the records of its group, of which the first
counts. -/
def forRecords (deployment : Deployment) (observation : Observation) :
    List Resource → Except AuditError (List Notification)
  | [] => .error (.notFound ("no resource found for resource group " ++ observation.groupName))
  | record :: _ =>
    match deployment.contacts.contacts record with
    | [] => .error (.noContacts observation.groupName)
    | contacts => .ok (contacts.map (notification deployment observation))

def notificationsFor (deployment : Deployment) (observation : Observation) :
    Act (List Notification) := do
  let records ← Books.listResources (recordFilter observation)
  Books.settled (forRecords deployment observation records)

/-- The notifications of observations; those that fail contribute none. -/
def batchFor (deployment : Deployment) : List Observation → Work (List Notification)
  | [] => return []
  | observation :: observations => do
    let found ← (notificationsFor deployment observation).run
    let rest ← batchFor deployment observations
    match found with
    | .ok found => return found ++ rest
    | .error _ => return rest

def dispatch (deployment : Deployment) (observations : List Observation) : Work Nat := do
  let batch ← batchFor deployment observations
  if batch.isEmpty then return 0
  match ← (Notifier.submit deployment batch).run with
  | .ok created => return created.length
  | .error _ => return 0

end CloudAudit.Dispatch
