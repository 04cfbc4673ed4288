import CloudAudit.Books
/-!
# Notifying

The notifier delivers batches of notifications and, if it keeps exceptions, leaves out what they
silence.
-/
set_option autoImplicit false

namespace CloudAudit.Notifier

def unsupported : AuditError := .notification "notification exceptions are not supported"

def isSilenced (exceptions : Table NotificationException) (now : Instant)
    (notification : Notification) : Bool :=
  exceptions.values.any fun wish => wish.silences notification now

def created (now : Instant) (notification : Notification) : Work Notification := do
  let id ← Books.mintId
  return { notification with uuid := Uuid.ofText? id, createdOn := some now }

def deliverKeeping (batch : List Notification) : Work (List Notification) := do
  let now ← Books.readClock
  let books ← get
  (batch.filter fun notification => !isSilenced books.exceptions now notification).mapM
    (created now)

def deliver (deployment : Deployment) (batch : List Notification) : Act (List Notification) :=
  match deployment.notifier with
  | .keeping => deliverKeeping batch
  | .rejecting => throw (.notification "service unavailable")
  | .bare => pure batch

def note (delivery : Delivery) : Work Unit :=
  modify fun books => { books with deliveries := delivery :: books.deliveries }

/-- Submit a batch: deliver it and note what came of it. -/
def submit (deployment : Deployment) (batch : List Notification) : Act (List Notification) := do
  match ← Books.outcome (deliver deployment batch) with
  | .ok delivered =>
    note ⟨batch.length, some delivered⟩
    return delivered
  | .error error =>
    note ⟨batch.length, none⟩
    throw error

def requireExceptions (deployment : Deployment) : Act Unit :=
  match deployment.notifier with
  | .keeping => pure ()
  | _ => throw unsupported

def missing (uuid : String) : AuditError := .notFound ("exception " ++ uuid)

def getException (deployment : Deployment) (uuid : String) : Act NotificationException := do
  requireExceptions deployment
  let books ← get
  match books.exceptions.get? uuid with
  | some wish => return wish
  | none => throw (missing uuid)

def keep (wish : NotificationException) : Work Unit :=
  modify fun books => { books with exceptions := books.exceptions.insert wish.uuid wish }

/-- Keep a new exception, with an identifier and the instant of its creation. -/
def createException (deployment : Deployment) (wish : NotificationException) :
    Act NotificationException := do
  requireExceptions deployment
  let uuid ← Books.mintId
  let now ← Books.readClock
  let wish := { wish with uuid, createdOn := some now }
  keep wish
  return wish

/-- Replace an exception; the instant of its creation stays. -/
def updateException (deployment : Deployment) (wish : NotificationException) :
    Act NotificationException := do
  requireExceptions deployment
  let books ← get
  match books.exceptions.get? wish.uuid with
  | some existing =>
    let wish := { wish with createdOn := existing.createdOn }
    keep wish
    return wish
  | none => throw (missing wish.uuid)

def deleteException (deployment : Deployment) (uuid : String) : Act Unit := do
  requireExceptions deployment
  let books ← get
  if books.exceptions.contains uuid then
    set { books with exceptions := books.exceptions.erase uuid }
  else throw (missing uuid)

/-- The exceptions of a user after a token, in ascending order: all of them, or the first few. -/
def pageOf (exceptions : Table NotificationException) (email : String) (size : Nat)
    (token : Option String) : List NotificationException :=
  let found := exceptions.values.filter fun wish =>
    wish.userEmail == email && token.all fun token => decide (token < wish.uuid)
  if size == 0 then found else found.take size

def listExceptions (deployment : Deployment) (email : String) (size : Nat)
    (token : Option String) : Act (List NotificationException) := do
  requireExceptions deployment
  let books ← get
  return pageOf books.exceptions email size token

end CloudAudit.Notifier
