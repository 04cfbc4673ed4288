import CloudAudit.Wire.Record
/-!
# Notifications and their exceptions

A `Notification` tells one recipient of one finding. A `NotificationException` is a recipient's wish
to hear no more of findings of one name, for ever or until an instant.
-/
set_option autoImplicit false

namespace CloudAudit

/-- A message to one recipient; the notifier adds the identifier and the time. -/
structure Notification where
  uuid : Option Uuid := none
  sourceSystem : String
  name : String
  recipient : String
  content : String
  createdOn : Option Instant := none
  interval : Duration
  deriving DecidableEq, Repr, Inhabited

instance : Wire Notification where
  write notification :=
    .object
      [("uuid", write notification.uuid),
       ("source_system", write notification.sourceSystem),
       ("name", write notification.name),
       ("recipient", write notification.recipient),
       ("content", write notification.content),
       ("created_on", write notification.createdOn),
       ("interval", write notification.interval)]
  read draft := do
    let fields ← Wire.recordFields false
      [Wire.optional (Option Uuid) "uuid",
       Wire.needed String "source_system",
       Wire.needed String "name",
       Wire.needed String "recipient",
       Wire.needed String "content",
       Wire.optional (Option Instant) "created_on",
       Wire.needed Duration "interval"] draft
    return {
      uuid := ← Wire.fieldOr fields "uuid" none
      sourceSystem := ← Wire.field fields "source_system"
      name := ← Wire.field fields "name"
      recipient := ← Wire.field fields "recipient"
      content := ← Wire.field fields "content"
      createdOn := ← Wire.fieldOr fields "created_on" none
      interval := ← Wire.field fields "interval" }

/-- A recipient's wish to hear no more of findings of one name. -/
structure NotificationException where
  uuid : String := ""
  sourceSystem : String := ""
  userEmail : String := ""
  notificationName : String
  justification : String := ""
  createdOn : Option Instant := none
  validUntil : Option Instant := none
  deriving DecidableEq, Repr, Inhabited

namespace NotificationException

def isValid (wish : NotificationException) (now : Instant) : Bool :=
  match wish.validUntil with
  | some limit => limit.after now
  | none => true

def silences (wish : NotificationException) (notification : Notification) (now : Instant) : Bool :=
  wish.userEmail == notification.recipient && wish.notificationName == notification.name
    && wish.isValid now

end NotificationException

instance : Wire NotificationException where
  write wish :=
    .object
      [("uuid", write wish.uuid),
       ("source_system", write wish.sourceSystem),
       ("user_email", write wish.userEmail),
       ("notification_name", write wish.notificationName),
       ("justification", write wish.justification),
       ("created_on", write wish.createdOn),
       ("valid_until", write wish.validUntil)]
  read draft := do
    let fields ← Wire.recordFields false
      [Wire.optional String "uuid",
       Wire.optional String "source_system",
       Wire.optional String "user_email",
       Wire.needed String "notification_name",
       Wire.optional String "justification",
       Wire.optional (Option Instant) "created_on",
       Wire.optional (Option Instant) "valid_until"] draft
    return {
      uuid := ← Wire.fieldOr fields "uuid" ""
      sourceSystem := ← Wire.fieldOr fields "source_system" ""
      userEmail := ← Wire.fieldOr fields "user_email" ""
      notificationName := ← Wire.field fields "notification_name"
      justification := ← Wire.fieldOr fields "justification" ""
      createdOn := ← Wire.fieldOr fields "created_on" none
      validUntil := ← Wire.fieldOr fields "valid_until" none }

end CloudAudit
