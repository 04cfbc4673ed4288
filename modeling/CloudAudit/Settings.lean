import CloudAudit.Error
import CloudAudit.Time.Duration
import CloudAudit.Pattern.Replace
/-!
# Settings

What a deployment decides: whom to notify and how often, and when to run.
-/
set_option autoImplicit false

namespace CloudAudit

structure NotificationSettings where
  /-- The end of every principal that belongs to the organisation. -/
  orgSuffix : String := ""
  /-- Roles whose holders are contacted besides the usual ones. -/
  additionalAdminRoles : List String := []
  /-- The pattern that finds the parts of an address in a contact label. -/
  labelPattern : String := "(.*)_(.*?)_(.*?)$"
  /-- The template that puts these parts together. -/
  labelTemplate : String := "$1@$2.$3"
  /-- The least time between two deliveries of the same notification. -/
  interval : Duration := .oneDay
  sourceSystem : String := "posture"
  deriving Repr, Inhabited

/-- When full runs start by themselves. -/
structure PipelineSettings where
  interval : Duration := .sixHours
  automatic : Bool := true
  deriving Repr, Inhabited

structure Settings where
  pipeline : PipelineSettings := {}
  notifications : NotificationSettings := {}
  deriving Repr, Inhabited

namespace Settings

def validate (settings : Settings) : Except AuditError Unit :=
  if Text.allBlank settings.notifications.orgSuffix then
    .error (.configuration "org suffix must be set")
  else if (Pattern.compile? settings.notifications.labelPattern).isNone then
    .error (.configuration "invalid label to email pattern")
  else if settings.pipeline.interval.totalNanos == 0 then
    .error (.configuration "collect and scan interval must be positive")
  else .ok ()

end Settings

end CloudAudit
