/-!
# Errors

Why an operation of the library did not happen, and how each cause is told.
-/
set_option autoImplicit false

namespace CloudAudit

inductive AuditError where
  | io (detail : String)
  | serialization (detail : String)
  | collector (detail : String)
  | ruleEngine (detail : String)
  | storage (detail : String)
  | notification (detail : String)
  /-- The caller does not own a requested resource group. -/
  | accessDenied (detail : String)
  | unauthenticated (detail : String)
  | invalidInput (detail : String)
  | notFound (detail : String)
  /-- A resource group has nobody to notify. -/
  | noContacts (group : String)
  | configuration (detail : String)
  /-- A time window ends outside the calendar. -/
  | outsideCalendar
  deriving DecidableEq, Repr, Inhabited

namespace AuditError

/-- What an error says of its cause, without its kind. -/
def detail : AuditError → String
  | .io detail | .serialization detail | .collector detail | .ruleEngine detail
  | .storage detail | .notification detail | .accessDenied detail | .unauthenticated detail
  | .invalidInput detail | .notFound detail | .noContacts detail | .configuration detail => detail
  | .outsideCalendar => "time window out of range"

def message : AuditError → String
  | .io detail => "IO error: " ++ detail
  | .serialization detail => "Serialization error: " ++ detail
  | .collector detail => "Collector error: " ++ detail
  | .ruleEngine detail => "Rule engine error: " ++ detail
  | .storage detail => "Storage error: " ++ detail
  | .notification detail => "Notification error: " ++ detail
  | .accessDenied detail => "Access denied: " ++ detail
  | .unauthenticated detail => "Unauthenticated: " ++ detail
  | .invalidInput detail => "Invalid input: " ++ detail
  | .notFound detail => "Not found: " ++ detail
  | .noContacts group => "No contacts found for " ++ group
  | .configuration detail => "Configuration error: " ++ detail
  | .outsideCalendar => outsideCalendar.detail

end AuditError

end CloudAudit
