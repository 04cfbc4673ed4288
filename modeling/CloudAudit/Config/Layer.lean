import CloudAudit.Text.Blank
import CloudAudit.Toml.Value
/-!
# Layers of configuration

The environment and the configuration file each may say something about every setting. A `Layer`
holds what one of them says, as written; `Layer.onTopOf` puts one layer over another.
-/
set_option autoImplicit false

namespace CloudAudit

/-- What one source says about the settings. -/
structure Layer where
  bind : Option String := none
  inventory : Option String := none
  ownedGroups : Option (List String) := none
  runInterval : Option String := none
  automatic : Option Bool := none
  orgSuffix : Option String := none
  adminRoles : Option (List String) := none
  labelPattern : Option String := none
  labelTemplate : Option String := none
  notificationInterval : Option String := none
  deriving DecidableEq, Repr, Inhabited

namespace Layer

/-- What the upper layer says, and of the rest what the lower one says. -/
def onTopOf (upper lower : Layer) : Layer where
  bind := upper.bind.or lower.bind
  inventory := upper.inventory.or lower.inventory
  ownedGroups := upper.ownedGroups.or lower.ownedGroups
  runInterval := upper.runInterval.or lower.runInterval
  automatic := upper.automatic.or lower.automatic
  orgSuffix := upper.orgSuffix.or lower.orgSuffix
  adminRoles := upper.adminRoles.or lower.adminRoles
  labelPattern := upper.labelPattern.or lower.labelPattern
  labelTemplate := upper.labelTemplate.or lower.labelTemplate
  notificationInterval := upper.notificationInterval.or lower.notificationInterval

end Layer

/-! ## The environment -/

abbrev Environment := String → Option String

namespace Environment

def text? (environment : Environment) (name : String) : Option String :=
  (environment name).filter fun value => !Text.allBlank value

def truth? (word : String) : Option Bool :=
  match Text.lower word with
  | "1" | "true" | "yes" | "on" => some true
  | "0" | "false" | "no" | "off" => some false
  | _ => none

def configPath? (environment : Environment) : Option String :=
  environment.text? "POSTURE_CONFIG"

def layer (environment : Environment) : Layer where
  bind := environment.text? "POSTURE_BIND"
  inventory := environment.text? "POSTURE_INVENTORY"
  ownedGroups := (environment.text? "POSTURE_OWNED_GROUPS").map Text.listed
  runInterval := environment.text? "POSTURE_COLLECT_AND_SCAN_INTERVAL"
  automatic := (environment.text? "POSTURE_RUN_AUTOMATED_SCANS").bind truth?
  orgSuffix := environment.text? "POSTURE_ORG_SUFFIX"
  adminRoles := (environment.text? "POSTURE_ADDITIONAL_ADMIN_ROLES").map Text.listed
  labelPattern := environment.text? "POSTURE_LABEL_TO_EMAIL_REGEXP"
  labelTemplate := environment.text? "POSTURE_LABEL_TO_EMAIL_SUBST"
  notificationInterval := environment.text? "POSTURE_NOTIFICATION_INTERVAL"

end Environment

/-! ## The configuration file -/

namespace Toml

def asText? : Toml → Option String
  | .string text => some text
  | _ => none

def asTexts? : Toml → Option (List String)
  | .array items _ => items.mapM asText?
  | _ => none

def asBool? : Toml → Option Bool
  | .bool value => some value
  | _ => none

/-- The fields of a record by name. A record is a table, or an array of all its fields in order. -/
def fields? (names : List String) : Toml → Option Entries
  | .table _ entries => some entries
  | .array items _ => if names.length ≤ items.length then some (names.zip items) else none
  | _ => none

def record? (entries : Entries) (name : String) (names : List String) : Option Entries :=
  match entries.lookup name with
  | none => some []
  | some value => value.fields? names

/-- A field that may be missing, but has a value of the right kind when it is there. -/
def field? {α : Type} (read? : Toml → Option α) (fields : Entries) (name : String) :
    Option (Option α) :=
  match fields.lookup name with
  | none => some none
  | some value => (read? value).map some

end Toml

def Layer.ofFile? (entries : Toml.Entries) : Option Layer := do
  let server ← Toml.record? entries "server" ["bind", "inventory", "owned_groups"]
  let pipeline ← Toml.record? entries "pipeline"
    ["collect_and_scan_interval", "run_automated_scans"]
  let notifications ← Toml.record? entries "notifications"
    ["org_suffix", "additional_admin_roles", "label_to_email_regexp", "label_to_email_subst",
      "interval"]
  return {
    bind := ← Toml.field? Toml.asText? server "bind"
    inventory := ← Toml.field? Toml.asText? server "inventory"
    ownedGroups := ← Toml.field? Toml.asTexts? server "owned_groups"
    runInterval := ← Toml.field? Toml.asText? pipeline "collect_and_scan_interval"
    automatic := ← Toml.field? Toml.asBool? pipeline "run_automated_scans"
    orgSuffix := ← Toml.field? Toml.asText? notifications "org_suffix"
    adminRoles := ← Toml.field? Toml.asTexts? notifications "additional_admin_roles"
    labelPattern := ← Toml.field? Toml.asText? notifications "label_to_email_regexp"
    labelTemplate := ← Toml.field? Toml.asText? notifications "label_to_email_subst"
    notificationInterval := ← Toml.field? Toml.asText? notifications "interval" }

end CloudAudit
