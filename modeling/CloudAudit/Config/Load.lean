import CloudAudit.Config.Layer
import CloudAudit.Config.SocketAddress
import CloudAudit.Config.VariableFile
import CloudAudit.Settings
import CloudAudit.Time.Spoken
import CloudAudit.Toml.Document
/-!
# Loading the configuration

The environment goes over the configuration file, and both go over the defaults. A setting that
somebody made and that cannot be understood is an error; nothing falls back to a lower layer for
that reason, except that an unknown word for whether to run automatically counts as not set.
-/
set_option autoImplicit false

namespace CloudAudit

structure ServerConfig where
  bind : SocketAddress
  inventory : Option String
  /-- The groups that callers own; every known one when there is none here. -/
  ownedGroups : List String
  deriving DecidableEq, Repr, Inhabited

structure Config where
  server : ServerConfig
  settings : Settings
  filePath : Option String := none
  envFileLoaded : Bool := false
  deriving Repr, Inhabited

/-- Something about a configuration that may not be meant. -/
structure ConfigWarning where
  message : String
  hint : Option String := none
  deriving DecidableEq, Repr, Inhabited

namespace ConfigWarning

def text (warning : ConfigWarning) : String :=
  match warning.hint with
  | some hint => warning.message ++ " (" ++ hint ++ ")"
  | none => warning.message

def noFile : ConfigWarning where
  message := "No posture.toml detected; falling back to environment variables"
  hint := some "Pass --config or set POSTURE_CONFIG to use a configuration file"

def noInventory : ConfigWarning where
  message := "No inventory configured; the collector will report no resource groups"
  hint := some "Set POSTURE_INVENTORY to a JSON inventory file"

def notAutomatic : ConfigWarning where
  message := "Automated scans are disabled"

end ConfigWarning

/-- A setting with a value that cannot be used. -/
inductive ConfigKey where
  | bind
  | runInterval
  | orgSuffix
  | notificationInterval
  | posture
  deriving DecidableEq, Repr

def ConfigKey.name : ConfigKey → String
  | .bind => "bind"
  | .runInterval => "collect_and_scan_interval"
  | .orgSuffix => "org_suffix"
  | .notificationInterval => "notification_interval"
  | .posture => "posture"

/-- Why there is no configuration. -/
inductive ConfigError where
  /-- The configuration file that was asked for does not exist. -/
  | missing (path : String)
  /-- The configuration file cannot be read. -/
  | unreadable (path : String)
  /-- The configuration file is no settings file, or a setting in it is of the wrong kind. -/
  | unparsable (path : String)
  | invalid (key : ConfigKey) (detail : String)
  /-- The file of environment variables cannot be understood. -/
  | variableFile
  deriving DecidableEq, Repr

def ConfigError.message : ConfigError → String
  | .missing path => "configuration file missing: " ++ path
  | .unreadable path => "failed to read configuration " ++ path
  | .unparsable path => "failed to parse configuration " ++ path
  | .invalid key detail => "invalid value for " ++ key.name ++ ": " ++ detail
  | .variableFile => "error parsing the file of environment variables"

structure ConfigLoad where
  config : Config
  warnings : List ConfigWarning
  deriving Repr, Inhabited

namespace Config

/-! ## From layers to settings -/

def defaultBind : String := "0.0.0.0:8080"

def bindOf (layer : Layer) : Except ConfigError SocketAddress :=
  let text := layer.bind.getD defaultBind
  match SocketAddress.ofText? text with
  | some address => .ok address
  | none => .error (.invalid .bind (text ++ ": invalid socket address syntax"))

def intervalOf (key : ConfigKey) (written : Option String) (default : Duration) :
    Except ConfigError Duration :=
  match written with
  | none => .ok default
  | some text =>
    match Duration.ofSpoken? (Text.trim text) with
    | some length => .ok length
    | none => .error (.invalid key (text ++ ": not a duration"))

def orgSuffixOf (layer : Layer) : Except ConfigError String :=
  match layer.orgSuffix with
  | some suffix => .ok suffix
  | none => .error (.invalid .orgSuffix "must be set (POSTURE_ORG_SUFFIX)")

/-- The settings of a layer over the defaults. Of several faults the first in the order interval of
runs, suffix, interval of notifications decides. -/
def settingsOf (layer : Layer) : Except ConfigError Settings := do
  let plain : Settings := {}
  let runInterval ← intervalOf .runInterval layer.runInterval plain.pipeline.interval
  let orgSuffix ← orgSuffixOf layer
  let notificationInterval ←
    intervalOf .notificationInterval layer.notificationInterval plain.notifications.interval
  return {
    pipeline := {
      interval := runInterval
      automatic := layer.automatic.getD plain.pipeline.automatic }
    notifications := {
      orgSuffix
      additionalAdminRoles := layer.adminRoles.getD []
      labelPattern := layer.labelPattern.getD plain.notifications.labelPattern
      labelTemplate := layer.labelTemplate.getD plain.notifications.labelTemplate
      interval := notificationInterval
      sourceSystem := plain.notifications.sourceSystem } }

def check (settings : Settings) : Except ConfigError Unit :=
  settings.validate.mapError fun error => .invalid .posture error.message

def warnings (config : Config) : List ConfigWarning :=
  (if config.filePath.isNone then [.noFile] else [])
    ++ (if config.server.inventory.isNone then [.noInventory] else [])
    ++ (if config.settings.pipeline.automatic then [] else [.notAutomatic])

def compose (layer : Layer) (filePath : Option String) : Except ConfigError ConfigLoad := do
  let bind ← bindOf layer
  let settings ← settingsOf layer
  check settings
  let server : ServerConfig := ⟨bind, layer.inventory, layer.ownedGroups.getD []⟩
  let config : Config := { server, settings, filePath }
  return ⟨config, config.warnings⟩

/-! ## Files -/

inductive PathContent where
  | missing
  /-- Something that is no text file, such as a directory. -/
  | unreadable
  | text (content : String)
  deriving DecidableEq, Repr, Inhabited

structure LoadOptions where
  configPath : Option String := none
  envFile : Option String := none
  deriving DecidableEq, Repr, Inhabited

/-- Where configuration files are looked for when nobody names one. -/
def defaultPaths : List String :=
  ["posture.toml", "config/posture.toml"]

/-- The configuration file to read, if there is one; a file that was asked for has to exist. -/
def filePathOf (look : String → PathContent) (options : LoadOptions) (environment : Environment) :
    Except ConfigError (Option String) :=
  match options.configPath.or environment.configPath? with
  | some path => if look path = .missing then .error (.missing path) else .ok (some path)
  | none => .ok (defaultPaths.find? fun path => look path ≠ .missing)

def fileLayer (look : String → PathContent) (path : String) : Except ConfigError Layer :=
  match look path with
  | .missing => .error (.missing path)
  | .unreadable => .error (.unreadable path)
  | .text content =>
    match (Toml.ofText? content).bind Layer.ofFile? with
    | some layer => .ok layer
    | none => .error (.unparsable path)

def loadWith (look : String → PathContent) (options : LoadOptions) (environment : Environment) :
    Except ConfigError ConfigLoad := do
  match ← filePathOf look options environment with
  | none => compose environment.layer none
  | some path => compose (environment.layer.onTopOf (← fileLayer look path)) (some path)

/-- The text of the file of environment variables: the named one, or the first `.env` in the given
directories. -/
def variableFileOf (look : String → PathContent) (options : LoadOptions)
    (directories : List String) : Option String :=
  let candidates :=
    match options.envFile with
    | some path => [path]
    | none => directories.map (· ++ ".env")
  candidates.findSome? fun path =>
    match look path with
    | .text content => some content
    | _ => none

def environmentOf (assigned : VariableFile.Variables) : Environment :=
  fun name => List.lookup name assigned

/-- Load the configuration of a process: its variables, those that the file of environment
variables adds, and the configuration file. `directories` are the working directory and those
above it. -/
def load (look : String → PathContent) (options : LoadOptions) (directories : List String)
    (assigned : VariableFile.Variables) : Except ConfigError ConfigLoad :=
  match variableFileOf look options directories with
  | none => loadWith look options (environmentOf assigned)
  | some content =>
    match VariableFile.load? assigned content with
    | none => .error .variableFile
    | some assigned => do
      let found ← loadWith look options (environmentOf assigned)
      return { found with config := { found.config with envFileLoaded := true } }

end Config

end CloudAudit
