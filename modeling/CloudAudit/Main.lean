import CloudAudit.Config.CommandLine
import CloudAudit.Startup
/-!
# The program

Reads files and the environment, and leaves every decision to the library. Listening on a socket is
no part of it: `serve` gets the service ready and says where it is to listen.
-/
set_option autoImplicit false

namespace CloudAudit.Program

def look (path : String) : IO Config.PathContent := do
  try
    return .text (← IO.FS.readFile path)
  catch
    | .noFileOrDirectory .. => return .missing
    | _ => return .unreadable

def settingNames : List String :=
  ["CONFIG", "ENV_FILE", "BIND", "INVENTORY", "OWNED_GROUPS", "ORG_SUFFIX",
    "ADDITIONAL_ADMIN_ROLES", "LABEL_TO_EMAIL_REGEXP", "LABEL_TO_EMAIL_SUBST",
    "NOTIFICATION_INTERVAL", "COLLECT_AND_SCAN_INTERVAL", "RUN_AUTOMATED_SCANS"].map
    ("POSTURE_" ++ ·)

/-- The words of a text that may be names of variables. -/
def words (text : String) : List String :=
  (text.toList.splitBy fun a b => a.isAlphanum == b.isAlphanum).map String.ofList

/-- Those of some variables that are set. -/
def assignedAmong (names : List String) : IO VariableFile.Variables := do
  let found ← names.mapM fun name => do return (← IO.getEnv name).map (name, ·)
  return found.filterMap id

/-- The contents of the paths that the loader may look at. -/
def contents (paths : List String) : IO (String → Config.PathContent) := do
  let found ← paths.mapM fun path => do return (path, ← look path)
  return fun path => (found.lookup path).getD .missing

def load (line : CommandLine) : IO (Except ConfigError ConfigLoad) := do
  let envPath := line.options.envFile.getD ".env"
  let envText :=
    match ← look envPath with
    | .text content => content
    | _ => ""
  let set ← assignedAmong (settingNames ++ words envText)
  let added := (VariableFile.load? set envText).getD set
  let named := line.options.configPath.or (Config.environmentOf added).configPath?
  let seen ← contents (envPath :: named.toList ++ Config.defaultPaths)
  return Config.load seen line.loadOptions [""] set

def inventory (path : Option String) : IO InventoryFile := do
  match path with
  | none => return .unset
  | some path =>
    match ← look path with
    | .text content => return .text path content
    | .missing => return .unreadable path "no such file"
    | .unreadable => return .unreadable path "not a text file"

def serve (config : Config) : IO UInt32 := do
  let file ← inventory config.server.inventory
  match Deployment.start config.settings file config.server.ownedGroups with
  | .error error =>
    IO.eprintln ("Error: " ++ error.message ++ ": " ++ error.cause.message)
    return 1
  | .ok deployment =>
    IO.println ("ready with " ++ toString deployment.inventory.resources.length
      ++ " resources, to listen on " ++ config.server.bind.text)
    return 0

def run (line : CommandLine) : IO UInt32 := do
  match ← load line with
  | .error error =>
    IO.eprintln ("Error: failed to load configuration: " ++ error.message)
    return 1
  | .ok found =>
    found.warnings.forM fun warning => IO.eprintln ("configuration warning: " ++ warning.text)
    let config := line.adjust found.config
    match line.command with
    | .checkConfig =>
      config.summary.forM IO.println
      return 0
    | .serve => serve config

end CloudAudit.Program

def main (arguments : List String) : IO UInt32 := do
  let set ← CloudAudit.Program.assignedAmong CloudAudit.Program.settingNames
  match CloudAudit.CommandLine.ofArguments (CloudAudit.Config.environmentOf set) arguments with
  | .ok line => CloudAudit.Program.run line
  | .error problem =>
    IO.eprintln ("error: " ++ problem)
    return 2
