import CloudAudit.Config.Load
/-!
# The command line

What the program is asked to do: run the service, or check its configuration. Options stand before
or after the name of the command; those that are not given come from the environment.
-/
set_option autoImplicit false

namespace CloudAudit

inductive Command where
  | serve
  | checkConfig
  deriving DecidableEq, Repr, Inhabited

structure ServeOptions where
  configPath : Option String := none
  envFile : Option String := none
  /-- Where to listen, whatever the configuration says. -/
  bind : Option SocketAddress := none
  deriving DecidableEq, Repr, Inhabited

/-- A command line that was understood. -/
structure CommandLine where
  command : Command := .serve
  options : ServeOptions := {}
  deriving DecidableEq, Repr, Inhabited

namespace CommandLine

def withOption (line : CommandLine) (name value : String) : Except String CommandLine :=
  match name with
  | "--config" => .ok { line with options.configPath := some value }
  | "--env-file" => .ok { line with options.envFile := some value }
  | "--bind" =>
    match SocketAddress.ofText? value with
    | some address => .ok { line with options.bind := some address }
    | none => .error ("invalid value '" ++ value ++ "' for '--bind <BIND>'")
  | _ => .error ("unexpected argument '" ++ name ++ "' found")

def read (line : CommandLine) : List String → Except String CommandLine
  | [] => .ok line
  | "serve" :: more => read { line with command := .serve } more
  | "check-config" :: more => read { line with command := .checkConfig } more
  | name :: more =>
    match Text.cutAt '=' name.toList with
    | some (name, value) => do
      let line ← line.withOption (.ofList name) (.ofList value)
      read line more
    | none =>
      match more with
      | value :: more => do
        let line ← line.withOption name value
        read line more
      | [] => .error ("unexpected argument '" ++ name ++ "' found")

def ofArguments (environment : Environment) (arguments : List String) :
    Except String CommandLine := do
  let line ← read {} arguments
  let options := line.options
  return { line with
    options.configPath := options.configPath.or (environment "POSTURE_CONFIG")
    options.envFile := options.envFile.or (environment "POSTURE_ENV_FILE") }

def loadOptions (line : CommandLine) : Config.LoadOptions :=
  ⟨line.options.configPath, line.options.envFile⟩

def adjust (line : CommandLine) (config : Config) : Config :=
  { config with server.bind := line.options.bind.getD config.server.bind }

end CommandLine

namespace Config

/-- What there is to tell of a valid configuration, line by line. -/
def summary (config : Config) : List String :=
  let file :=
    match config.filePath with
    | some path => "configuration file path=" ++ path
    | none => "no configuration file"
  let pipeline := config.settings.pipeline
  let notifications := config.settings.notifications
  [file,
    "configuration is valid bind=" ++ config.server.bind.text
      ++ " org_suffix=" ++ notifications.orgSuffix
      ++ " collect_and_scan_interval=" ++ pipeline.interval.spoken
      ++ " notification_interval=" ++ notifications.interval.spoken
      ++ " run_automated_scans=" ++ (if pipeline.automatic then "true" else "false")]

end Config

end CloudAudit
