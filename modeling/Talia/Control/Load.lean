import Talia.Core.ControlConfig

/-!
# Loading the control-plane configuration

A config file is read, parsed and validated, at startup and at every reload. Validation resolves
the empty hostname and every host with overrides.
-/

namespace Talia

structure LoadedControlConfig where
  sourceVersion : String
  config : ControlConfigFile

inductive LoadError where
  | read (path : String)
  | parse (path : String)
  | defaults (source : ConfigError)
  | host (hostname : String) (source : ConfigError)

def LoadError.message : LoadError → String
  | .read path => "failed to read control config " ++ path
  | .parse path => "failed to parse control config " ++ path
  | .defaults _ => "invalid default runtime config"
  | .host hostname _ => "invalid runtime config for host " ++ hostname

/-- The first of the hostnames that does not resolve is an error. -/
def validateHosts (config : ControlConfigFile) : List String → Except LoadError Unit
  | [] => .ok ()
  | hostname :: hostnames =>
    match config.runtimeConfigFor hostname with
    | .ok _ => validateHosts config hostnames
    | .error source => .error (.host hostname source)

/-- The empty hostname, then every host with overrides, must resolve. -/
def validateRuntimeConfigs (config : ControlConfigFile) : Except LoadError Unit :=
  match config.runtimeConfigFor "" with
  | .ok _ => validateHosts config config.hosts.keys
  | .error source => .error (.defaults source)

/-- What is fixed while the server runs: SHA-256, the decoder of TOML files, the two tokens, and
the path of the config file. -/
structure Env where
  sha256 : ByteArray → ByteArray
  fromToml : String → Option ControlConfigFile
  agentToken : String
  adminToken : String
  configPath : Option String

/-- Loads the config file, whose contents are those given, or nothing if it cannot be read.
Without a path the configuration is the empty one. -/
def loadControlConfig (env : Env) (file : Option String) : Except LoadError LoadedControlConfig :=
  match env.configPath with
  | some path =>
    match file with
    | none => .error (.read path)
    | some contents =>
      match env.fromToml contents with
      | none => .error (.parse path)
      | some config =>
        (validateRuntimeConfigs config).map fun _ => ⟨configSourceVersion contents, config⟩
  | none => (validateRuntimeConfigs {}).map fun _ => ⟨configSourceVersion "", {}⟩

end Talia
