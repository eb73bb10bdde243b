import Talia.Lib.OrdMap
import Talia.Lib.Text
import Talia.Lib.Json

/-!
# Runtime configuration

The runtime configuration an agent applies, its defaults and its validation, and the control-plane
configuration file that resolves into one. `runtimeConfigFor` starts from the built-in defaults,
applies the file's `[defaults]`, then the overrides of the host, stamps the version and validates.

The five sections that hold a switch and an interval (memory, CPU, network, disk I/O and TCP) have
one shape, `CollectorConfig`, and one validation with their own error.
-/

namespace Talia

/-- Errors of loading or validating configuration. -/
inductive ConfigError where
  | read (path source : String)
  | parse (path source : String)
  | emptyVersion
  | emptyConfigPollInterval
  | emptyHeartbeatInterval
  | emptyStorageInterval
  | emptyStorageMounts
  | relativeStorageMount (mount : String)
  | emptyMemoryInterval
  | emptyCpuInterval
  | emptyNetworkInterval
  | emptyDiskIoInterval
  | emptyPodDiscoveryCriSocket
  | emptyTcpInterval
  | insecureControlUrl (field value : String)
  deriving DecidableEq

/-- The text an error is shown as. -/
def ConfigError.message : ConfigError → String
  | .read path source => "failed to read config file " ++ path ++ ": " ++ source
  | .parse path source => "failed to parse TOML config file " ++ path ++ ": " ++ source
  | .emptyVersion => "agent config version must not be empty"
  | .emptyConfigPollInterval => "agent config poll interval must be greater than zero"
  | .emptyHeartbeatInterval => "agent heartbeat interval must be greater than zero"
  | .emptyStorageInterval => "storage interval must be greater than zero"
  | .emptyStorageMounts => "storage collector is enabled but no mounts are configured"
  | .relativeStorageMount mount => "storage mount path must be absolute: " ++ mount
  | .emptyMemoryInterval => "memory interval must be greater than zero"
  | .emptyCpuInterval => "cpu interval must be greater than zero"
  | .emptyNetworkInterval => "network interval must be greater than zero"
  | .emptyDiskIoInterval => "disk I/O interval must be greater than zero"
  | .emptyPodDiscoveryCriSocket => "pod discovery CRI socket selection must not be empty"
  | .emptyTcpInterval => "tcp interval must be greater than zero"
  | .insecureControlUrl field value =>
    field ++ " must use https/wss, or http/ws only for loopback endpoints: " ++ value

/-! ## Defaults -/

def defaultConfigPollIntervalSeconds : UInt64 := 15 * 60
def defaultHeartbeatIntervalSeconds : UInt64 := 60
def defaultStorageIntervalSeconds : UInt64 := 60
def defaultMemoryIntervalSeconds : UInt64 := 60
def defaultCpuIntervalSeconds : UInt64 := 1
def defaultNetworkIntervalSeconds : UInt64 := 1
def defaultDiskIoIntervalSeconds : UInt64 := 1
def defaultTcpIntervalSeconds : UInt64 := 15
def defaultStorageMounts : List String := ["/"]
def defaultPodDiscoveryCriSocket : String := "all"
def defaultTrue : Bool := true

/-- The version of a configuration that comes from the local file. -/
def localConfigVersion : String := "local"

/-! ## Sections -/

/-- Agent control-loop settings. -/
structure AgentRuntimeSettings where
  configPollIntervalSeconds : UInt64
  heartbeatIntervalSeconds : UInt64
  deriving DecidableEq

def AgentRuntimeSettings.default : AgentRuntimeSettings where
  configPollIntervalSeconds := defaultConfigPollIntervalSeconds
  heartbeatIntervalSeconds := defaultHeartbeatIntervalSeconds

/-- The first interval that is zero is reported. -/
def AgentRuntimeSettings.validate (settings : AgentRuntimeSettings) : Except ConfigError Unit :=
  if settings.configPollIntervalSeconds = 0 then .error .emptyConfigPollInterval
  else if settings.heartbeatIntervalSeconds = 0 then .error .emptyHeartbeatInterval
  else .ok ()

/-- Storage collector settings. -/
structure StorageConfig where
  enabled : Bool
  intervalSeconds : UInt64
  mounts : List String
  deriving DecidableEq

def StorageConfig.default : StorageConfig where
  enabled := true
  intervalSeconds := defaultStorageIntervalSeconds
  mounts := defaultStorageMounts

/-- `Path::is_absolute` on Unix: the path starts at the root. -/
def isAbsolute (path : String) : Bool := path.toList.head? = some '/'

/-- The first mount path that is not absolute is an error. -/
def validateMounts : List String → Except ConfigError Unit
  | [] => .ok ()
  | mount :: mounts =>
    if isAbsolute mount then validateMounts mounts else .error (.relativeStorageMount mount)

/-- The interval must be positive, and storage that is enabled must list mounts. -/
def StorageConfig.validate (storage : StorageConfig) : Except ConfigError Unit :=
  if storage.intervalSeconds = 0 then .error .emptyStorageInterval
  else if storage.enabled ∧ storage.mounts = [] then .error .emptyStorageMounts
  else validateMounts storage.mounts

/-- A collector with a switch and an interval. -/
structure CollectorConfig where
  enabled : Bool
  intervalSeconds : UInt64
  deriving DecidableEq

/-- The check the five collectors share: a zero interval is the section's own error. -/
def CollectorConfig.validate (zero : ConfigError) (collector : CollectorConfig) :
    Except ConfigError Unit :=
  if collector.intervalSeconds = 0 then .error zero else .ok ()

abbrev MemoryConfig := CollectorConfig
abbrev CpuConfig := CollectorConfig
abbrev NetworkConfig := CollectorConfig
abbrev DiskIoConfig := CollectorConfig
abbrev TcpConfig := CollectorConfig

def MemoryConfig.default : MemoryConfig := ⟨true, defaultMemoryIntervalSeconds⟩
def CpuConfig.default : CpuConfig := ⟨false, defaultCpuIntervalSeconds⟩
def NetworkConfig.default : NetworkConfig := ⟨false, defaultNetworkIntervalSeconds⟩
def DiskIoConfig.default : DiskIoConfig := ⟨false, defaultDiskIoIntervalSeconds⟩
def TcpConfig.default : TcpConfig := ⟨false, defaultTcpIntervalSeconds⟩

def MemoryConfig.validate : MemoryConfig → Except ConfigError Unit :=
  CollectorConfig.validate .emptyMemoryInterval
def CpuConfig.validate : CpuConfig → Except ConfigError Unit :=
  CollectorConfig.validate .emptyCpuInterval
def NetworkConfig.validate : NetworkConfig → Except ConfigError Unit :=
  CollectorConfig.validate .emptyNetworkInterval
def DiskIoConfig.validate : DiskIoConfig → Except ConfigError Unit :=
  CollectorConfig.validate .emptyDiskIoInterval
def TcpConfig.validate : TcpConfig → Except ConfigError Unit :=
  CollectorConfig.validate .emptyTcpInterval

/-- Pod discovery settings shared by per-pod collectors. -/
structure PodDiscoveryConfig where
  criSocket : String
  deriving DecidableEq

def PodDiscoveryConfig.default : PodDiscoveryConfig := ⟨defaultPodDiscoveryCriSocket⟩

/-- The socket must be named. -/
def PodDiscoveryConfig.validate (discovery : PodDiscoveryConfig) : Except ConfigError Unit :=
  if Text.isBlank discovery.criSocket then .error .emptyPodDiscoveryCriSocket else .ok ()

/-! ## The runtime configuration -/

/-- The configuration a collector loop reads, local or from the control plane. -/
structure AgentRuntimeConfig where
  version : String
  agent : AgentRuntimeSettings
  storage : StorageConfig
  memory : MemoryConfig
  cpu : CpuConfig
  network : NetworkConfig
  diskIo : DiskIoConfig
  podDiscovery : PodDiscoveryConfig
  tcp : TcpConfig
  deriving DecidableEq

/-- The configuration of an agent that was given none. -/
def AgentRuntimeConfig.default : AgentRuntimeConfig where
  version := localConfigVersion
  agent := AgentRuntimeSettings.default
  storage := StorageConfig.default
  memory := MemoryConfig.default
  cpu := CpuConfig.default
  network := NetworkConfig.default
  diskIo := DiskIoConfig.default
  podDiscovery := PodDiscoveryConfig.default
  tcp := TcpConfig.default

/-- Every section's check, in the order of the fields. -/
def AgentRuntimeConfig.validateSections (config : AgentRuntimeConfig) : Except ConfigError Unit := do
  config.agent.validate
  config.storage.validate
  MemoryConfig.validate config.memory
  CpuConfig.validate config.cpu
  NetworkConfig.validate config.network
  DiskIoConfig.validate config.diskIo
  config.podDiscovery.validate
  TcpConfig.validate config.tcp

/-- The version comes first, then the sections. -/
def AgentRuntimeConfig.validate (config : AgentRuntimeConfig) : Except ConfigError Unit :=
  if Text.isBlank config.version then .error .emptyVersion else config.validateSections

/-- Runtime settings pass their checks. -/
def AgentRuntimeConfig.Valid (config : AgentRuntimeConfig) : Prop := config.validate = .ok ()

instance (config : AgentRuntimeConfig) : Decidable config.Valid :=
  inferInstanceAs (Decidable (config.validate = .ok ()))

/-- The same configuration under another version. -/
def AgentRuntimeConfig.withVersion (config : AgentRuntimeConfig) (version : String) :
    AgentRuntimeConfig := { config with version := version }

@[simp] theorem AgentRuntimeConfig.withVersion_version (config : AgentRuntimeConfig)
    (version : String) : (config.withVersion version).version = version := rfl

/-- No section's check reads the version. -/
@[simp] theorem AgentRuntimeConfig.validateSections_withVersion (config : AgentRuntimeConfig)
    (version : String) :
    (config.withVersion version).validateSections = config.validateSections := rfl

/-- Under a version that is not blank, validation is the sections' checks. -/
theorem AgentRuntimeConfig.validate_of_version {config : AgentRuntimeConfig}
    (h : Text.isBlank config.version = false) : config.validate = config.validateSections := by
  rw [validate, if_neg (by rw [h]; exact Bool.false_ne_true)]

/-- A valid configuration has a version, and its sections pass their checks. -/
theorem AgentRuntimeConfig.valid_iff {config : AgentRuntimeConfig} :
    config.Valid ↔ Text.isBlank config.version = false ∧ config.validateSections = .ok () := by
  unfold Valid
  cases h : Text.isBlank config.version with
  | true =>
    rw [validate, if_pos h]
    exact ⟨fun h => (nomatch h), fun h => (nomatch h.1)⟩
  | false =>
    rw [validate_of_version h]
    exact ⟨fun hs => ⟨rfl, hs⟩, And.right⟩

/-! ## Overrides -/

/-- Partial override of agent settings. -/
structure AgentSettingsOverride where
  configPollIntervalSeconds : Option UInt64 := none
  heartbeatIntervalSeconds : Option UInt64 := none

/-- What the override has replaces what the section has. -/
def AgentSettingsOverride.applyTo (o : AgentSettingsOverride) (agent : AgentRuntimeSettings) :
    AgentRuntimeSettings where
  configPollIntervalSeconds := o.configPollIntervalSeconds.getD agent.configPollIntervalSeconds
  heartbeatIntervalSeconds := o.heartbeatIntervalSeconds.getD agent.heartbeatIntervalSeconds

/-- Partial override of storage settings. -/
structure StorageConfigOverride where
  enabled : Option Bool := none
  intervalSeconds : Option UInt64 := none
  mounts : Option (List String) := none

def StorageConfigOverride.applyTo (o : StorageConfigOverride) (storage : StorageConfig) :
    StorageConfig where
  enabled := o.enabled.getD storage.enabled
  intervalSeconds := o.intervalSeconds.getD storage.intervalSeconds
  mounts := o.mounts.getD storage.mounts

/-- Partial override of a collector with a switch and an interval. -/
structure CollectorConfigOverride where
  enabled : Option Bool := none
  intervalSeconds : Option UInt64 := none

def CollectorConfigOverride.applyTo (o : CollectorConfigOverride) (collector : CollectorConfig) :
    CollectorConfig where
  enabled := o.enabled.getD collector.enabled
  intervalSeconds := o.intervalSeconds.getD collector.intervalSeconds

abbrev MemoryConfigOverride := CollectorConfigOverride
abbrev CpuConfigOverride := CollectorConfigOverride
abbrev NetworkConfigOverride := CollectorConfigOverride
abbrev DiskIoConfigOverride := CollectorConfigOverride
abbrev TcpConfigOverride := CollectorConfigOverride

/-- Partial override of pod discovery settings. -/
structure PodDiscoveryConfigOverride where
  criSocket : Option String := none

def PodDiscoveryConfigOverride.applyTo (o : PodDiscoveryConfigOverride)
    (discovery : PodDiscoveryConfig) : PodDiscoveryConfig where
  criSocket := o.criSocket.getD discovery.criSocket

/-- Host-level override: every field is optional. -/
structure HostConfigOverride where
  agent : AgentSettingsOverride := {}
  storage : StorageConfigOverride := {}
  memory : MemoryConfigOverride := {}
  cpu : CpuConfigOverride := {}
  network : NetworkConfigOverride := {}
  diskIo : DiskIoConfigOverride := {}
  podDiscovery : PodDiscoveryConfigOverride := {}
  tcp : TcpConfigOverride := {}

/-- The overrides are applied section by section. The version stays. -/
def HostConfigOverride.applyTo (o : HostConfigOverride) (runtime : AgentRuntimeConfig) :
    AgentRuntimeConfig where
  version := runtime.version
  agent := o.agent.applyTo runtime.agent
  storage := o.storage.applyTo runtime.storage
  memory := o.memory.applyTo runtime.memory
  cpu := o.cpu.applyTo runtime.cpu
  network := o.network.applyTo runtime.network
  diskIo := o.diskIo.applyTo runtime.diskIo
  podDiscovery := o.podDiscovery.applyTo runtime.podDiscovery
  tcp := o.tcp.applyTo runtime.tcp

end Talia
