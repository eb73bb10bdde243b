import Talia.Core.Config
import Talia.Lib.JsonRoundTrip

/-!
# The encodings of the runtime configuration

What the derived serializer writes and the derived decoders read: the runtime configuration, the
agent's local bootstrap file, and the partial overrides of the control-plane file. A record's
fields are written in declaration order; a field is read under its name, the TCP section also
under the name it had before, or by its position where the record is given as a sequence.

A full section and the override of it have the same fields (`StorageConfig.names` and the like);
each field of the section has a default, and no field of the override has one.

`AgentRuntimeConfig.deserialize_serialize` is the round trip between the two halves.
-/

namespace Talia

open Serde

/-! ## Writing -/

/-- An unsigned number, as it is written. -/
def u64Content (n : UInt64) : Content := .int n.toNat

def AgentRuntimeSettings.serialize (settings : AgentRuntimeSettings) : Content :=
  .map [("config_poll_interval_seconds", u64Content settings.configPollIntervalSeconds),
    ("heartbeat_interval_seconds", u64Content settings.heartbeatIntervalSeconds)]

def StorageConfig.serialize (storage : StorageConfig) : Content :=
  .map [("enabled", .bool storage.enabled),
    ("interval_seconds", u64Content storage.intervalSeconds),
    ("mounts", .seq (storage.mounts.map .str))]

def CollectorConfig.serialize (collector : CollectorConfig) : Content :=
  .map [("enabled", .bool collector.enabled),
    ("interval_seconds", u64Content collector.intervalSeconds)]

def PodDiscoveryConfig.serialize (discovery : PodDiscoveryConfig) : Content :=
  .map [("cri_socket", .str discovery.criSocket)]

def AgentRuntimeConfig.serialize (config : AgentRuntimeConfig) : Content :=
  .map [("version", .str config.version),
    ("agent", config.agent.serialize),
    ("storage", config.storage.serialize),
    ("memory", config.memory.serialize),
    ("cpu", config.cpu.serialize),
    ("network", config.network.serialize),
    ("disk_io", config.diskIo.serialize),
    ("pod_discovery", config.podDiscovery.serialize),
    ("tcp", config.tcp.serialize)]

/-! ## Reading full sections -/

/-- The fields of the sections, in the order in which a list has them. -/
def AgentRuntimeSettings.names : List String :=
  ["config_poll_interval_seconds", "heartbeat_interval_seconds"]

def StorageConfig.names : List String := ["enabled", "interval_seconds", "mounts"]

def CollectorConfig.names : List String := ["enabled", "interval_seconds"]

def PodDiscoveryConfig.names : List String := ["cri_socket"]

/-- The sections of a configuration, in the order it declares them. -/
def sectionFields : List String :=
  ["agent", "storage", "memory", "cpu", "network", "disk_io", "pod_discovery", "tcp"]

/-- The sections are read off tables, or off lists where the format has them. A field that is left
out has its default. -/
def AgentRuntimeSettings.deserialize (format : Format) (c : Content) :
    Option AgentRuntimeSettings := do
  let es ← entries format names 0 c
  let poll ← fieldOr ["config_poll_interval_seconds"] u64 defaultConfigPollIntervalSeconds es
  let heartbeat ← fieldOr ["heartbeat_interval_seconds"] u64 defaultHeartbeatIntervalSeconds es
  some ⟨poll, heartbeat⟩

def StorageConfig.deserialize (format : Format) (c : Content) : Option StorageConfig := do
  let es ← entries format names 0 c
  let enabled ← fieldOr ["enabled"] bool defaultTrue es
  let interval ← fieldOr ["interval_seconds"] u64 defaultStorageIntervalSeconds es
  let mounts ← fieldOr ["mounts"] (seqOf str) defaultStorageMounts es
  some ⟨enabled, interval, mounts⟩

/-- A collector section, each field with the section's own default. -/
def CollectorConfig.deserialize (enabledDefault : Bool) (intervalDefault : UInt64)
    (format : Format) (c : Content) : Option CollectorConfig := do
  let es ← entries format names 0 c
  let enabled ← fieldOr ["enabled"] bool enabledDefault es
  let interval ← fieldOr ["interval_seconds"] u64 intervalDefault es
  some ⟨enabled, interval⟩

def MemoryConfig.deserialize : Format → Content → Option MemoryConfig :=
  CollectorConfig.deserialize defaultTrue defaultMemoryIntervalSeconds
def CpuConfig.deserialize : Format → Content → Option CpuConfig :=
  CollectorConfig.deserialize false defaultCpuIntervalSeconds
def NetworkConfig.deserialize : Format → Content → Option NetworkConfig :=
  CollectorConfig.deserialize false defaultNetworkIntervalSeconds
def DiskIoConfig.deserialize : Format → Content → Option DiskIoConfig :=
  CollectorConfig.deserialize false defaultDiskIoIntervalSeconds
def TcpConfig.deserialize : Format → Content → Option TcpConfig :=
  CollectorConfig.deserialize false defaultTcpIntervalSeconds

def PodDiscoveryConfig.deserialize (format : Format) (c : Content) :
    Option PodDiscoveryConfig := do
  let es ← entries format names 0 c
  let criSocket ← fieldOr ["cri_socket"] str defaultPodDiscoveryCriSocket es
  some ⟨criSocket⟩

/-- The names of the TCP section, the current one first. -/
def tcpNames : List String := ["tcp", "tcp_pod_retrans"]

/-- A configuration must have its version; a section that is left out has its defaults. -/
def AgentRuntimeConfig.deserialize (format : Format) (c : Content) :
    Option AgentRuntimeConfig := do
  let es ← entries format ("version" :: sectionFields) 1 c
  let version ← fieldRequired ["version"] str es
  let agent ←
    fieldOr ["agent"] (AgentRuntimeSettings.deserialize format) AgentRuntimeSettings.default es
  let storage ← fieldOr ["storage"] (StorageConfig.deserialize format) StorageConfig.default es
  let memory ← fieldOr ["memory"] (MemoryConfig.deserialize format) MemoryConfig.default es
  let cpu ← fieldOr ["cpu"] (CpuConfig.deserialize format) CpuConfig.default es
  let network ← fieldOr ["network"] (NetworkConfig.deserialize format) NetworkConfig.default es
  let diskIo ← fieldOr ["disk_io"] (DiskIoConfig.deserialize format) DiskIoConfig.default es
  let podDiscovery ←
    fieldOr ["pod_discovery"] (PodDiscoveryConfig.deserialize format) PodDiscoveryConfig.default es
  let tcp ← fieldOr tcpNames (TcpConfig.deserialize format) TcpConfig.default es
  some ⟨version, agent, storage, memory, cpu, network, diskIo, podDiscovery, tcp⟩

/-! ## The local bootstrap file -/

/-- Local configuration read by an agent at startup. -/
structure AgentBootstrapConfig where
  controlHttpUrl : String
  controlWsUrl : String
  allowInsecureControlUrl : Bool
  controlToken : Option String
  agentConfigToken : Option String
  otlpEndpoint : String
  stateDir : String
  agent : AgentRuntimeSettings
  storage : StorageConfig
  memory : MemoryConfig
  cpu : CpuConfig
  network : NetworkConfig
  diskIo : DiskIoConfig
  podDiscovery : PodDiscoveryConfig
  tcp : TcpConfig

def defaultControlHttpUrl : String := "http://127.0.0.1:3501"
def defaultControlWsUrl : String := "ws://127.0.0.1:3501/agent/control"
def defaultOtlpEndpoint : String := "http://127.0.0.1:4317"
def defaultStateDir : String := "/var/lib/talia"

/-- The bootstrap configuration of an agent that has no file. -/
def AgentBootstrapConfig.default : AgentBootstrapConfig where
  controlHttpUrl := defaultControlHttpUrl
  controlWsUrl := defaultControlWsUrl
  allowInsecureControlUrl := false
  controlToken := none
  agentConfigToken := none
  otlpEndpoint := defaultOtlpEndpoint
  stateDir := defaultStateDir
  agent := AgentRuntimeSettings.default
  storage := StorageConfig.default
  memory := MemoryConfig.default
  cpu := CpuConfig.default
  network := NetworkConfig.default
  diskIo := DiskIoConfig.default
  podDiscovery := PodDiscoveryConfig.default
  tcp := TcpConfig.default

/-- The fields of the file before its sections. -/
def AgentBootstrapConfig.names : List String :=
  ["control_http_url", "control_ws_url", "allow_insecure_control_url", "control_token",
    "agent_config_token", "otlp_endpoint", "state_dir"]

/-- The bootstrap file may leave out anything. -/
def AgentBootstrapConfig.deserialize (format : Format) (c : Content) :
    Option AgentBootstrapConfig := do
  let es ← entries format (names ++ sectionFields) 0 c
  let controlHttpUrl ← fieldOr ["control_http_url"] str defaultControlHttpUrl es
  let controlWsUrl ← fieldOr ["control_ws_url"] str defaultControlWsUrl es
  let allowInsecureControlUrl ← fieldOr ["allow_insecure_control_url"] bool false es
  let controlToken ← fieldOption ["control_token"] str es
  let agentConfigToken ← fieldOption ["agent_config_token"] str es
  let otlpEndpoint ← fieldOr ["otlp_endpoint"] str defaultOtlpEndpoint es
  let stateDir ← fieldOr ["state_dir"] str defaultStateDir es
  let agent ←
    fieldOr ["agent"] (AgentRuntimeSettings.deserialize format) AgentRuntimeSettings.default es
  let storage ← fieldOr ["storage"] (StorageConfig.deserialize format) StorageConfig.default es
  let memory ← fieldOr ["memory"] (MemoryConfig.deserialize format) MemoryConfig.default es
  let cpu ← fieldOr ["cpu"] (CpuConfig.deserialize format) CpuConfig.default es
  let network ← fieldOr ["network"] (NetworkConfig.deserialize format) NetworkConfig.default es
  let diskIo ← fieldOr ["disk_io"] (DiskIoConfig.deserialize format) DiskIoConfig.default es
  let podDiscovery ←
    fieldOr ["pod_discovery"] (PodDiscoveryConfig.deserialize format) PodDiscoveryConfig.default es
  let tcp ← fieldOr tcpNames (TcpConfig.deserialize format) TcpConfig.default es
  some ⟨controlHttpUrl, controlWsUrl, allowInsecureControlUrl, controlToken, agentConfigToken,
    otlpEndpoint, stateDir, agent, storage, memory, cpu, network, diskIo, podDiscovery, tcp⟩

/-- The runtime configuration used before, or without, one from the control plane. -/
def AgentBootstrapConfig.fallbackRuntimeConfig (bootstrap : AgentBootstrapConfig) :
    AgentRuntimeConfig where
  version := localConfigVersion
  agent := bootstrap.agent
  storage := bootstrap.storage
  memory := bootstrap.memory
  cpu := bootstrap.cpu
  network := bootstrap.network
  diskIo := bootstrap.diskIo
  podDiscovery := bootstrap.podDiscovery
  tcp := bootstrap.tcp

/-! ## Reading overrides -/

/-- An override has the fields of its section, each of which may be left out of a table. A list has
them all. -/
def AgentSettingsOverride.deserialize (format : Format) (c : Content) :
    Option AgentSettingsOverride := do
  let es ← entries format AgentRuntimeSettings.names AgentRuntimeSettings.names.length c
  let poll ← fieldOption ["config_poll_interval_seconds"] u64 es
  let heartbeat ← fieldOption ["heartbeat_interval_seconds"] u64 es
  some ⟨poll, heartbeat⟩

def StorageConfigOverride.deserialize (format : Format) (c : Content) :
    Option StorageConfigOverride := do
  let es ← entries format StorageConfig.names StorageConfig.names.length c
  let enabled ← fieldOption ["enabled"] bool es
  let interval ← fieldOption ["interval_seconds"] u64 es
  let mounts ← fieldOption ["mounts"] (seqOf str) es
  some ⟨enabled, interval, mounts⟩

def CollectorConfigOverride.deserialize (format : Format) (c : Content) :
    Option CollectorConfigOverride := do
  let es ← entries format CollectorConfig.names CollectorConfig.names.length c
  let enabled ← fieldOption ["enabled"] bool es
  let interval ← fieldOption ["interval_seconds"] u64 es
  some ⟨enabled, interval⟩

def PodDiscoveryConfigOverride.deserialize (format : Format) (c : Content) :
    Option PodDiscoveryConfigOverride := do
  let es ← entries format PodDiscoveryConfig.names PodDiscoveryConfig.names.length c
  let criSocket ← fieldOption ["cri_socket"] str es
  some ⟨criSocket⟩

/-- A host's overrides are by section. -/
def HostConfigOverride.deserialize (format : Format) (c : Content) :
    Option HostConfigOverride := do
  let es ← entries format sectionFields 0 c
  let agent ← fieldOr ["agent"] (AgentSettingsOverride.deserialize format) {} es
  let storage ← fieldOr ["storage"] (StorageConfigOverride.deserialize format) {} es
  let memory ← fieldOr ["memory"] (CollectorConfigOverride.deserialize format) {} es
  let cpu ← fieldOr ["cpu"] (CollectorConfigOverride.deserialize format) {} es
  let network ← fieldOr ["network"] (CollectorConfigOverride.deserialize format) {} es
  let diskIo ← fieldOr ["disk_io"] (CollectorConfigOverride.deserialize format) {} es
  let podDiscovery ←
    fieldOr ["pod_discovery"] (PodDiscoveryConfigOverride.deserialize format) {} es
  let tcp ← fieldOr tcpNames (CollectorConfigOverride.deserialize format) {} es
  some ⟨agent, storage, memory, cpu, network, diskIo, podDiscovery, tcp⟩

/-! ## The round trip -/

/-- A number is read back. -/
theorem u64_u64Content (n : UInt64) : u64 (u64Content n) = some n := u64_int n

/-- The agent's section is read back. -/
theorem AgentRuntimeSettings.deserialize_serialize (format : Format)
    (settings : AgentRuntimeSettings) :
    deserialize format settings.serialize = some settings := by
  rw [deserialize, serialize, entries_map, Option.bind_eq_bind, Option.bind_some,
    fieldOr_of_lookup rfl, fieldOr_of_lookup rfl, u64_u64Content, u64_u64Content]
  rfl

/-- So is storage, -/
theorem StorageConfig.deserialize_serialize (format : Format) (storage : StorageConfig) :
    deserialize format storage.serialize = some storage := by
  rw [deserialize, serialize, entries_map, Option.bind_eq_bind, Option.bind_some,
    fieldOr_of_lookup rfl, fieldOr_of_lookup rfl, fieldOr_of_lookup rfl, bool_bool,
    u64_u64Content, seqOf_str]
  rfl

/-- so is a collector, whatever its defaults, -/
theorem CollectorConfig.deserialize_serialize (enabledDefault : Bool) (intervalDefault : UInt64)
    (format : Format) (collector : CollectorConfig) :
    deserialize enabledDefault intervalDefault format collector.serialize = some collector := by
  rw [deserialize, serialize, entries_map, Option.bind_eq_bind, Option.bind_some,
    fieldOr_of_lookup rfl, fieldOr_of_lookup rfl, bool_bool, u64_u64Content]
  rfl

/-- and so is pod discovery. -/
theorem PodDiscoveryConfig.deserialize_serialize (format : Format)
    (discovery : PodDiscoveryConfig) : deserialize format discovery.serialize = some discovery := by
  rw [deserialize, serialize, entries_map, Option.bind_eq_bind, Option.bind_some,
    fieldOr_of_lookup rfl, str_str]
  rfl

/-- What is written reads back as it was. -/
theorem AgentRuntimeConfig.deserialize_serialize (format : Format) (config : AgentRuntimeConfig) :
    deserialize format config.serialize = some config := by
  rw [deserialize, serialize, entries_map, Option.bind_eq_bind, Option.bind_some,
    fieldRequired_of_lookup rfl, str_str, fieldOr_of_lookup rfl, fieldOr_of_lookup rfl,
    fieldOr_of_lookup rfl, fieldOr_of_lookup rfl, fieldOr_of_lookup rfl, fieldOr_of_lookup rfl,
    fieldOr_of_lookup rfl, fieldOr_of_lookup rfl, AgentRuntimeSettings.deserialize_serialize,
    StorageConfig.deserialize_serialize, MemoryConfig.deserialize,
    CollectorConfig.deserialize_serialize, CpuConfig.deserialize,
    CollectorConfig.deserialize_serialize, NetworkConfig.deserialize,
    CollectorConfig.deserialize_serialize, DiskIoConfig.deserialize,
    CollectorConfig.deserialize_serialize, PodDiscoveryConfig.deserialize_serialize,
    TcpConfig.deserialize, CollectorConfig.deserialize_serialize]
  rfl

/-! ## What is written is in the domain of the JSON round trip -/

section Fits

open Json

variable {depth : Nat}

/-- A number is within the reader's limits. -/
theorem u64Content_fits (n : UInt64) : Fits depth (u64Content n) := by
  have high : (n.toNat : Int) < 2 ^ 64 := by exact_mod_cast n.toNat_lt
  exact .int (by omega) high

/-- So is the agent's section, -/
theorem AgentRuntimeSettings.serialize_fits (settings : AgentRuntimeSettings) :
    Fits (depth + 1) settings.serialize := by
  refine .map fun entry h => ?_
  simp only [List.mem_cons, List.not_mem_nil, or_false] at h
  rcases h with rfl | rfl
  · exact u64Content_fits _
  · exact u64Content_fits _

/-- storage with its list, -/
theorem StorageConfig.serialize_fits (storage : StorageConfig) :
    Fits (depth + 2) storage.serialize := by
  refine .map fun entry h => ?_
  simp only [List.mem_cons, List.not_mem_nil, or_false] at h
  rcases h with rfl | rfl | rfl
  · exact .bool _
  · exact u64Content_fits _
  · refine .seq fun item h => ?_
    obtain ⟨mount, -, rfl⟩ := List.mem_map.mp h
    exact .str mount

/-- a collector, -/
theorem CollectorConfig.serialize_fits (collector : CollectorConfig) :
    Fits (depth + 1) collector.serialize := by
  refine .map fun entry h => ?_
  simp only [List.mem_cons, List.not_mem_nil, or_false] at h
  rcases h with rfl | rfl
  · exact .bool _
  · exact u64Content_fits _

/-- pod discovery, -/
theorem PodDiscoveryConfig.serialize_fits (discovery : PodDiscoveryConfig) :
    Fits (depth + 1) discovery.serialize := by
  refine .map fun entry h => ?_
  rw [List.mem_singleton] at h
  subst h
  exact .str _

/-- and with them the whole configuration. -/
theorem AgentRuntimeConfig.serialize_fits (config : AgentRuntimeConfig) :
    Fits depthLimit config.serialize := by
  refine .map fun entry h => ?_
  simp only [List.mem_cons, List.not_mem_nil, or_false] at h
  rcases h with rfl | rfl | rfl | rfl | rfl | rfl | rfl | rfl | rfl
  · exact .str _
  · exact AgentRuntimeSettings.serialize_fits _
  · exact StorageConfig.serialize_fits _
  · exact CollectorConfig.serialize_fits _
  · exact CollectorConfig.serialize_fits _
  · exact CollectorConfig.serialize_fits _
  · exact CollectorConfig.serialize_fits _
  · exact PodDiscoveryConfig.serialize_fits _
  · exact CollectorConfig.serialize_fits _

end Fits

end Talia
