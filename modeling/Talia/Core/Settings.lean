import Talia.Core.Layers
import Talia.Lib.JsonTree

/-!
# Configurations as trees

A configuration as a JSON tree holds its version, and one table for each section, with the section's
settings (`settingTree`). Its leaves need not decode. It decodes when each leaf decodes as the
setting it stands for, and then to the configuration of these settings
(`deserialize_settingTree`).
-/

namespace Talia

open Serde

/-! ## Sections -/

/-- The sections of a configuration. -/
inductive ConfigSection where
  | agent
  | storage
  | collector (collector : CollectorSection)
  | podDiscovery
  deriving DecidableEq

namespace ConfigSection

def name : ConfigSection → String
  | .agent => "agent"
  | .storage => "storage"
  | .collector .memory => "memory"
  | .collector .cpu => "cpu"
  | .collector .network => "network"
  | .collector .diskIo => "disk_io"
  | .collector .tcp => "tcp"
  | .podDiscovery => "pod_discovery"

/-- The settings of a section, in the order of their fields' names. -/
def settings : ConfigSection → List Setting
  | .agent => [.configPollIntervalSeconds, .heartbeatIntervalSeconds]
  | .storage => [.storageEnabled, .storageIntervalSeconds, .storageMounts]
  | .collector kind => [.enabled kind, .intervalSeconds kind]
  | .podDiscovery => [.criSocket]

/-- All sections, as a configuration declares them. -/
def all : List ConfigSection :=
  [.agent, .storage, .collector .memory, .collector .cpu, .collector .network,
    .collector .diskIo, .podDiscovery, .collector .tcp]

/-- Sections have different names. -/
theorem name_inj {s t : ConfigSection} (same : s.name = t.name) : s = t := by
  rcases s with _ | _ | (_ | _ | _ | _ | _) | _ <;>
    rcases t with _ | _ | (_ | _ | _ | _ | _) | _ <;>
      first | rfl | exact absurd same (by decide)

end ConfigSection

namespace Setting

/-- The section a setting is in. -/
def home : Setting → ConfigSection
  | .configPollIntervalSeconds => .agent
  | .heartbeatIntervalSeconds => .agent
  | .storageEnabled => .storage
  | .storageIntervalSeconds => .storage
  | .storageMounts => .storage
  | .enabled collector => .collector collector
  | .intervalSeconds collector => .collector collector
  | .criSocket => .podDiscovery

/-- The name of a setting in its section. -/
def field : Setting → String
  | .configPollIntervalSeconds => "config_poll_interval_seconds"
  | .heartbeatIntervalSeconds => "heartbeat_interval_seconds"
  | .storageEnabled => "enabled"
  | .storageIntervalSeconds => "interval_seconds"
  | .storageMounts => "mounts"
  | .enabled _ => "enabled"
  | .intervalSeconds _ => "interval_seconds"
  | .criSocket => "cri_socket"

/-- A setting is one of its section's. -/
theorem mem_settings (setting : Setting) : setting ∈ setting.home.settings := by
  cases setting <;> simp [home, ConfigSection.settings]

/-- A setting is known by its section and its name there. -/
theorem field_inj {s t : Setting} (home : s.home = t.home) (field : s.field = t.field) : s = t := by
  have first := s.mem_settings
  have second := t.mem_settings
  rw [home] at first
  generalize t.home = sec at first second
  cases sec <;>
    simp only [ConfigSection.settings, List.mem_cons, List.not_mem_nil, or_false] at first second
  case agent =>
    rcases first with rfl | rfl <;> rcases second with rfl | rfl <;>
      first | rfl | exact absurd field (by decide)
  case storage =>
    rcases first with rfl | rfl | rfl <;> rcases second with rfl | rfl | rfl <;>
      first | rfl | exact absurd field (by decide)
  case collector =>
    rcases first with rfl | rfl <;> rcases second with rfl | rfl <;>
      first | rfl | simp [Setting.field] at field
  case podDiscovery => rw [first, second]

/-- The settings of a section are at home there. -/
theorem home_of_mem {setting : Setting} {s : ConfigSection} (mem : setting ∈ s.settings) :
    setting.home = s := by
  cases s <;> simp only [ConfigSection.settings, List.mem_cons, List.not_mem_nil, or_false] at mem
  case agent | collector => rcases mem with rfl | rfl <;> rfl
  case storage => rcases mem with rfl | rfl | rfl <;> rfl
  case podDiscovery => rw [mem]; rfl

/-! ## Values -/

/-- What a value of a setting is as JSON. -/
def encode : (setting : Setting) → setting.Value → Content
  | .configPollIntervalSeconds, v => u64Content v
  | .heartbeatIntervalSeconds, v => u64Content v
  | .storageEnabled, v => .bool v
  | .storageIntervalSeconds, v => u64Content v
  | .storageMounts, v => .seq (v.map .str)
  | .enabled _, v => .bool v
  | .intervalSeconds _, v => u64Content v
  | .criSocket, v => .str v

def decode : (setting : Setting) → Content → Option setting.Value
  | .configPollIntervalSeconds => u64
  | .heartbeatIntervalSeconds => u64
  | .storageEnabled => bool
  | .storageIntervalSeconds => u64
  | .storageMounts => seqOf str
  | .enabled _ => bool
  | .intervalSeconds _ => u64
  | .criSocket => str

/-- **A value that is written is read back.** -/
theorem decode_encode (setting : Setting) (v : setting.Value) :
    setting.decode (setting.encode v) = some v := by
  cases setting with
  | storageEnabled | enabled | criSocket => rfl
  | storageMounts => exact seqOf_str v
  | _ => exact u64_int v

/-- Whether the text was made a tree first does not matter to a setting. -/
theorem decode_tree (setting : Setting) (c : Content) :
    setting.decode (Json.tree c) = setting.decode c := by
  cases setting with
  | storageEnabled | enabled => exact Json.bool_tree c
  | storageMounts => exact Json.seqOf_str_tree c
  | criSocket => exact Json.str_tree c
  | _ => exact Json.u64_tree c

/-- A value that is written is a tree already. -/
theorem tree_encode (setting : Setting) (v : setting.Value) :
    Json.tree (setting.encode v) = setting.encode v := by
  cases setting with
  | storageMounts =>
    show Content.seq (Json.treeItems (List.map Content.str v)) = _
    rw [Json.treeItems_eq, List.map_map]
    rfl
  | _ => rfl

/-- A table is no value of any setting. -/
theorem decode_map (setting : Setting) (entries : List (String × Content)) :
    setting.decode (.map entries) = none := by
  cases setting <;> rfl

/-- Only the setting that is a text decodes a text. -/
theorem decode_str {setting : Setting} (other : setting ≠ .criSocket) (text : String) :
    setting.decode (.str text) = none := by
  cases setting with
  | criSocket => exact absurd rfl other
  | _ => rfl

/-- So no value is written as a table. -/
theorem encode_ne_map (setting : Setting) (v : setting.Value) (entries : List (String × Content)) :
    setting.encode v ≠ .map entries := by
  intro same
  have decoded := setting.decode_encode v
  rw [same, decode_map] at decoded
  cases decoded

/-- Values are within the reader's limits. -/
theorem encode_fits (setting : Setting) (v : setting.Value) :
    Json.Fits Json.depthLimit (setting.encode v) := by
  cases setting with
  | storageEnabled | enabled => exact .bool v
  | criSocket => exact .str v
  | storageMounts =>
    refine .seq fun item mem => ?_
    obtain ⟨mount, -, rfl⟩ := List.mem_map.mp mem
    exact .str mount
  | _ => exact u64Content_fits v

end Setting

/-! ## Trees -/

section Tree

variable (leaf : Setting → Content) {format : Format}

/-- The table of a section. -/
def ConfigSection.table (s : ConfigSection) : Content :=
  .map (Json.table Setting.field leaf s.settings)

/-- A configuration as a tree, whatever its leaves are. -/
def settingTree (version : String) : Content :=
  .map (("version", .str version) ::
    Json.table ConfigSection.name (·.table leaf) ConfigSection.all)

/-- A configuration is written as the tree of its settings. -/
theorem serialize_eq_settingTree (config : AgentRuntimeConfig) :
    config.serialize =
      settingTree (fun setting => setting.encode (setting.value config)) config.version :=
  rfl

/-- The agent's section is read setting by setting. -/
theorem deserialize_agent {settings : AgentRuntimeSettings} :
    AgentRuntimeSettings.deserialize format (ConfigSection.agent.table leaf) = some settings ↔
      u64 (leaf .configPollIntervalSeconds) = some settings.configPollIntervalSeconds ∧
        u64 (leaf .heartbeatIntervalSeconds) = some settings.heartbeatIntervalSeconds := by
  show AgentRuntimeSettings.deserialize format (.map [_, _]) = some settings ↔ _
  rw [AgentRuntimeSettings.deserialize, entries_map, Option.bind_eq_bind, Option.bind_some,
    fieldOr_of_lookup rfl, fieldOr_of_lookup rfl]
  obtain ⟨poll, heartbeat⟩ := settings
  simp [Option.bind_eq_some_iff]

/-- So is storage, -/
theorem deserialize_storage {storage : StorageConfig} :
    StorageConfig.deserialize format (ConfigSection.storage.table leaf) = some storage ↔
      bool (leaf .storageEnabled) = some storage.enabled ∧
        u64 (leaf .storageIntervalSeconds) = some storage.intervalSeconds ∧
        seqOf str (leaf .storageMounts) = some storage.mounts := by
  show StorageConfig.deserialize format (.map [_, _, _]) = some storage ↔ _
  rw [StorageConfig.deserialize, entries_map, Option.bind_eq_bind, Option.bind_some,
    fieldOr_of_lookup rfl, fieldOr_of_lookup rfl, fieldOr_of_lookup rfl]
  obtain ⟨enabled, interval, mounts⟩ := storage
  cases enabled <;> simp [Option.bind_eq_some_iff]

/-- so are the collectors, -/
theorem deserialize_collector {enabledDefault : Bool} {intervalDefault : UInt64}
    {kind : CollectorSection} {collector : CollectorConfig} :
    CollectorConfig.deserialize enabledDefault intervalDefault format
        ((ConfigSection.collector kind).table leaf) = some collector ↔
      bool (leaf (.enabled kind)) = some collector.enabled ∧
        u64 (leaf (.intervalSeconds kind)) = some collector.intervalSeconds := by
  show CollectorConfig.deserialize _ _ format (.map [_, _]) = some collector ↔ _
  rw [CollectorConfig.deserialize, entries_map, Option.bind_eq_bind, Option.bind_some,
    fieldOr_of_lookup rfl, fieldOr_of_lookup rfl]
  obtain ⟨enabled, interval⟩ := collector
  simp [Option.bind_eq_some_iff]

/-- and so is pod discovery. -/
theorem deserialize_podDiscovery {discovery : PodDiscoveryConfig} :
    PodDiscoveryConfig.deserialize format (ConfigSection.podDiscovery.table leaf) = some discovery ↔
      str (leaf .criSocket) = some discovery.criSocket := by
  show PodDiscoveryConfig.deserialize format (.map [_]) = some discovery ↔ _
  rw [PodDiscoveryConfig.deserialize, entries_map, Option.bind_eq_bind, Option.bind_some,
    fieldOr_of_lookup rfl]
  obtain ⟨criSocket⟩ := discovery
  simp [Option.bind_eq_some_iff]

/-- **A tree decodes as its leaves do.** -/
theorem deserialize_settingTree {version : String} {config : AgentRuntimeConfig} :
    AgentRuntimeConfig.deserialize format (settingTree leaf version) = some config ↔
      config.version = version ∧
        ∀ setting : Setting, setting.decode (leaf setting) = some (setting.value config) := by
  show AgentRuntimeConfig.deserialize format (.map [_, _, _, _, _, _, _, _, _]) = some config ↔ _
  rw [AgentRuntimeConfig.deserialize, entries_map, Option.bind_eq_bind, Option.bind_some,
    fieldRequired_of_lookup rfl, str_str, fieldOr_of_lookup rfl, fieldOr_of_lookup rfl,
    fieldOr_of_lookup rfl, fieldOr_of_lookup rfl, fieldOr_of_lookup rfl, fieldOr_of_lookup rfl,
    fieldOr_of_lookup rfl, fieldOr_of_lookup rfl]
  obtain ⟨version', agent, storage, memory, cpu, network, diskIo, podDiscovery, tcp⟩ := config
  simp only [Option.bind_eq_bind, Option.bind_some, Option.bind_eq_some_iff, deserialize_agent,
    deserialize_storage, deserialize_collector, deserialize_podDiscovery, MemoryConfig.deserialize,
    CpuConfig.deserialize, NetworkConfig.deserialize, DiskIoConfig.deserialize,
    TcpConfig.deserialize, Option.some.injEq, AgentRuntimeConfig.mk.injEq]
  constructor
  · intro decoded
    obtain ⟨_, agentIs, _, storageIs, _, memoryIs, _, cpuIs, _, networkIs, _, diskIoIs, _,
      podDiscoveryIs, _, tcpIs, rfl, rfl, rfl, rfl, rfl, rfl, rfl, rfl, rfl⟩ := decoded
    refine ⟨rfl, fun setting => ?_⟩
    cases setting with
    | configPollIntervalSeconds => exact agentIs.1
    | heartbeatIntervalSeconds => exact agentIs.2
    | storageEnabled => exact storageIs.1
    | storageIntervalSeconds => exact storageIs.2.1
    | storageMounts => exact storageIs.2.2
    | enabled kind =>
      cases kind
      · exact memoryIs.1
      · exact cpuIs.1
      · exact networkIs.1
      · exact diskIoIs.1
      · exact tcpIs.1
    | intervalSeconds kind =>
      cases kind
      · exact memoryIs.2
      · exact cpuIs.2
      · exact networkIs.2
      · exact diskIoIs.2
      · exact tcpIs.2
    | criSocket => exact podDiscoveryIs
  · intro given
    obtain ⟨same, decodes⟩ := given
    have collector (kind : CollectorSection) := And.intro (decodes (.enabled kind))
      (decodes (.intervalSeconds kind))
    exact ⟨agent, ⟨decodes .configPollIntervalSeconds, decodes .heartbeatIntervalSeconds⟩,
      storage, ⟨decodes .storageEnabled, decodes .storageIntervalSeconds, decodes .storageMounts⟩,
      memory, collector .memory, cpu, collector .cpu, network, collector .network,
      diskIo, collector .diskIo, podDiscovery, decodes .criSocket, tcp, collector .tcp,
      same.symm, rfl, rfl, rfl, rfl, rfl, rfl, rfl, rfl⟩

/-! ## Access -/

/-- No section is named like the version. -/
theorem ConfigSection.name_ne_version (s : ConfigSection) : "version" ≠ s.name := by
  rcases s with _ | _ | (_ | _ | _ | _ | _) | _ <;> decide

/-- A section of the tree is found under its name. -/
theorem get?_name (version : String) (s : ConfigSection) :
    Json.get? s.name (settingTree leaf version) = some (s.table leaf) := by
  rcases s with _ | _ | (_ | _ | _ | _ | _) | _ <;> rfl

/-- What a section has under a name is the leaf of a setting. -/
theorem exists_of_get?_table {s : ConfigSection} {field : String} {c : Content}
    (found : Json.get? field (s.table leaf) = some c) :
    ∃ setting : Setting, setting.home = s ∧ setting.field = field ∧ c = leaf setting := by
  rw [ConfigSection.table, Json.get?_table, Option.map_eq_some_iff] at found
  obtain ⟨setting, found, rfl⟩ := found
  have named : setting.field = field := by simpa using List.find?_some found
  exact ⟨setting, Setting.home_of_mem (List.mem_of_find?_eq_some found), named, rfl⟩

/-- To put a value where a setting is spelled is to move that setting's leaf. -/
theorem put_field (setting : Setting) (c : Content) :
    Json.put setting.field c (setting.home.table leaf) =
      setting.home.table (Function.update leaf setting c) := by
  refine Json.put_table Setting.field leaf (fun other mem same => ?_) c
  exact Setting.field_inj (Setting.home_of_mem mem) same

/-- **Replacing a leaf** where it stands gives the tree with that leaf. -/
theorem put_setting (version : String) (setting : Setting) (c : Content) :
    Json.put setting.home.name (Json.put setting.field c (setting.home.table leaf))
        (settingTree leaf version) =
      settingTree (Function.update leaf setting c) version := by
  have others : Function.update (fun s : ConfigSection => s.table leaf) setting.home
      (setting.home.table (Function.update leaf setting c)) =
        fun s => s.table (Function.update leaf setting c) := by
    funext s
    by_cases own : s = setting.home
    · subst own
      rw [Function.update_self]
    · rw [Function.update_of_ne own]
      refine congrArg Content.map (List.map_congr_left fun other mem => ?_)
      have apart : other ≠ setting := by
        intro same
        rw [same] at mem
        exact own (Setting.home_of_mem mem).symm
      rw [Function.update_of_ne apart]
  rw [put_field]
  refine Json.put_cons_of_ne (ConfigSection.name_ne_version _) _ _ ?_
  rw [Json.put_table ConfigSection.name _ (fun _ _ same => ConfigSection.name_inj same), others]

end Tree

end Talia
