import Talia.Core.ControlConfig

/-!
# Layered settings

What a hostname resolves to is decided setting by setting: the host's override, else the file's
default, else the built-in one. `Setting` names the settings, whatever section they are in;
`effective` is the value a setting has for a host, read off the three layers, and `layered` the
configuration made of these values.

`resolve_eq_layered` says that the overrides, which are applied a section at a time, come to that.
So a resolution reads nothing of the file but the effective settings (`layered_resolution`), and an
edit that leaves them alone leaves the resolution alone, the version included.
-/

namespace Talia

/-! ## Settings -/

/-- The sections with a switch and an interval. -/
inductive CollectorSection where
  | memory
  | cpu
  | network
  | diskIo
  | tcp
  deriving DecidableEq

inductive Setting where
  | configPollIntervalSeconds
  | heartbeatIntervalSeconds
  | storageEnabled
  | storageIntervalSeconds
  | storageMounts
  | enabled (collector : CollectorSection)
  | intervalSeconds (collector : CollectorSection)
  | criSocket
  deriving DecidableEq

namespace CollectorSection

def override : CollectorSection → HostConfigOverride → CollectorConfigOverride
  | .memory => HostConfigOverride.memory
  | .cpu => HostConfigOverride.cpu
  | .network => HostConfigOverride.network
  | .diskIo => HostConfigOverride.diskIo
  | .tcp => HostConfigOverride.tcp

def assign (o : HostConfigOverride) (section' : CollectorConfigOverride) :
    CollectorSection → HostConfigOverride
  | .memory => { o with memory := section' }
  | .cpu => { o with cpu := section' }
  | .network => { o with network := section' }
  | .diskIo => { o with diskIo := section' }
  | .tcp => { o with tcp := section' }

def config : CollectorSection → AgentRuntimeConfig → CollectorConfig
  | .memory => AgentRuntimeConfig.memory
  | .cpu => AgentRuntimeConfig.cpu
  | .network => AgentRuntimeConfig.network
  | .diskIo => AgentRuntimeConfig.diskIo
  | .tcp => AgentRuntimeConfig.tcp

end CollectorSection

namespace Setting

abbrev Value : Setting → Type
  | .configPollIntervalSeconds => UInt64
  | .heartbeatIntervalSeconds => UInt64
  | .storageEnabled => Bool
  | .storageIntervalSeconds => UInt64
  | .storageMounts => List String
  | .enabled _ => Bool
  | .intervalSeconds _ => UInt64
  | .criSocket => String

/-- What a layer says of a setting. -/
def override : (setting : Setting) → HostConfigOverride → Option setting.Value
  | .configPollIntervalSeconds, o => o.agent.configPollIntervalSeconds
  | .heartbeatIntervalSeconds, o => o.agent.heartbeatIntervalSeconds
  | .storageEnabled, o => o.storage.enabled
  | .storageIntervalSeconds, o => o.storage.intervalSeconds
  | .storageMounts, o => o.storage.mounts
  | .enabled collector, o => (collector.override o).enabled
  | .intervalSeconds collector, o => (collector.override o).intervalSeconds
  | .criSocket, o => o.podDiscovery.criSocket

/-- The layer with something else to say of a setting. -/
def assign : (setting : Setting) → Option setting.Value → HostConfigOverride → HostConfigOverride
  | .configPollIntervalSeconds, v, o => { o with agent.configPollIntervalSeconds := v }
  | .heartbeatIntervalSeconds, v, o => { o with agent.heartbeatIntervalSeconds := v }
  | .storageEnabled, v, o => { o with storage.enabled := v }
  | .storageIntervalSeconds, v, o => { o with storage.intervalSeconds := v }
  | .storageMounts, v, o => { o with storage.mounts := v }
  | .enabled collector, v, o => collector.assign o { collector.override o with enabled := v }
  | .intervalSeconds collector, v, o =>
    collector.assign o { collector.override o with intervalSeconds := v }
  | .criSocket, v, o => { o with podDiscovery.criSocket := v }

/-- The value of a setting in a configuration. -/
def value : (setting : Setting) → AgentRuntimeConfig → setting.Value
  | .configPollIntervalSeconds, runtime => runtime.agent.configPollIntervalSeconds
  | .heartbeatIntervalSeconds, runtime => runtime.agent.heartbeatIntervalSeconds
  | .storageEnabled, runtime => runtime.storage.enabled
  | .storageIntervalSeconds, runtime => runtime.storage.intervalSeconds
  | .storageMounts, runtime => runtime.storage.mounts
  | .enabled collector, runtime => (collector.config runtime).enabled
  | .intervalSeconds collector, runtime => (collector.config runtime).intervalSeconds
  | .criSocket, runtime => runtime.podDiscovery.criSocket

/-- What is assigned overrides, -/
theorem override_assign_self (setting : Setting) (v : Option setting.Value)
    (o : HostConfigOverride) : setting.override (setting.assign v o) = v := by
  cases setting with
  | enabled collector => cases collector <;> rfl
  | intervalSeconds collector => cases collector <;> rfl
  | _ => rfl

/-- and nothing else does otherwise than before. -/
theorem override_assign_of_ne {setting other : Setting} (apart : other ≠ setting)
    (v : Option setting.Value) (o : HostConfigOverride) :
    other.override (setting.assign v o) = other.override o := by
  cases setting with
  | enabled collector =>
    cases other with
    | enabled collector' => cases collector <;> cases collector' <;> first | rfl | cases apart rfl
    | intervalSeconds collector' => cases collector <;> cases collector' <;> rfl
    | _ => cases collector <;> rfl
  | intervalSeconds collector =>
    cases other with
    | enabled collector' => cases collector <;> cases collector' <;> rfl
    | intervalSeconds collector' =>
      cases collector <;> cases collector' <;> first | rfl | cases apart rfl
    | _ => cases collector <;> rfl
  | _ =>
    cases other with
    | enabled collector' => cases collector' <;> rfl
    | intervalSeconds collector' => cases collector' <;> rfl
    | _ => first | rfl | cases apart rfl

/-- A setting of a configuration with overrides applied. -/
theorem value_applyTo (setting : Setting) (o : HostConfigOverride)
    (runtime : AgentRuntimeConfig) :
    setting.value (o.applyTo runtime) = (setting.override o).getD (setting.value runtime) := by
  cases setting with
  | enabled collector => cases collector <;> rfl
  | intervalSeconds collector => cases collector <;> rfl
  | _ => rfl

/-- The version is no setting. -/
theorem value_withVersion (setting : Setting) (runtime : AgentRuntimeConfig) (version : String) :
    setting.value (runtime.withVersion version) = setting.value runtime := by
  cases setting with
  | enabled collector => cases collector <;> rfl
  | intervalSeconds collector => cases collector <;> rfl
  | _ => rfl

/-- A configuration is its version and its settings. -/
theorem ext_value {runtime runtime' : AgentRuntimeConfig}
    (version : runtime.version = runtime'.version)
    (same : ∀ setting : Setting, setting.value runtime = setting.value runtime') :
    runtime = runtime' := by
  have section' (collector : CollectorSection) : collector.config runtime = collector.config runtime' := by
    have enabled : (collector.config runtime).enabled = (collector.config runtime').enabled :=
      same (.enabled collector)
    have interval : (collector.config runtime).intervalSeconds =
        (collector.config runtime').intervalSeconds := same (.intervalSeconds collector)
    cases h : collector.config runtime
    cases h' : collector.config runtime'
    rw [h, h'] at enabled interval
    cases enabled
    cases interval
    rfl
  obtain ⟨v, ⟨poll, heartbeat⟩, ⟨enabled, interval, mounts⟩, memory, cpu, network, diskIo, ⟨cri⟩, tcp⟩ :=
    runtime
  obtain ⟨v', ⟨poll', heartbeat'⟩, ⟨enabled', interval', mounts'⟩, memory', cpu', network', diskIo',
    ⟨cri'⟩, tcp'⟩ := runtime'
  cases (version : v = v')
  cases (same .configPollIntervalSeconds : poll = poll')
  cases (same .heartbeatIntervalSeconds : heartbeat = heartbeat')
  cases (same .storageEnabled : enabled = enabled')
  cases (same .storageIntervalSeconds : interval = interval')
  cases (same .storageMounts : mounts = mounts')
  cases (same .criSocket : cri = cri')
  cases (section' .memory : memory = memory')
  cases (section' .cpu : cpu = cpu')
  cases (section' .network : network = network')
  cases (section' .diskIo : diskIo = diskIo')
  cases (section' .tcp : tcp = tcp')
  rfl

end Setting

/-! ## The effective settings of a host -/

namespace ControlConfigFile

variable (file : ControlConfigFile) (hostname : String)

/-- The value of a setting for a host: its own override, else the default, else the built-in
value. -/
def effective (setting : Setting) : setting.Value :=
  ((file.hosts[hostname]?.bind setting.override).or (setting.override file.defaults)).getD
    (setting.value .default)

/-- The configuration made of values for all settings. -/
def ofSettings (values : (setting : Setting) → setting.Value) : AgentRuntimeConfig where
  version := localConfigVersion
  agent := ⟨values .configPollIntervalSeconds, values .heartbeatIntervalSeconds⟩
  storage := ⟨values .storageEnabled, values .storageIntervalSeconds, values .storageMounts⟩
  memory := ⟨values (.enabled .memory), values (.intervalSeconds .memory)⟩
  cpu := ⟨values (.enabled .cpu), values (.intervalSeconds .cpu)⟩
  network := ⟨values (.enabled .network), values (.intervalSeconds .network)⟩
  diskIo := ⟨values (.enabled .diskIo), values (.intervalSeconds .diskIo)⟩
  podDiscovery := ⟨values .criSocket⟩
  tcp := ⟨values (.enabled .tcp), values (.intervalSeconds .tcp)⟩

/-- A configuration can be made with any settings. -/
theorem value_ofSettings (values : (setting : Setting) → setting.Value) (setting : Setting) :
    setting.value (ofSettings values) = values setting := by
  cases setting with
  | enabled collector => cases collector <;> rfl
  | intervalSeconds collector => cases collector <;> rfl
  | _ => rfl

/-- **Resolution is layered setting by setting.** -/
theorem resolve_eq_ofSettings :
    file.resolve hostname = ofSettings (file.effective hostname) := by
  refine Setting.ext_value ?_ fun setting => ?_
  · rw [resolve]
    cases file.hosts[hostname]? <;> rfl
  · rw [value_ofSettings, effective, resolve]
    cases file.hosts[hostname]? with
    | none =>
      rw [Setting.value_applyTo]
      rfl
    | some host =>
      rw [Setting.value_applyTo, Setting.value_applyTo, Option.bind_some]
      cases setting.override host <;> rfl

/-- Hosts resolve alike where their effective settings are the same. -/
theorem runtimeConfigFor_of_effective {file file' : ControlConfigFile} {hostname : String}
    (same : ∀ setting, file.effective hostname setting = file'.effective hostname setting) :
    file.runtimeConfigFor hostname = file'.runtimeConfigFor hostname := by
  have settings : file.effective hostname = file'.effective hostname := funext same
  rw [runtimeConfigFor_eq, runtimeConfigFor_eq, resolve_eq_ofSettings, resolve_eq_ofSettings,
    settings]

/-! ## Edits -/

/-- The overrides of a host, none if it has no entry. -/
def hostOverride : HostConfigOverride := file.hosts[hostname]?.getD {}

/-- A host's override is what the file has for it, or nothing. -/
theorem override_hostOverride (setting : Setting) :
    setting.override (file.hostOverride hostname) =
      file.hosts[hostname]?.bind setting.override := by
  rw [hostOverride]
  cases file.hosts[hostname]? with
  | some host => rfl
  | none =>
    cases setting with
    | enabled collector => cases collector <;> rfl
    | intervalSeconds collector => cases collector <;> rfl
    | _ => rfl

/-- A host is given another value for a setting. -/
def assignHost (setting : Setting) (v : Option setting.Value) : ControlConfigFile :=
  { file with hosts := file.hosts.insert hostname (setting.assign v (file.hostOverride hostname)) }

/-- A setting is moved from the defaults to a host, where it stays behind what the host has. -/
def moveToHost (setting : Setting) : ControlConfigFile :=
  { file.assignHost hostname setting
      ((file.hosts[hostname]?.bind setting.override).or (setting.override file.defaults)) with
    defaults := setting.assign none file.defaults }

/-- To assign a setting for a host changes its override there only. -/
theorem effective_assignHost (setting : Setting) (v : Option setting.Value) (other : Setting) :
    (file.assignHost hostname setting v).hosts[hostname]?.bind other.override =
      other.override (setting.assign v (file.hostOverride hostname)) := by
  rw [assignHost, BTreeMap.get_insert, if_pos rfl]
  rfl

/-- Moving a setting from the defaults to the host changes no effective setting of it. -/
theorem effective_moveToHost (setting other : Setting) :
    (file.moveToHost hostname setting).effective hostname other =
      file.effective hostname other := by
  have host := file.effective_assignHost hostname setting
    ((file.hosts[hostname]?.bind setting.override).or (setting.override file.defaults)) other
  rw [effective, effective]
  dsimp only [moveToHost]
  rw [host]
  by_cases same : other = setting
  · subst same
    rw [Setting.override_assign_self, Setting.override_assign_self, Option.or_none]
  · rw [Setting.override_assign_of_ne same, Setting.override_assign_of_ne same,
      override_hostOverride]

/-- Nor does overriding one for the host by the value it has. -/
theorem effective_redundant (setting other : Setting) :
    (file.assignHost hostname setting (some (file.effective hostname setting))).effective hostname
      other = file.effective hostname other := by
  have host := file.effective_assignHost hostname setting
    (some (file.effective hostname setting)) other
  rw [effective, host]
  by_cases same : other = setting
  · subst same
    rw [Setting.override_assign_self]
    rfl
  · rw [Setting.override_assign_of_ne same, override_hostOverride]
    rfl

/-- **Layered resolution.** What a host resolves to has for every setting the host's override, else
the default, else the built-in value; it depends on the hostname and on these values only, so
moving a setting from the defaults to the host, overriding one redundantly and editing other hosts
or enrollments leave it as it is, version included; and it fails exactly when these values do not
pass validation. -/
theorem layered_resolution :
    (∀ runtime, file.runtimeConfigFor hostname = .ok runtime →
      (∀ setting, setting.value runtime = file.effective hostname setting) ∧
        runtime.version = effectiveConfigVersion hostname (ofSettings (file.effective hostname))) ∧
    (∀ file' : ControlConfigFile,
      (∀ setting, file'.effective hostname setting = file.effective hostname setting) →
        file'.runtimeConfigFor hostname = file.runtimeConfigFor hostname) ∧
    (∀ setting, (file.moveToHost hostname setting).runtimeConfigFor hostname =
      file.runtimeConfigFor hostname) ∧
    (∀ setting, (file.assignHost hostname setting
        (some (file.effective hostname setting))).runtimeConfigFor hostname =
      file.runtimeConfigFor hostname) ∧
    (∀ file' : ControlConfigFile, file'.defaults = file.defaults →
      file'.hosts[hostname]? = file.hosts[hostname]? →
        file'.runtimeConfigFor hostname = file.runtimeConfigFor hostname) ∧
    ((∃ error, file.runtimeConfigFor hostname = .error error) ↔
      (ofSettings (file.effective hostname)).validateSections ≠ .ok ()) := by
  refine ⟨?_, ?_, ?_, ?_, ?_, ?_⟩
  · intro runtime resolved
    have same := eq_of_runtimeConfigFor resolved
    rw [resolve_eq_ofSettings] at same
    subst same
    refine ⟨fun setting => ?_, rfl⟩
    rw [Setting.value_withVersion, value_ofSettings]
  · exact fun file' same => runtimeConfigFor_of_effective same
  · exact fun setting => runtimeConfigFor_of_effective (file.effective_moveToHost hostname setting)
  · exact fun setting => runtimeConfigFor_of_effective (file.effective_redundant hostname setting)
  · exact fun file' defaults host => runtimeConfigFor_congr defaults host
  · rw [runtimeConfigFor_eq, resolve_eq_ofSettings]
    cases (ofSettings (file.effective hostname)).validateSections with
    | ok u => exact ⟨fun ⟨_, h⟩ => (nomatch h), fun h => absurd rfl h⟩
    | error e => exact ⟨fun _ h => (nomatch h), fun _ => ⟨e, rfl⟩⟩

end ControlConfigFile

end Talia
