import Talia.Core.ControlConfig
import Talia.Lib.Toml

/-!
# Local and control-plane resolution agree

The same sections can reach an agent three ways: from its local file, as defaults of the
control-plane file, and inside a runtime configuration. Each way has its own encoding of the
defaults: a default for every field, `Default` of every section, optional overrides applied over
`Default`.

All three read the sections the way `sectionsAs` does (`applyTo_deserialize`,
`fallback_deserialize`, `deserialize_version`): a section at a time, with the defaults of the
section's own fields. One lemma per section shape says that an override decoded and applied over
the section's default is the section decoded.

A section may be an array, which gives its values by position. There the ways come apart: the
fields of a section have defaults and those of its override have none, so an array that stops
short of the last field is a section and no override (`SectionTable.Complete`).

It is not shown that the text of one file can serve as the other: what reaches the decoders here
is one table, read by one format.
-/

namespace Talia

open Serde

/-! ## Sections -/

section Sections

variable {format : Format} {value : Toml.Value}

/-- The agent's section as an override of the defaults is the section, unless it is a list too
short. -/
theorem AgentSettingsOverride.applyTo_deserialize
    (whole : ¬ Short AgentRuntimeSettings.names value.content) :
    (AgentSettingsOverride.deserialize format value.content).map
        (·.applyTo AgentRuntimeSettings.default) =
      AgentRuntimeSettings.deserialize format value.content := by
  rw [deserialize, AgentRuntimeSettings.deserialize, entries_of_not_short whole]
  cases read : entries format AgentRuntimeSettings.names 0 value.content with
  | none => rfl
  | some es =>
    simp only [Option.bind_eq_bind, Option.bind_some,
      ← fieldOption_map_getD _ _ (Toml.Value.entries_ne_unit read)]
    cases fieldOption ["config_poll_interval_seconds"] u64 es <;>
      cases fieldOption ["heartbeat_interval_seconds"] u64 es <;> rfl

/-- So is storage, -/
theorem StorageConfigOverride.applyTo_deserialize
    (whole : ¬ Short StorageConfig.names value.content) :
    (StorageConfigOverride.deserialize format value.content).map
        (·.applyTo StorageConfig.default) =
      StorageConfig.deserialize format value.content := by
  rw [deserialize, StorageConfig.deserialize, entries_of_not_short whole]
  cases read : entries format StorageConfig.names 0 value.content with
  | none => rfl
  | some es =>
    simp only [Option.bind_eq_bind, Option.bind_some,
      ← fieldOption_map_getD _ _ (Toml.Value.entries_ne_unit read)]
    cases fieldOption ["enabled"] bool es <;> cases fieldOption ["interval_seconds"] u64 es <;>
      cases fieldOption ["mounts"] (seqOf str) es <;> rfl

/-- so is a collector, whatever its defaults, -/
theorem CollectorConfigOverride.applyTo_deserialize (enabledDefault : Bool)
    (intervalDefault : UInt64) (whole : ¬ Short CollectorConfig.names value.content) :
    (CollectorConfigOverride.deserialize format value.content).map
        (·.applyTo ⟨enabledDefault, intervalDefault⟩) =
      CollectorConfig.deserialize enabledDefault intervalDefault format value.content := by
  rw [deserialize, CollectorConfig.deserialize, entries_of_not_short whole]
  cases read : entries format CollectorConfig.names 0 value.content with
  | none => rfl
  | some es =>
    simp only [Option.bind_eq_bind, Option.bind_some,
      ← fieldOption_map_getD _ _ (Toml.Value.entries_ne_unit read)]
    cases fieldOption ["enabled"] bool es <;> cases fieldOption ["interval_seconds"] u64 es <;> rfl

/-- and so is pod discovery. -/
theorem PodDiscoveryConfigOverride.applyTo_deserialize
    (whole : ¬ Short PodDiscoveryConfig.names value.content) :
    (PodDiscoveryConfigOverride.deserialize format value.content).map
        (·.applyTo PodDiscoveryConfig.default) =
      PodDiscoveryConfig.deserialize format value.content := by
  rw [deserialize, PodDiscoveryConfig.deserialize, entries_of_not_short whole]
  cases read : entries format PodDiscoveryConfig.names 0 value.content with
  | none => rfl
  | some es =>
    simp only [Option.bind_eq_bind, Option.bind_some,
      ← fieldOption_map_getD _ _ (Toml.Value.entries_ne_unit read)]
    cases fieldOption ["cri_socket"] str es <;> rfl

end Sections

/-! ## Tables of sections -/

/-- The keys a table of sections may have. -/
def sectionNames : List String := sectionFields ++ ["tcp_pod_retrans"]

/-- The fields of a section. -/
def fieldsOf (name : String) : List String :=
  if name = "agent" then AgentRuntimeSettings.names
  else if name = "storage" then StorageConfig.names
  else if name = "pod_discovery" then PodDiscoveryConfig.names
  else CollectorConfig.names

/-- A TOML table whose keys are sections, with any values. -/
structure SectionTable where
  sections : List (String × Toml.Value)
  named : ∀ s ∈ sections, s.1 ∈ sectionNames

/-- The entries a decoder sees. -/
def SectionTable.entries (t : SectionTable) : List (String × Content) :=
  t.sections.map fun s => (s.1, s.2.content)

/-- No section is an array of fewer values than the section has fields. -/
def SectionTable.Complete (t : SectionTable) : Prop :=
  ∀ s ∈ t.sections, ¬ Short (fieldsOf s.1) s.2.content

/-- The sections of a runtime configuration under a version, each section decoded with the
defaults of its own fields. -/
def sectionsAs (version : String) (format : Format) (es : List (String × Content)) :
    Option AgentRuntimeConfig := do
  let agent ←
    fieldOr ["agent"] (AgentRuntimeSettings.deserialize format) AgentRuntimeSettings.default es
  let storage ← fieldOr ["storage"] (StorageConfig.deserialize format) StorageConfig.default es
  let memory ← fieldOr ["memory"] (MemoryConfig.deserialize format) MemoryConfig.default es
  let cpu ← fieldOr ["cpu"] (CpuConfig.deserialize format) CpuConfig.default es
  let network ← fieldOr ["network"] (NetworkConfig.deserialize format) NetworkConfig.default es
  let diskIo ← fieldOr ["disk_io"] (DiskIoConfig.deserialize format) DiskIoConfig.default es
  let podDiscovery ←
    fieldOr ["pod_discovery"] (PodDiscoveryConfig.deserialize format) PodDiscoveryConfig.default es
  let tcp ← fieldOr tcpNames (TcpConfig.deserialize format) TcpConfig.default es
  some ⟨version, agent, storage, memory, cpu, network, diskIo, podDiscovery, tcp⟩

/-- The version is the only thing the version decides. -/
theorem sectionsAs_withVersion (v w : String) (format : Format) (es : List (String × Content)) :
    (sectionsAs v format es).map (·.withVersion w) = sectionsAs w format es := by
  simp only [sectionsAs, Option.bind_eq_bind, Option.map_bind, Function.comp_def, Option.map_some,
    AgentRuntimeConfig.withVersion]

section Table

variable (t : SectionTable) (format : Format)

/-- What is no section's name is not in the table. -/
theorem SectionTable.absent {names : List String} (h : ∀ name ∈ names, name ∉ sectionNames) :
    ∀ e ∈ t.entries, e.1 ∉ names := by
  intro e he hn
  obtain ⟨s, hs, rfl⟩ := List.mem_map.mp he
  exact h s.1 hn (t.named s hs)

variable {t format}

/-- Where its fields have decoded, each section of a table decodes. -/
theorem SectionTable.decode_ne_none {O : Type} {names : List String} {decode : Content → Option O}
    {default o : O} (read : fieldOr names decode default t.entries = some o)
    {s : String × Toml.Value} (mem : s ∈ t.sections) (named : s.1 ∈ names) :
    decode s.2.content ≠ none := by
  intro fails
  have mem : (s.1, s.2.content) ∈ t.entries := List.mem_map_of_mem mem
  rw [fieldOr_eq_none mem named fails] at read
  cases read

/-- A section's decoder and its override's agree on the sections of a complete table. -/
theorem SectionTable.fieldOr_override {O C : Type} {names fields : List String}
    {decodeOverride : Content → Option O} {decode : Content → Option C} {empty : O} {default : C}
    {applyTo : O → C} (complete : t.Complete) (own : ∀ name ∈ names, fieldsOf name = fields)
    (neutral : applyTo empty = default)
    (agrees : ∀ value : Toml.Value, ¬ Short fields value.content →
      (decodeOverride value.content).map applyTo = decode value.content) :
    fieldOr names decode default t.entries =
      (fieldOr names decodeOverride empty t.entries).map applyTo := by
  subst neutral
  refine (fieldOr_map fun e he named => ?_).symm
  obtain ⟨s, hs, rfl⟩ := List.mem_map.mp he
  refine agrees s.2 ?_
  rw [← own s.1 named]
  exact complete s hs

/-- The five collectors' sections, which share their override. -/
theorem SectionTable.fieldOr_collectorOverride (complete : t.Complete) (names : List String)
    (own : ∀ name ∈ names, fieldsOf name = CollectorConfig.names) (enabledDefault : Bool)
    (intervalDefault : UInt64) :
    fieldOr names (CollectorConfig.deserialize enabledDefault intervalDefault format)
        ⟨enabledDefault, intervalDefault⟩ t.entries =
      (fieldOr names (CollectorConfigOverride.deserialize format) {} t.entries).map
        (·.applyTo ⟨enabledDefault, intervalDefault⟩) :=
  fieldOr_override complete own rfl fun _ whole =>
    CollectorConfigOverride.applyTo_deserialize enabledDefault intervalDefault whole

/-- The sections as defaults of the control-plane file, applied over the built-in defaults. -/
theorem HostConfigOverride.applyTo_deserialize (complete : t.Complete) :
    (HostConfigOverride.deserialize format (.map t.entries)).map
        (·.applyTo AgentRuntimeConfig.default) =
      sectionsAs localConfigVersion format t.entries := by
  have agent : fieldOr ["agent"] (AgentRuntimeSettings.deserialize format)
      AgentRuntimeSettings.default t.entries =
      (fieldOr ["agent"] (AgentSettingsOverride.deserialize format) {} t.entries).map
        (·.applyTo AgentRuntimeSettings.default) :=
    SectionTable.fieldOr_override complete (by decide) rfl fun _ =>
      AgentSettingsOverride.applyTo_deserialize
  have storage : fieldOr ["storage"] (StorageConfig.deserialize format) StorageConfig.default
      t.entries =
      (fieldOr ["storage"] (StorageConfigOverride.deserialize format) {} t.entries).map
        (·.applyTo StorageConfig.default) :=
    SectionTable.fieldOr_override complete (by decide) rfl fun _ =>
      StorageConfigOverride.applyTo_deserialize
  have podDiscovery : fieldOr ["pod_discovery"] (PodDiscoveryConfig.deserialize format)
      PodDiscoveryConfig.default t.entries =
      (fieldOr ["pod_discovery"] (PodDiscoveryConfigOverride.deserialize format) {} t.entries).map
        (·.applyTo PodDiscoveryConfig.default) :=
    SectionTable.fieldOr_override complete (by decide) rfl fun _ =>
      PodDiscoveryConfigOverride.applyTo_deserialize
  simp only [deserialize, sectionsAs, entries_map, Option.bind_eq_bind, Option.bind_some, agent,
    storage, podDiscovery, MemoryConfig.deserialize, MemoryConfig.default, CpuConfig.deserialize,
    CpuConfig.default, NetworkConfig.deserialize, NetworkConfig.default, DiskIoConfig.deserialize,
    DiskIoConfig.default, TcpConfig.deserialize, TcpConfig.default, defaultTrue,
    SectionTable.fieldOr_collectorOverride complete ["memory"] (by decide),
    SectionTable.fieldOr_collectorOverride complete ["cpu"] (by decide),
    SectionTable.fieldOr_collectorOverride complete ["network"] (by decide),
    SectionTable.fieldOr_collectorOverride complete ["disk_io"] (by decide),
    SectionTable.fieldOr_collectorOverride complete tcpNames (by decide),
    Option.map_bind, Option.bind_map, Function.comp_def, Option.map_some]
  rfl

/-- A table that is not complete is no override: the section that stops short is none. -/
theorem HostConfigOverride.deserialize_eq_none (short : ¬ t.Complete) :
    deserialize format (.map t.entries) = none := by
  simp only [SectionTable.Complete, not_forall, not_not] at short
  obtain ⟨s, mem, short⟩ := short
  rw [Option.eq_none_iff_forall_not_mem]
  intro host read
  simp only [deserialize, entries_map, Option.bind_eq_bind, Option.bind_some, Option.mem_def,
    Option.bind_eq_some_iff] at read
  obtain ⟨_, agent, _, storage, _, memory, _, cpu, _, network, _, diskIo, _, podDiscovery, _, tcp,
    -⟩ := read
  have none_agent (h : Short AgentRuntimeSettings.names s.2.content) :
      AgentSettingsOverride.deserialize format s.2.content = none := by
    rw [AgentSettingsOverride.deserialize, entries_of_short h]; rfl
  have none_storage (h : Short StorageConfig.names s.2.content) :
      StorageConfigOverride.deserialize format s.2.content = none := by
    rw [StorageConfigOverride.deserialize, entries_of_short h]; rfl
  have none_collector (h : Short CollectorConfig.names s.2.content) :
      CollectorConfigOverride.deserialize format s.2.content = none := by
    rw [CollectorConfigOverride.deserialize, entries_of_short h]; rfl
  have none_podDiscovery (h : Short PodDiscoveryConfig.names s.2.content) :
      PodDiscoveryConfigOverride.deserialize format s.2.content = none := by
    rw [PodDiscoveryConfigOverride.deserialize, entries_of_short h]; rfl
  have named := t.named s mem
  simp only [sectionNames, sectionFields, List.cons_append, List.nil_append, List.mem_cons,
    List.not_mem_nil, or_false] at named
  rcases named with key | key | key | key | key | key | key | key | key <;>
    rw [key] at short
  · exact SectionTable.decode_ne_none agent mem (by simp [key]) (none_agent short)
  · exact SectionTable.decode_ne_none storage mem (by simp [key]) (none_storage short)
  · exact SectionTable.decode_ne_none memory mem (by simp [key]) (none_collector short)
  · exact SectionTable.decode_ne_none cpu mem (by simp [key]) (none_collector short)
  · exact SectionTable.decode_ne_none network mem (by simp [key]) (none_collector short)
  · exact SectionTable.decode_ne_none diskIo mem (by simp [key]) (none_collector short)
  · exact SectionTable.decode_ne_none podDiscovery mem (by simp [key]) (none_podDiscovery short)
  · exact SectionTable.decode_ne_none tcp mem (by simp [key, tcpNames]) (none_collector short)
  · exact SectionTable.decode_ne_none tcp mem (by simp [key, tcpNames]) (none_collector short)

variable (t format)

/-- The sections in the agent's local file. -/
theorem AgentBootstrapConfig.fallback_deserialize :
    (AgentBootstrapConfig.deserialize format (.map t.entries)).map fallbackRuntimeConfig =
      sectionsAs localConfigVersion format t.entries := by
  have absent : ∀ name, name ∉ sectionNames → ∀ e ∈ t.entries, e.1 ∉ [name] := by
    intro name h
    exact t.absent fun n hn => List.mem_singleton.mp hn ▸ h
  rw [deserialize, entries_map, Option.bind_eq_bind, Option.bind_some,
    fieldOr_of_absent (absent _ (by decide)), fieldOr_of_absent (absent _ (by decide)),
    fieldOr_of_absent (absent _ (by decide)), fieldOption, fieldOr_of_absent (absent _ (by decide)),
    fieldOption, fieldOr_of_absent (absent _ (by decide)),
    fieldOr_of_absent (absent _ (by decide)), fieldOr_of_absent (absent _ (by decide))]
  simp only [sectionsAs, Option.bind_eq_bind, Option.bind_some, Option.map_bind, Function.comp_def,
    Option.map_some, fallbackRuntimeConfig]

/-- The sections and a version in a runtime configuration. -/
theorem AgentRuntimeConfig.deserialize_version (version : String) :
    deserialize format (.map (("version", .str version) :: t.entries)) =
      sectionsAs version format t.entries := by
  have absent : ∀ e ∈ t.entries, e.1 ∉ ["version"] := t.absent (by decide)
  rw [deserialize, entries_map, Option.bind_eq_bind, Option.bind_some,
    fieldRequired_of_lookup (lookup_cons_of_mem (by decide) absent), str_str,
    Option.bind_eq_bind, Option.bind_some]
  simp (disch := decide) only [fieldOr_cons_of_notMem, sectionsAs]

variable {format}

/-- A file's defaults decode on their own: the rest of the file decodes to the rest. -/
theorem ControlConfigFile.deserialize_defaults {rest : List (String × Content)}
    {file : ControlConfigFile} (noDefaults : ∀ e ∈ rest, e.1 ≠ "defaults")
    (restFile : deserialize format (.map rest) = some file) (c : Content) :
    deserialize format (.map (("defaults", c) :: rest)) =
      (HostConfigOverride.deserialize format c).map fun defaults =>
        { file with defaults := defaults } := by
  have absent : ∀ e ∈ rest, e.1 ∉ ["defaults"] := fun e he h =>
    noDefaults e he (List.mem_singleton.mp h)
  rw [deserialize, entries_map, Option.bind_eq_bind, Option.bind_some, fieldOr_of_absent absent,
    Option.bind_eq_bind, Option.bind_some] at restFile
  rw [deserialize, entries_map, Option.bind_eq_bind, Option.bind_some,
    fieldOr_of_lookup (lookup_cons_of_mem (by decide) absent)]
  simp (disch := decide) only [fieldOr_cons_of_notMem]
  cases hosts : fieldOr ["hosts"] (stringMap (HostConfigOverride.deserialize format)) ∅ rest with
  | none =>
    rw [hosts] at restFile
    cases restFile
  | some hosts' =>
    cases agents : fieldOr ["agents"] (stringMap (AgentEnrollment.deserialize format)) ∅ rest with
    | none =>
      rw [hosts, agents] at restFile
      cases restFile
    | some agents' =>
      rw [hosts, agents] at restFile
      cases restFile
      cases HostConfigOverride.deserialize format c <;> rfl

/-- The local file and the runtime configuration take the same sections: the runtime configuration
is the local fallback under its own version, and is validated like it but for a blank version. -/
theorem AgentRuntimeConfig.deserialize_eq_fallback (version : String) :
    deserialize format (.map (("version", .str version) :: t.entries)) =
      (AgentBootstrapConfig.deserialize format (.map t.entries)).map
        (·.fallbackRuntimeConfig.withVersion version) := by
  rw [deserialize_version, ← sectionsAs_withVersion localConfigVersion,
    ← AgentBootstrapConfig.fallback_deserialize, Option.map_map]
  rfl

/-- The local version is not blank. -/
theorem localConfigVersion_visible : Text.isBlank localConfigVersion = false := by decide +kernel

theorem AgentBootstrapConfig.validate_withVersion (bootstrap : AgentBootstrapConfig)
    (version : String) :
    (bootstrap.fallbackRuntimeConfig.withVersion version).validate =
      if Text.isBlank version then .error .emptyVersion
      else bootstrap.fallbackRuntimeConfig.validate := by
  have visible : Text.isBlank bootstrap.fallbackRuntimeConfig.version = false :=
    localConfigVersion_visible
  rw [AgentRuntimeConfig.validate, AgentRuntimeConfig.withVersion_version,
    AgentRuntimeConfig.validateSections_withVersion,
    AgentRuntimeConfig.validate_of_version visible]

/-- **The three ways to resolve a table of sections agree.** They reject the same tables; and
where they accept one, they give the same configuration up to the version, and one validation:
that of the local fallback decides whether the server resolves the host, and with which error, and
that of the runtime configuration is the same but for a blank version, which it rejects on its
own. The table has to be complete for the control-plane file, which rejects any other; the other
two agree on these as well. -/
theorem resolution_agrees (version hostname : String) {rest : List (String × Content)}
    {file : ControlConfigFile} (noDefaults : ∀ e ∈ rest, e.1 ≠ "defaults")
    (restFile : ControlConfigFile.deserialize format (.map rest) = some file)
    (noOverride : file.hosts[hostname]? = none) :
    (AgentBootstrapConfig.deserialize format (.map t.entries) = none ∧
      AgentRuntimeConfig.deserialize format (.map (("version", .str version) :: t.entries)) =
        none ∧
      ControlConfigFile.deserialize format (.map (("defaults", .map t.entries) :: rest)) = none) ∨
    ∃ bootstrap,
      AgentBootstrapConfig.deserialize format (.map t.entries) = some bootstrap ∧
      (∃ runtime,
        AgentRuntimeConfig.deserialize format (.map (("version", .str version) :: t.entries)) =
          some runtime ∧
        runtime = bootstrap.fallbackRuntimeConfig.withVersion version ∧
        runtime.validate =
          if Text.isBlank version then .error .emptyVersion
          else bootstrap.fallbackRuntimeConfig.validate) ∧
      (t.Complete → ∃ control,
        ControlConfigFile.deserialize format (.map (("defaults", .map t.entries) :: rest)) =
          some control ∧
        control.runtimeConfigFor hostname =
          bootstrap.fallbackRuntimeConfig.validate.map fun _ =>
            bootstrap.fallbackRuntimeConfig.withVersion
              (effectiveConfigVersion hostname bootstrap.fallbackRuntimeConfig)) ∧
      (¬ t.Complete →
        ControlConfigFile.deserialize format (.map (("defaults", .map t.entries) :: rest)) =
          none) := by
  have control := ControlConfigFile.deserialize_defaults noDefaults restFile (.map t.entries)
  have fallback := AgentBootstrapConfig.fallback_deserialize t format
  have runtime := @AgentRuntimeConfig.deserialize_eq_fallback t format version
  have rejected (short : ¬ t.Complete) :
      ControlConfigFile.deserialize format (.map (("defaults", .map t.entries) :: rest)) =
        none := by
    rw [control, HostConfigOverride.deserialize_eq_none short, Option.map_none]
  cases decoded : AgentBootstrapConfig.deserialize format (.map t.entries) with
  | none =>
    rw [decoded] at runtime fallback
    refine .inl ⟨rfl, runtime, ?_⟩
    by_cases complete : t.Complete
    · have overridden := @HostConfigOverride.applyTo_deserialize t format complete
      rw [← fallback, Option.map_none, Option.map_eq_none_iff] at overridden
      rw [control, overridden, Option.map_none]
    · exact rejected complete
  | some bootstrap =>
    rw [decoded] at runtime fallback
    refine .inr ⟨bootstrap, rfl, ⟨_, runtime, rfl, bootstrap.validate_withVersion version⟩,
      fun complete => ?_, rejected⟩
    have overridden := @HostConfigOverride.applyTo_deserialize t format complete
    rw [← fallback, Option.map_some, Option.map_eq_some_iff] at overridden
    obtain ⟨defaults, hdefaults, happly⟩ := overridden
    have resolved : ({ file with defaults := defaults } : ControlConfigFile).resolve hostname =
        bootstrap.fallbackRuntimeConfig :=
      Eq.trans (ControlConfigFile.resolve_of_no_override noOverride) happly
    have visible : Text.isBlank bootstrap.fallbackRuntimeConfig.version = false :=
      localConfigVersion_visible
    refine ⟨{ file with defaults := defaults }, by rw [control, hdefaults]; rfl, ?_⟩
    rw [ControlConfigFile.runtimeConfigFor_eq, resolved,
      AgentRuntimeConfig.validate_of_version visible]

end Table

/-- Two collectors switched on among the defaults of a file that has nothing else, one by its
values and one by its old name. -/
theorem resolution_agrees_cpu :
    ∃ t : SectionTable,
      t.entries = [("cpu", .seq [.bool true, .int 5]),
        ("tcp_pod_retrans", .map [("enabled", .bool true)])] ∧
      ∃ bootstrap control runtime,
        AgentBootstrapConfig.deserialize .toml (.map t.entries) = some bootstrap ∧
        ControlConfigFile.deserialize .toml (.map [("defaults", .map t.entries)]) =
          some control ∧
        AgentRuntimeConfig.deserialize .toml (.map (("version", .str "v1") :: t.entries)) =
          some runtime ∧
        runtime = bootstrap.fallbackRuntimeConfig.withVersion "v1" := by
  let t : SectionTable := ⟨[("cpu", .array [.boolean true, .integer 5]),
    ("tcp_pod_retrans", .table [("enabled", .boolean true)])], by decide⟩
  have complete : t.Complete := by
    intro s mem short
    obtain ⟨items, given, few⟩ := short
    simp only [t, List.mem_cons, List.not_mem_nil, or_false] at mem
    rcases mem with rfl | rfl
    · cases given
      exact absurd few (by decide)
    · cases given
  refine ⟨t, rfl, ?_⟩
  rcases @resolution_agrees t .toml "v1" "host-1" [] {} (by decide) rfl (BTreeMap.get_empty _) with
    ⟨h, -⟩ | ⟨b, hb, ⟨r, hr, same, -⟩, accepted, -⟩
  · cases h
  · obtain ⟨c, hc, -⟩ := accepted complete
    exact ⟨b, c, r, hb, hc, hr, same⟩

/-- Two exceptions. A blank version: the runtime configuration is rejected for it, where the local
file and the defaults with the same sections, none, are accepted. A section given by position and
stopping short: the local file and the runtime configuration take it, the defaults do not. -/
theorem resolutions_disagree :
    (∃ t : SectionTable, ∃ bootstrap runtime,
      AgentBootstrapConfig.deserialize .toml (.map t.entries) = some bootstrap ∧
      AgentRuntimeConfig.deserialize .toml (.map (("version", .str "") :: t.entries)) =
        some runtime ∧
      bootstrap.fallbackRuntimeConfig.Valid ∧ ¬ runtime.Valid) ∧
    ∃ t : SectionTable, t.entries = [("cpu", .seq [.bool true])] ∧ ∃ bootstrap runtime,
      AgentBootstrapConfig.deserialize .toml (.map t.entries) = some bootstrap ∧
      AgentRuntimeConfig.deserialize .toml (.map (("version", .str "v1") :: t.entries)) =
        some runtime ∧
      bootstrap.fallbackRuntimeConfig.Valid ∧ runtime.Valid ∧
      ControlConfigFile.deserialize .toml (.map [("defaults", .map t.entries)]) = none := by
  refine ⟨⟨⟨[], by decide⟩, _, _, rfl, rfl, ?_, ?_⟩,
    ⟨[("cpu", .array [.boolean true])], by decide⟩, rfl, _, _, rfl, rfl, ?_, ?_, rfl⟩
  · decide +kernel
  · decide +kernel
  · decide +kernel
  · decide +kernel

end Talia
