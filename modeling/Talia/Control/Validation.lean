import Mathlib.Data.Fintype.EquivFin
import Talia.Control.Disclosure

/-!
# Whether the configuration in force resolves every hostname

Loading probes the empty hostname and the hosts with overrides. The empty hostname stands for the
hosts without, unless the file has an entry for it: then its overrides can hide invalid defaults.
`total_iff_unmasked` says that this is the only way for a validated file not to resolve a hostname,
since some hostname is always without an entry.
-/

namespace Talia

namespace ControlConfigFile

/-- Every hostname resolves. -/
def Total (file : ControlConfigFile) : Prop :=
  ∀ hostname, ∃ runtime, file.runtimeConfigFor hostname = .ok runtime

/-- The file has no entry for the empty hostname, or its defaults are valid on their own. -/
def Unmasked (file : ControlConfigFile) : Prop :=
  file.hosts[""]? = none ∨
    (file.defaults.applyTo AgentRuntimeConfig.default).validateSections = .ok ()

end ControlConfigFile

/-! ## Validation -/

theorem validateHosts_ok_iff {config : ControlConfigFile} {hostnames : List String} :
    validateHosts config hostnames = .ok () ↔
      ∀ hostname ∈ hostnames, ∃ runtime, config.runtimeConfigFor hostname = .ok runtime := by
  induction hostnames with
  | nil => exact ⟨fun _ _ h => (nomatch h), fun _ => rfl⟩
  | cons hostname hostnames ih =>
    rw [validateHosts]
    cases resolved : config.runtimeConfigFor hostname with
    | ok runtime =>
      simp only [ih, List.forall_mem_cons, resolved]
      exact ⟨fun h => ⟨⟨runtime, rfl⟩, h⟩, And.right⟩
    | error source =>
      simp only [List.forall_mem_cons, resolved, reduceCtorEq, exists_false, false_and]

/-- Validation succeeds exactly when the empty hostname and every host with overrides resolve. -/
theorem validateRuntimeConfigs_ok_iff {config : ControlConfigFile} :
    validateRuntimeConfigs config = .ok () ↔
      (config.resolve "").validateSections = .ok () ∧
      ∀ hostname ∈ config.hosts.keys, (config.resolve hostname).validateSections = .ok () := by
  simp only [← config.runtimeConfigFor_ok_iff, ← validateHosts_ok_iff]
  rw [validateRuntimeConfigs]
  cases config.runtimeConfigFor "" with
  | ok runtime => exact ⟨fun h => ⟨⟨runtime, rfl⟩, h⟩, And.right⟩
  | error source => simp only [reduceCtorEq, exists_false, false_and]

/-- Some hostname has no overrides. -/
theorem exists_no_override (file : ControlConfigFile) :
    ∃ hostname : String, file.hosts[hostname]? = none := by
  obtain ⟨hostname, fresh⟩ := Infinite.exists_notMem_finset file.hosts.keys.toFinset
  refine ⟨hostname, ?_⟩
  rw [List.mem_toFinset, BTreeMap.mem_keys_iff] at fresh
  cases found : file.hosts[hostname]? with
  | none => rfl
  | some host => exact absurd ⟨host, found⟩ fresh

/-- **What validation leaves open**: a validated file resolves every hostname exactly when it does
not mask its defaults. -/
theorem total_iff_unmasked {file : ControlConfigFile}
    (validated : validateRuntimeConfigs file = .ok ()) : file.Total ↔ file.Unmasked := by
  obtain ⟨probe, listed⟩ := validateRuntimeConfigs_ok_iff.mp validated
  constructor
  · intro total
    obtain ⟨hostname, none⟩ := exists_no_override file
    have resolved := (file.runtimeConfigFor_ok_iff hostname).mp (total hostname)
    rw [ControlConfigFile.resolve_of_no_override none] at resolved
    exact .inr resolved
  · intro unmasked hostname
    rw [file.runtimeConfigFor_ok_iff]
    cases found : file.hosts[hostname]? with
    | some host => exact listed hostname (BTreeMap.mem_keys_iff.mpr ⟨host, found⟩)
    | none =>
      rw [ControlConfigFile.resolve_of_no_override found]
      rcases unmasked with empty | defaults
      · rw [ControlConfigFile.resolve_of_no_override empty] at probe
        exact probe
      · exact defaults

/-- What is loaded is validated. -/
theorem validated_of_load {env : Env} {file : Option String} {config : LoadedControlConfig}
    (loaded : loadControlConfig env file = .ok config) :
    validateRuntimeConfigs config.config = .ok () := by
  have map_ok : ∀ {version : String} {parsed : ControlConfigFile},
      ((validateRuntimeConfigs parsed).map fun _ => (⟨version, parsed⟩ : LoadedControlConfig)) =
        .ok config → validateRuntimeConfigs config.config = .ok () := by
    intro version parsed h
    cases valid : validateRuntimeConfigs parsed with
    | ok u =>
      rw [valid] at h
      cases h
      exact valid
    | error e =>
      rw [valid] at h
      cases h
  unfold loadControlConfig at loaded
  split at loaded
  · split at loaded
    · cases loaded
    · split at loaded
      · cases loaded
      · exact map_ok loaded
  · exact map_ok loaded

/-! ## Runs -/

namespace Server

open Transition

variable {env : Env}

/-- A configuration is in force or about to be. -/
def Holds (s : Server) (config : LoadedControlConfig) : Prop :=
  s.config = config ∨ ∃ id, s.reloads id = some (.loaded config)

/-- A step brings in a configuration only by loading it. -/
theorem holds_step {s : Server} {e : ServerEvent} {config : LoadedControlConfig}
    (after : (step env s e).Holds config) :
    s.Holds config ∨
      ∃ id headers file, e = .reload id headers file ∧
        loadControlConfig env file = .ok config := by
  rcases after with current | ⟨id, pending⟩
  · rcases step_acts env s e with same | acts
    · rw [same] at current
      exact .inl (.inl current)
    generalize step env s e = s' at acts current
    cases acts with
    | @swapped id config' found =>
      cases (current : config' = config)
      exact .inl (.inr ⟨id, found⟩)
    | _ => exact .inl (.inl current)
  · rcases stages_or_stays env s e id with stages | same
    · rw [pending] at stages
      cases stages with
      | loaded _ found => exact .inr ⟨id, _, _, rfl, found⟩
    · exact .inl (.inr ⟨id, same.symm.trans pending⟩)

/-- **Every configuration that is ever in force was loaded**: at startup, or by a reload of the
run. -/
theorem holds_origin {start config : LoadedControlConfig} {es : List ServerEvent}
    (holds : (run (step env) (init start) es).Holds config) :
    config = start ∨ ∃ id headers file, .reload id headers file ∈ es ∧
      loadControlConfig env file = .ok config := by
  by_cases same : config = start
  · exact .inl same
  · let P : Server → Prop := fun s => s.Holds config
    have before : ¬ P (init start) := by
      rintro (current | ⟨id, pending⟩)
      · exact same current.symm
      · cases pending
    obtain ⟨pre, e, post, rfl, before, after⟩ := exists_established (P := P) before holds
    have established : (run (step env) (init start) (pre ++ [e])).Holds config :=
      after [] List.nil_prefix
    rw [run_append, run_cons, run_nil] at established
    rcases holds_step established with h | ⟨id, headers, file, rfl, loaded⟩
    · exact absurd h before
    · exact .inr ⟨id, headers, file, List.mem_append_right _ List.mem_cons_self, loaded⟩

/-- A fetch fails on the server only for a hostname that does not resolve. -/
theorem not_internalServerError {config : ControlConfigFile} (total : config.Total)
    (headers : HeaderMap) (agent : ConnectedAgent) :
    agentConfigAnswer env config headers agent ≠ .status .internalServerError := by
  obtain ⟨runtime, resolved⟩ := total agent.hostname
  rw [agentConfigAnswer, resolved]
  split <;> rintro ⟨⟩

/-- A pending fetch of an enrolled agent whose hostname does not resolve fails on the server. -/
theorem answer_of_unresolved {s : Server} {request : Request} (agent : ConnectedAgent)
    {e : ConfigError} (pending : s.fetches request = some agent)
    (credential : agentHasConfigCredential env.sha256 s.config.config agent.agentId agent.hostname
      (headerValue request.headers agentConfigTokenHeader) = true)
    (unresolved : s.config.config.runtimeConfigFor agent.hostname = .error e) :
    answer env s (.agentConfigRead request) = some (.status .internalServerError) := by
  rw [answer, pending, Option.map_some, agentConfigAnswer, if_pos credential, unresolved]

/-- **A reload whose load fails changes nothing.** -/
theorem reload_failed {id : Nat} {headers : HeaderMap} {file : Option String}
    (failed : ∀ config, loadControlConfig env file ≠ .ok config) (s : Server) :
    step env s (.reload id headers file) = s := by
  rcases step_acts env s (.reload id headers file) with same | acts
  · exact same
  · generalize step env s (.reload id headers file) = s' at acts
    cases acts with
    | loaded fresh authorized found => exact absurd found (failed _)

/-- **The configuration in force is total, exactly.** After a startup and any run, the
configuration in force resolves every hostname if and only if it does not mask its defaults; it
does not if no file loaded did, and then no fetch is answered with a server error; and a reload
whose load fails changes nothing. -/
theorem active_config_total_iff {file : Option String} {config : LoadedControlConfig}
    (startup : loadControlConfig env file = .ok config) (es : List ServerEvent) :
    let s := run (step env) (init config) es
    (s.config.config.Total ↔ s.config.config.Unmasked) ∧
    ((config.config.Unmasked ∧ ∀ id headers file loaded, .reload id headers file ∈ es →
        loadControlConfig env file = .ok loaded → loaded.config.Unmasked) →
      s.config.config.Total ∧
        ∀ request, answer env s (.agentConfigRead request) ≠
          some (.status .internalServerError)) ∧
    (∀ id headers file, (∀ loaded, loadControlConfig env file ≠ .ok loaded) →
      step env s (.reload id headers file) = s) := by
  intro s
  have origin : s.config = config ∨ ∃ id headers file, .reload id headers file ∈ es ∧
      loadControlConfig env file = .ok s.config := holds_origin (.inl rfl)
  have validated : validateRuntimeConfigs s.config.config = .ok () := by
    rcases origin with h | ⟨id, headers, file, -, loaded⟩
    · rw [h]
      exact validated_of_load startup
    · exact validated_of_load loaded
  refine ⟨total_iff_unmasked validated, ?_, fun _ _ _ failed => reload_failed failed s⟩
  rintro ⟨start, loads⟩
  have unmasked : s.config.config.Unmasked := by
    rcases origin with h | ⟨id, headers, file, mem, loaded⟩
    · rw [h]
      exact start
    · exact loads id headers file _ mem loaded
  have total := (total_iff_unmasked validated).mpr unmasked
  refine ⟨total, fun request => ?_⟩
  rw [answer]
  cases s.fetches request with
  | none => rintro ⟨⟩
  | some agent =>
    intro h
    exact not_internalServerError total _ _ (Option.some.inj h)

/-- A file with overrides for a host. -/
def hostsToml (seconds : Nat) : String :=
  "[hosts.host-1.agent]\nheartbeat_interval_seconds = " ++ toString seconds ++ "\n"

def hostsFile (seconds : UInt64) : ControlConfigFile where
  hosts := (∅ : BTreeMap String HostConfigOverride).insert "host-1"
    { agent := { heartbeatIntervalSeconds := some seconds } }

def hostsEnv : Env :=
  { oneAgentEnv with
    fromToml := fun contents =>
      if contents = hostsToml 5 then some (hostsFile 5)
      else if contents = hostsToml 9 then some (hostsFile 9)
      else none
    configPath := some "control.toml" }

/-- The file is written anew and reloaded. -/
def hostsRun : List ServerEvent :=
  [.reload 0 [headerOf authorizationHeader "Bearer admin-secret"] (some (hostsToml 9)),
    .reloadSwap 0]

/-- After the reload the host has the interval of the second file, and every hostname resolves. -/
theorem active_config_total_iff_default :
    ∃ config, loadControlConfig hostsEnv (some (hostsToml 5)) = .ok config ∧
      (run (step hostsEnv) (init config) hostsRun).config = ⟨configSourceVersion (hostsToml 9),
        hostsFile 9⟩ ∧
      (run (step hostsEnv) (init config) hostsRun).config.config.Total := by
  have first : loadControlConfig hostsEnv (some (hostsToml 5)) =
      .ok ⟨configSourceVersion (hostsToml 5), hostsFile 5⟩ := by
    have validated : validateRuntimeConfigs (hostsFile 5) = .ok () :=
      validateRuntimeConfigs_ok_iff.mpr ⟨by decide +kernel, by decide +kernel⟩
    simp only [loadControlConfig, hostsEnv, if_true, validated]
    rfl
  have second : loadControlConfig hostsEnv (some (hostsToml 9)) =
      .ok ⟨configSourceVersion (hostsToml 9), hostsFile 9⟩ := by
    have other : hostsToml 9 ≠ hostsToml 5 := by decide +kernel
    have validated : validateRuntimeConfigs (hostsFile 9) = .ok () :=
      validateRuntimeConfigs_ok_iff.mpr ⟨by decide +kernel, by decide +kernel⟩
    simp only [loadControlConfig, hostsEnv, if_true, if_neg other, validated]
    rfl
  have admin : authorized hostsEnv.sha256 [headerOf authorizationHeader "Bearer admin-secret"]
      hostsEnv.adminToken = true := by decide +kernel
  refine ⟨_, first, ?_, ?_⟩
  · simp [hostsRun, step, init, setReload, admin, second]
  refine ((active_config_total_iff first hostsRun).2.1 ⟨.inl (by decide +kernel), ?_⟩).1
  intro id headers file loaded mem found
  have only : file = some (hostsToml 9) := by
    simp only [hostsRun, List.mem_cons, List.not_mem_nil, reduceCtorEq, or_false,
      ServerEvent.reload.injEq] at mem
    exact mem.2.2
  rw [only, second] at found
  cases found
  exact .inl (by decide +kernel)

/-- A file whose defaults are invalid and hidden by an entry for the empty hostname. -/
def maskedToml : String :=
  "[defaults.agent]\nheartbeat_interval_seconds = 0\n" ++
  "[hosts.\"\".agent]\nheartbeat_interval_seconds = 60\n" ++
  "[agents.agent-1]\nhostname = \"host-1\"\nconfig_token = \"config-secret\"\n"

/-- What it decodes to. -/
def maskedFile : ControlConfigFile where
  defaults := { agent := { heartbeatIntervalSeconds := some 0 } }
  hosts := (∅ : BTreeMap String HostConfigOverride).insert ""
    { agent := { heartbeatIntervalSeconds := some 60 } }
  agents := oneAgentConfig.config.agents

def maskedEnv : Env :=
  { oneAgentEnv with
    fromToml := fun contents => if contents = maskedToml then some maskedFile else none
    configPath := some "control.toml" }

/-- **Invalid defaults can come into force**: a file is loaded that does not resolve the hostname
of the agent it enrolls, and the agent's fetch is answered with a server error. -/
theorem masked_defaults_in_force :
    ∃ config, loadControlConfig maskedEnv (some maskedToml) = .ok config ∧
      ¬ config.config.Total ∧
      answer maskedEnv (run (step maskedEnv) (init config)
        (oneAgentRun ++ [.agentConfig oneAgentRequest])) (.agentConfigRead oneAgentRequest) =
          some (.status .internalServerError) := by
  have validated : validateRuntimeConfigs maskedFile = .ok () :=
    validateRuntimeConfigs_ok_iff.mpr ⟨by decide +kernel, by decide +kernel⟩
  have invalid : ∀ file : ControlConfigFile, (file.resolve "host-1").validateSections =
      .error .emptyHeartbeatInterval →
      file.runtimeConfigFor "host-1" = .error .emptyHeartbeatInterval := by
    intro file sections
    rw [ControlConfigFile.runtimeConfigFor_eq, sections]
    rfl
  have startup : loadControlConfig maskedEnv (some maskedToml) =
      .ok ⟨configSourceVersion maskedToml, maskedFile⟩ := by
    simp only [loadControlConfig, maskedEnv, if_true, validated]
    rfl
  refine ⟨_, startup, ?_, ?_⟩
  · intro total
    obtain ⟨runtime, resolved⟩ := total "host-1"
    cases (invalid maskedFile (by decide +kernel)).symm.trans resolved
  · exact answer_of_unresolved
      ⟨"agent-1", "host-1", "0.1.0", none, none, [], 1, 1, "connection-1"⟩
      (by decide +kernel) (by decide +kernel) (invalid _ (by decide +kernel))

end Server

end Talia
