import Talia.Core.ConfigSerde

/-!
# The control-plane configuration file

The file holds defaults for every host, overrides for some, and the agents that are enrolled, each
with the hostname it may represent and the token its configuration is fetched with.

`runtimeConfigFor` is the one place a runtime configuration comes from on the server: the built-in
defaults, the file's, the host's overrides, the computed version, the validation. The computed
version is never blank, so whether a hostname resolves depends on the sections only
(`runtimeConfigFor_eq`), and two hostnames without overrides resolve alike.

SHA-256 is a parameter, `sha256`; what rests on it being collision-free takes
`Function.Injective sha256`.
-/

namespace Talia

open Serde

/-! ## Secrets -/

/-- A presented secret matches the configured one: their digests are equal. A blank configured
secret matches nothing. -/
def secretMatches (sha256 : ByteArray → ByteArray) (configured presented : String) : Bool :=
  if Text.isBlank configured then false
  else @decide (sha256 configured.toUTF8 = sha256 presented.toUTF8) (ByteArray.instDecidableEq _ _)

/-- With a collision-free digest, matching is being equal to a secret that is not blank. -/
theorem secretMatches_iff {sha256 : ByteArray → ByteArray} (inj : Function.Injective sha256)
    {configured presented : String} :
    secretMatches sha256 configured presented = true ↔
      Text.isBlank configured = false ∧ presented = configured := by
  unfold secretMatches
  cases blank : Text.isBlank configured with
  | true => exact ⟨fun h => (nomatch h), fun h => (nomatch h.1)⟩
  | false =>
    rw [if_neg Bool.false_ne_true, decide_eq_true_eq]
    constructor
    · intro h
      exact ⟨rfl, (String.toByteArray_inj.mp (inj h)).symm⟩
    · rintro ⟨-, rfl⟩
      rfl

/-! ## Versions -/

/-- The 64-bit FNV-1a hash. -/
def fnv1a64 (bytes : ByteArray) : UInt64 :=
  bytes.data.toList.foldl (fun hash byte => (hash ^^^ byte.toUInt64) * 0x100000001b3)
    0xcbf29ce484222325

/-- Sixteen lower-case hexadecimal digits. -/
def hex16 (n : UInt64) : String :=
  let digits := Nat.toDigits 16 n.toNat
  String.ofList (List.replicate (16 - digits.length) '0' ++ digits)

/-- A stable version of raw config file contents. -/
def configSourceVersion (contents : String) : String :=
  "source-" ++ hex16 (fnv1a64 contents.toUTF8)

/-- A stable version of what a hostname resolves to: the hash of the hostname and of the
configuration without its version. -/
def effectiveConfigVersion (hostname : String) (runtime : AgentRuntimeConfig) : String :=
  let serialized := Json.printText Json.compact (runtime.withVersion "").serialize
  "cfg-" ++ hex16 (fnv1a64 (hostname.toUTF8 ++ serialized.toUTF8))

theorem effectiveConfigVersion_visible (hostname : String) (runtime : AgentRuntimeConfig) :
    Text.isBlank (effectiveConfigVersion hostname runtime) = false := by
  have mem : 'c' ∈ (effectiveConfigVersion hostname runtime).toList := by
    simp only [effectiveConfigVersion, String.toList_append]
    exact List.mem_append_left _ (by decide)
  exact Text.isBlank_eq_false mem (by decide)

/-! ## The file -/

/-- An enrolled agent: the hostname it may represent, and the token that fetches its config. -/
structure AgentEnrollment where
  hostname : String
  configToken : Option String := none

structure ControlConfigFile where
  defaults : HostConfigOverride := {}
  hosts : BTreeMap String HostConfigOverride := ∅
  agents : BTreeMap String AgentEnrollment := ∅

namespace ControlConfigFile

variable (file : ControlConfigFile) (hostname : String)

/-- Built-in defaults, then the file's, then the host's overrides. The version is still the one of
the built-in defaults. -/
def resolve : AgentRuntimeConfig :=
  let runtime := file.defaults.applyTo AgentRuntimeConfig.default
  match file.hosts[hostname]? with
  | some hostConfig => hostConfig.applyTo runtime
  | none => runtime

/-- The effective runtime config for a hostname. -/
def runtimeConfigFor : Except ConfigError AgentRuntimeConfig := do
  let runtime := file.resolve hostname
  let runtime := runtime.withVersion (effectiveConfigVersion hostname runtime)
  runtime.validate
  .ok runtime

/-- An agent id is enrolled for the hostname. -/
def agentIsEnrolledForHostname (agentId hostname : String) : Bool :=
  match file.agents[agentId]? with
  | some agent => agent.hostname = hostname
  | none => false

/-- An agent's config token matches the enrolled one. -/
def agentConfigTokenMatches (sha256 : ByteArray → ByteArray) (agentId configToken : String) :
    Bool :=
  match file.agents[agentId]?.bind AgentEnrollment.configToken with
  | some token => secretMatches sha256 token configToken
  | none => false

/-- The agent id is enrolled with the token. -/
def EnrollsToken (agentId token : String) : Prop :=
  ∃ enrollment, file.agents[agentId]? = some enrollment ∧ enrollment.configToken = some token

/-- Resolution succeeds exactly when the sections pass their checks, and then gives them under the
computed version. -/
theorem runtimeConfigFor_eq :
    file.runtimeConfigFor hostname =
      (file.resolve hostname).validateSections.map fun _ =>
        (file.resolve hostname).withVersion
          (effectiveConfigVersion hostname (file.resolve hostname)) := by
  have visible : Text.isBlank ((file.resolve hostname).withVersion
      (effectiveConfigVersion hostname (file.resolve hostname))).version = false :=
    effectiveConfigVersion_visible hostname (file.resolve hostname)
  rw [runtimeConfigFor, AgentRuntimeConfig.validate_of_version visible,
    AgentRuntimeConfig.validateSections_withVersion]
  cases (file.resolve hostname).validateSections <;> rfl

/-- A hostname resolves exactly when its sections pass their checks. -/
theorem runtimeConfigFor_ok_iff :
    (∃ runtime, file.runtimeConfigFor hostname = .ok runtime) ↔
      (file.resolve hostname).validateSections = .ok () := by
  rw [runtimeConfigFor_eq]
  cases (file.resolve hostname).validateSections with
  | error e => exact ⟨fun ⟨_, h⟩ => (nomatch h), fun h => (nomatch h)⟩
  | ok u => exact ⟨fun _ => rfl, fun _ => ⟨_, rfl⟩⟩

/-- What resolution gives is the sections under the computed version. -/
theorem eq_of_runtimeConfigFor {file : ControlConfigFile} {hostname : String}
    {runtime : AgentRuntimeConfig} (h : file.runtimeConfigFor hostname = .ok runtime) :
    runtime = (file.resolve hostname).withVersion
      (effectiveConfigVersion hostname (file.resolve hostname)) := by
  have sections := (runtimeConfigFor_ok_iff file hostname).mp ⟨runtime, h⟩
  rw [runtimeConfigFor_eq, sections] at h
  cases h
  rfl

/-- What resolution gives is valid. -/
theorem valid_of_runtimeConfigFor {file : ControlConfigFile} {hostname : String}
    {runtime : AgentRuntimeConfig} (h : file.runtimeConfigFor hostname = .ok runtime) :
    runtime.Valid := by
  have sections := (runtimeConfigFor_ok_iff file hostname).mp ⟨runtime, h⟩
  rw [eq_of_runtimeConfigFor h]
  exact AgentRuntimeConfig.valid_iff.mpr
    ⟨effectiveConfigVersion_visible hostname (file.resolve hostname), sections⟩

/-- A host without overrides resolves to the defaults. -/
theorem resolve_of_no_override {file : ControlConfigFile} {hostname : String}
    (h : file.hosts[hostname]? = none) :
    file.resolve hostname = file.defaults.applyTo AgentRuntimeConfig.default := by
  rw [resolve, h]

/-- Resolution reads the defaults and the entry of the host, nothing else of the file. -/
theorem runtimeConfigFor_congr {file file' : ControlConfigFile} {hostname : String}
    (defaults : file.defaults = file'.defaults)
    (host : file.hosts[hostname]? = file'.hosts[hostname]?) :
    file.runtimeConfigFor hostname = file'.runtimeConfigFor hostname := by
  rw [runtimeConfigFor, runtimeConfigFor, resolve, resolve, defaults, host]

-- From here on, what resolution does is read off the lemmas above.
attribute [irreducible] runtimeConfigFor

end ControlConfigFile

/-! ## Decoding the file -/

/-- A map of strings to values: a key given twice keeps the value given last. -/
def stringMap {V : Type} (decode : Content → Option V) (c : Content) :
    Option (BTreeMap String V) :=
  match c with
  | .map es => es.foldlM (fun m e => (decode e.2).map (m.insert e.1)) ∅
  | _ => none

def AgentEnrollment.names : List String := ["hostname", "config_token"]

def AgentEnrollment.deserialize (format : Format) (c : Content) : Option AgentEnrollment := do
  let es ← entries format names names.length c
  let hostname ← fieldRequired ["hostname"] str es
  let configToken ← fieldOption ["config_token"] str es
  some ⟨hostname, configToken⟩

def ControlConfigFile.names : List String := ["defaults", "hosts", "agents"]

def ControlConfigFile.deserialize (format : Format) (c : Content) : Option ControlConfigFile := do
  let es ← entries format names 0 c
  let defaults ← fieldOr ["defaults"] (HostConfigOverride.deserialize format) {} es
  let hosts ← fieldOr ["hosts"] (stringMap (HostConfigOverride.deserialize format)) ∅ es
  let agents ← fieldOr ["agents"] (stringMap (AgentEnrollment.deserialize format)) ∅ es
  some ⟨defaults, hosts, agents⟩

end Talia
