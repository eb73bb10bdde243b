import Talia.Core.ControlConfig
import Talia.Lib.JsonSuffix

/-!
# What a version is the hash of

A configuration's version is a hash of the hostname followed by the configuration's compact JSON,
with nothing between the two, and the hostname is any text. `versionPreimage_inj` says that the
bytes still determine both. The JSON begins with the key `version`, no object within it has a first
key that begins with a `v`, and inside a string literal the beginning of an object cannot be spelled
(`Json.Marked`), so the last place where one begins is where the hostname ends. Two of them may still
have one hash, of which nothing is said here.
-/

namespace Talia

open Json Serde

/-! ## The document -/

/-- The version's key starts with a plain letter. -/
theorem key_v : Key 'v' where
  plain := by decide
  notPunctuation := by decide

/-- A number has no key. -/
theorem u64Content_unmarked (n : UInt64) : Unmarked 'v' (u64Content n) := .int _

/-- No key of the agent's section starts like the version's. -/
theorem AgentRuntimeSettings.serialize_unmarked (settings : AgentRuntimeSettings) :
    Unmarked 'v' settings.serialize := by
  refine .map (by simp) fun entry mem => ?_
  simp only [List.mem_cons, List.not_mem_nil, or_false] at mem
  rcases mem with rfl | rfl
  · exact u64Content_unmarked _
  · exact u64Content_unmarked _

/-- Nor does one of storage, -/
theorem StorageConfig.serialize_unmarked (storage : StorageConfig) :
    Unmarked 'v' storage.serialize := by
  refine .map (by simp) fun entry mem => ?_
  simp only [List.mem_cons, List.not_mem_nil, or_false] at mem
  rcases mem with rfl | rfl | rfl
  · exact .bool _
  · exact u64Content_unmarked _
  · refine .seq fun item mem => ?_
    obtain ⟨mount, -, rfl⟩ := List.mem_map.mp mem
    exact .str mount

/-- of a collector, -/
theorem CollectorConfig.serialize_unmarked (collector : CollectorConfig) :
    Unmarked 'v' collector.serialize := by
  refine .map (by simp) fun entry mem => ?_
  simp only [List.mem_cons, List.not_mem_nil, or_false] at mem
  rcases mem with rfl | rfl
  · exact .bool _
  · exact u64Content_unmarked _

/-- or of pod discovery. -/
theorem PodDiscoveryConfig.serialize_unmarked (discovery : PodDiscoveryConfig) :
    Unmarked 'v' discovery.serialize := by
  refine .map (by simp) fun entry mem => ?_
  rw [List.mem_singleton] at mem
  subst mem
  exact .str _

/-- So the version is marked in a printed configuration. -/
theorem AgentRuntimeConfig.serialize_marked (config : AgentRuntimeConfig) :
    Marked 'v' config.serialize := by
  refine .map (by simp) fun entry mem => ?_
  simp only [List.mem_cons, List.not_mem_nil, or_false] at mem
  rcases mem with rfl | rfl | rfl | rfl | rfl | rfl | rfl | rfl | rfl
  · exact .str _
  · exact AgentRuntimeSettings.serialize_unmarked _
  · exact StorageConfig.serialize_unmarked _
  · exact CollectorConfig.serialize_unmarked _
  · exact CollectorConfig.serialize_unmarked _
  · exact CollectorConfig.serialize_unmarked _
  · exact CollectorConfig.serialize_unmarked _
  · exact PodDiscoveryConfig.serialize_unmarked _
  · exact CollectorConfig.serialize_unmarked _

/-- Two configurations with one text are the same. -/
theorem AgentRuntimeConfig.print_serialize_inj {config config' : AgentRuntimeConfig}
    (same : print compact 0 config.serialize = print compact 0 config'.serialize) :
    config = config' := by
  have read := parseText_printText compact_blank config.serialize_fits
  rw [printText, same, ← printText, parseText_printText compact_blank config'.serialize_fits] at read
  have decoded := congrArg (AgentRuntimeConfig.deserialize .json) (Option.some.inj read)
  rw [deserialize_serialize, deserialize_serialize] at decoded
  exact (Option.some.inj decoded).symm

/-! ## The bytes hashed -/

/-- The bytes that `effectiveConfigVersion` hashes. -/
def versionPreimage (hostname : String) (runtime : AgentRuntimeConfig) : ByteArray :=
  hostname.toUTF8 ++ (printText compact (runtime.withVersion "").serialize).toUTF8

/-- The version is the hash of its pre-image in hexadecimal. -/
theorem effectiveConfigVersion_eq (hostname : String) (runtime : AgentRuntimeConfig) :
    effectiveConfigVersion hostname runtime =
      "cfg-" ++ hex16 (fnv1a64 (versionPreimage hostname runtime)) := rfl

/-- Clearing the version loses nothing but the version. -/
theorem AgentRuntimeConfig.withVersion_inj {config config' : AgentRuntimeConfig} {version : String} :
    config.withVersion version = config'.withVersion version ↔
      config.withVersion config'.version = config' := by
  constructor
  · intro same
    have stamped := congrArg (fun c => AgentRuntimeConfig.withVersion c config'.version) same
    exact stamped
  · intro same
    have stamped := congrArg (fun c => AgentRuntimeConfig.withVersion c version) same
    exact stamped

variable {hostname hostname' : String} {runtime runtime' : AgentRuntimeConfig}

/-- The bytes hashed determine the hostname and everything of the configuration but its version. -/
theorem versionPreimage_inj :
    versionPreimage hostname runtime = versionPreimage hostname' runtime' ↔
      hostname = hostname' ∧ runtime.withVersion runtime'.version = runtime' := by
  constructor
  · intro same
    have texts : hostname ++ printText compact (runtime.withVersion "").serialize =
        hostname' ++ printText compact (runtime'.withVersion "").serialize := by
      refine String.toByteArray_inj.mp ?_
      rw [String.toByteArray_append, String.toByteArray_append]
      exact same
    have chars := congrArg String.toList texts
    rw [String.toList_append, String.toList_append, printText, printText, String.toList_ofList,
      String.toList_ofList] at chars
    obtain ⟨name, document⟩ :=
      (AgentRuntimeConfig.serialize_marked _).append_print_inj key_v
        (AgentRuntimeConfig.serialize_marked _) chars
    exact ⟨String.toList_inj.mp name,
      AgentRuntimeConfig.withVersion_inj.mp (AgentRuntimeConfig.print_serialize_inj document)⟩
  · intro alike
    obtain ⟨name, same⟩ := alike
    rw [versionPreimage, versionPreimage, name, AgentRuntimeConfig.withVersion_inj.mpr same]

/-! ## The spelling of a hash -/

/-- The value of hexadecimal digits. -/
def hexDigitsValue (cs : List Char) : ℕ :=
  cs.foldl (fun n c => 16 * n + (hexValue c).getD 0) 0

/-- The last digit counts once, the others sixteen times more. -/
theorem hexDigitsValue_append_singleton (cs : List Char) (c : Char) :
    hexDigitsValue (cs ++ [c]) = 16 * hexDigitsValue cs + (hexValue c).getD 0 := by
  rw [hexDigitsValue, List.foldl_append]
  rfl

/-- A number is the value of its digits. -/
theorem hexDigitsValue_toDigits (n : ℕ) : hexDigitsValue (Nat.toDigits 16 n) = n := by
  have digit : ∀ d < 16, (hexValue d.digitChar).getD 0 = d := by decide
  induction n using Nat.strongRecOn with
  | ind n ih =>
    by_cases small : n < 16
    · rw [Nat.toDigits_of_lt_base small]
      show 16 * 0 + (hexValue n.digitChar).getD 0 = n
      rw [digit n small]
      omega
    · rw [Nat.toDigits_of_base_le (by decide) (by omega), hexDigitsValue_append_singleton,
        ih (n / 16) (by omega), digit _ (Nat.mod_lt n (by decide))]
      omega

/-- Leading zeros do not count. -/
theorem hexDigitsValue_zeros (zeros : ℕ) (cs : List Char) :
    hexDigitsValue (List.replicate zeros '0' ++ cs) = hexDigitsValue cs := by
  induction zeros with
  | zero => rfl
  | succ zeros ih => exact ih

/-- Different hashes are spelled differently. -/
theorem hex16_inj {n m : UInt64} : hex16 n = hex16 m ↔ n = m := by
  constructor
  · intro same
    have values := congrArg (fun s => hexDigitsValue (String.toList s)) same
    simp only [hex16, String.toList_ofList, hexDigitsValue_zeros, hexDigitsValue_toDigits] at values
    exact UInt64.toNat_inj.mp values
  · intro same
    rw [same]

/-- **The pre-image of a version is unambiguous**, so two effective configurations share a version
exactly when the hash takes one value at what are then different bytes. -/
theorem version_preimage_unambiguous (hostname hostname' : String)
    (runtime runtime' : AgentRuntimeConfig) :
    (versionPreimage hostname runtime = versionPreimage hostname' runtime' ↔
      hostname = hostname' ∧ runtime.withVersion runtime'.version = runtime') ∧
    (effectiveConfigVersion hostname runtime = effectiveConfigVersion hostname' runtime' ↔
      fnv1a64 (versionPreimage hostname runtime) =
        fnv1a64 (versionPreimage hostname' runtime')) := by
  refine ⟨versionPreimage_inj, ?_⟩
  rw [effectiveConfigVersion_eq, effectiveConfigVersion_eq, String.append_right_inj, hex16_inj]

end Talia
