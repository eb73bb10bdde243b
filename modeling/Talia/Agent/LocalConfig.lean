import Talia.Core.ConfigSerde

/-!
# The cached configuration

The agent keeps the last configuration it applied in its state directory, as JSON. Saving writes
the file in place: the directory is created, the file opened and truncated, the bytes written. A
save can stop short at each of these points (`SaveFault`); what it leaves behind is a prefix of
the new contents.

A saved configuration that is valid loads as it was saved (`load_save`). A proper prefix of saved
contents loads as nothing (`load_torn`): it is not UTF-8, or it is not JSON. What a crash of the whole
host leaves of a file is not covered, since the file is never synced.
-/

namespace Talia

/-- A state directory, and the contents of its configuration file if there is one. -/
structure StateDir where
  path : String
  lastConfig : Option ByteArray

/-- Where a save stops: before the directory is there, before the file is open, or with that many
bytes written. Opening the file truncates it. -/
inductive SaveFault where
  | createDir
  | openFile
  | write (written : Nat)

inductive SaveError where
  | createStateDirectory (path : String)
  | writeLastKnownConfig
  deriving DecidableEq

def SaveError.message : SaveError → String
  | .createStateDirectory path => "failed to create state directory " ++ path
  | .writeLastKnownConfig => "failed to write last known config"

/-- The contents of the file of a configuration: its JSON, indented. -/
def savedBytes (config : AgentRuntimeConfig) : ByteArray :=
  (Json.printText Json.pretty config.serialize).toUTF8

/-- Saves a configuration, stopping at the fault if there is one. -/
def saveLastKnownConfig (fault : Option SaveFault) (dir : StateDir) (config : AgentRuntimeConfig) :
    StateDir × Except SaveError Unit :=
  match fault with
  | none => ({ dir with lastConfig := some (savedBytes config) }, .ok ())
  | some .createDir => (dir, .error (.createStateDirectory dir.path))
  | some .openFile => (dir, .error .writeLastKnownConfig)
  | some (.write written) =>
    ({ dir with lastConfig := some ((savedBytes config).extract 0 written) },
      .error .writeLastKnownConfig)

/-- The cached configuration: nothing if the file is missing, is not JSON of a configuration, or
holds one that is not valid. -/
def loadLastKnownConfig (dir : StateDir) : Option AgentRuntimeConfig := do
  let bytes ← dir.lastConfig
  let contents ← Text.decodeUtf8 bytes
  let content ← Json.parseText contents
  let config ← AgentRuntimeConfig.deserialize .json content
  if config.Valid then some config else none

/-- The configuration an agent starts with. -/
def initialRuntimeConfig (bootstrap : AgentBootstrapConfig) (dir : StateDir) :
    AgentRuntimeConfig :=
  (loadLastKnownConfig dir).getD bootstrap.fallbackRuntimeConfig

/-! ## Saved contents -/

/-- The whole contents load as the configuration, if it is valid. -/
theorem load_savedBytes (path : String) (config : AgentRuntimeConfig) :
    loadLastKnownConfig ⟨path, some (savedBytes config)⟩ =
      if config.Valid then some config else none := by
  have decoded : Text.decodeUtf8 (savedBytes config) =
      some (Json.printText Json.pretty config.serialize) :=
    Text.decodeUtf8_toByteArray _
  have parsed := Json.parseText_printText Json.pretty_blank config.serialize_fits
  rw [loadLastKnownConfig, Option.bind_eq_bind, Option.bind_some, decoded, Option.bind_eq_bind,
    Option.bind_some, parsed, Option.bind_eq_bind, Option.bind_some,
    AgentRuntimeConfig.deserialize_serialize, Option.bind_eq_bind, Option.bind_some]

/-- **A saved configuration loads as it was saved.** -/
theorem load_save (dir : StateDir) {config : AgentRuntimeConfig} (valid : config.Valid) :
    loadLastKnownConfig (saveLastKnownConfig none dir config).1 = some config := by
  rw [saveLastKnownConfig, load_savedBytes, if_pos valid]

/-- **Torn contents load as nothing.** -/
theorem load_torn (path : String) (config : AgentRuntimeConfig) {written : Nat}
    (short : written < (savedBytes config).size) :
    loadLastKnownConfig ⟨path, some ((savedBytes config).extract 0 written)⟩ = none := by
  simp only [loadLastKnownConfig, Option.bind_eq_bind, Option.bind_some]
  cases decoded : Text.decodeUtf8 ((savedBytes config).extract 0 written) with
  | none => rfl
  | some contents =>
    have torn : Json.parseText contents = none :=
      Json.parseText_none_of_printText Json.pretty_blank config.serialize_fits trivial
        (Text.prefix_of_extract decoded) (Text.ne_of_extract short decoded)
    rw [Option.bind_some, torn]
    rfl

/-- **A cached configuration is read back exactly or not at all**: the whole contents give the
configuration that was saved, and no proper prefix of them, the empty one included, gives any. -/
theorem load_cached_exact (dir : StateDir) {config : AgentRuntimeConfig} (valid : config.Valid) :
    loadLastKnownConfig (saveLastKnownConfig none dir config).1 = some config ∧
      ∀ written < (savedBytes config).size,
        loadLastKnownConfig ⟨dir.path, some ((savedBytes config).extract 0 written)⟩ = none :=
  ⟨load_save dir valid, fun _ short => load_torn dir.path config short⟩

theorem load_cached_exact_default :
    loadLastKnownConfig (saveLastKnownConfig none ⟨"/var/lib/talia", none⟩ .default).1 =
        some .default ∧
      ∀ written < (savedBytes .default).size,
        loadLastKnownConfig ⟨"/var/lib/talia", some ((savedBytes .default).extract 0 written)⟩ =
          none :=
  load_cached_exact ⟨"/var/lib/talia", none⟩ (by decide +kernel)

/-! ## Saves that fail -/

/-- The state directory after one configuration was saved and the save of another one failed. -/
def afterFailedSave (fault : SaveFault) (dir : StateDir) (cached config : AgentRuntimeConfig) :
    StateDir :=
  (saveLastKnownConfig (some fault) (saveLastKnownConfig none dir cached).1 config).1

/-- A failed save leaves something to load: it stops before the file is truncated, or only after
all the bytes of a valid configuration are written. -/
def SaveFault.Spares (config : AgentRuntimeConfig) : SaveFault → Prop
  | .createDir => True
  | .openFile => True
  | .write written => (savedBytes config).size ≤ written ∧ config.Valid

theorem afterFailedSave_write (dir : StateDir) (cached config : AgentRuntimeConfig)
    (written : Nat) :
    afterFailedSave (.write written) dir cached config =
      ⟨dir.path, some ((savedBytes config).extract 0 written)⟩ := rfl

/-- What loads after the bytes written were cut: the new configuration, if all of it was written
and it is valid. -/
theorem load_afterFailedSave_write (dir : StateDir) (cached config : AgentRuntimeConfig)
    (written : Nat) :
    loadLastKnownConfig (afterFailedSave (.write written) dir cached config) =
      if (savedBytes config).size ≤ written ∧ config.Valid then some config else none := by
  rw [afterFailedSave_write]
  rcases Nat.lt_or_ge written (savedBytes config).size with short | all
  · rw [load_torn _ _ short, if_neg (by omega)]
  · rw [Text.extract_of_size_le all, load_savedBytes]
    simp only [all, true_and]

/-- **What a failed save leaves of a valid cached configuration.** It, or the new one, is there to
load exactly when the save stopped before truncating the file or after writing all of it. -/
theorem load_afterFailedSave_iff (dir : StateDir) {cached : AgentRuntimeConfig}
    (valid : cached.Valid) (config : AgentRuntimeConfig) (fault : SaveFault) :
    (loadLastKnownConfig (afterFailedSave fault dir cached config) = some cached ∨
      loadLastKnownConfig (afterFailedSave fault dir cached config) = some config) ↔
      fault.Spares config := by
  have kept := load_save dir valid
  cases fault with
  | createDir => exact ⟨fun _ => trivial, fun _ => .inl kept⟩
  | openFile => exact ⟨fun _ => trivial, fun _ => .inl kept⟩
  | write written =>
    rw [load_afterFailedSave_write, SaveFault.Spares]
    by_cases spared : (savedBytes config).size ≤ written ∧ config.Valid
    · rw [if_pos spared]
      exact ⟨fun _ => spared, fun _ => .inr rfl⟩
    · rw [if_neg spared]
      constructor
      · rintro (h | h) <;> cases h
      · exact fun h => absurd h spared

/-- A save over the defaults that fails to open the file. -/
theorem load_afterFailedSave_iff_openFile :
    (loadLastKnownConfig (afterFailedSave .openFile ⟨"/var/lib/talia", none⟩ .default
        (.withVersion .default "cfg-1")) = some .default ∨
      loadLastKnownConfig (afterFailedSave .openFile ⟨"/var/lib/talia", none⟩ .default
        (.withVersion .default "cfg-1")) = some (.withVersion .default "cfg-1")) ↔
      SaveFault.openFile.Spares (.withVersion .default "cfg-1") :=
  load_afterFailedSave_iff ⟨"/var/lib/talia", none⟩ (by decide +kernel) _ .openFile

/-- **The cached configuration can be lost**: truncating the file for a new one and stopping there
leaves neither. -/
theorem last_known_config_lost :
    ∃ (dir : StateDir) (cached config : AgentRuntimeConfig) (fault : SaveFault),
      cached.Valid ∧ config.Valid ∧
      loadLastKnownConfig (saveLastKnownConfig none dir cached).1 = some cached ∧
      loadLastKnownConfig (afterFailedSave fault dir cached config) = none := by
  have valid : AgentRuntimeConfig.default.Valid := by decide +kernel
  have torn : (savedBytes (.withVersion .default "cfg-1")).extract 0 0 = ByteArray.empty := by
    apply ByteArray.ext
    rw [ByteArray.data_extract]
    exact Array.extract_zero
  refine ⟨⟨"/var/lib/talia", none⟩, .default, .withVersion .default "cfg-1", .write 0, valid,
    by decide +kernel, load_save _ valid, ?_⟩
  rw [afterFailedSave_write, torn]
  decide +kernel

end Talia
