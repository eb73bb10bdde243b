import Talia.Core.Settings
import Talia.Core.Version
import Talia.Lib.Rounds

/-!
# Edits that a version shows

The hash behind a version takes its bytes one round each, and no round loses anything, so one byte
changed in what is hashed changes the hash (`fnv1a64_ne_of_edited`). One byte of a file is such a
change, and so is one digit of an interval of an effective configuration: an interval stands at one
place in the configuration's text (`frames_setting`), and its digits are a byte each there. Files that
differ in more than that may have one version.
-/

namespace Talia

open Json Rounds Serde

/-! ## The hash -/

/-- A round of the hash loses nothing: the factor is odd. -/
theorem lossless_fnv1a64 : Lossless fun (hash : UInt64) (byte : UInt8) =>
    (hash ^^^ byte.toUInt64) * 0x100000001b3 :=
  lossless_xor_mul (by decide) fun _ _ same => UInt8.toUInt64_inj.mp same

/-- One edited byte changes the hash. -/
theorem fnv1a64_ne_of_edited {bytes bytes' : ByteArray}
    (edited : Edited bytes.data.toList bytes'.data.toList) : fnv1a64 bytes ≠ fnv1a64 bytes' :=
  lossless_fnv1a64.foldl_ne_of_edited _ edited

/-! ## The bytes of a text -/

/-- Two digits are a byte each, and not the same. -/
theorem exists_byte_of_isDigit {a b : Char} (first : a.isDigit) (second : b.isDigit)
    (apart : a ≠ b) :
    ∃ c d, String.utf8EncodeChar a = [c] ∧ String.utf8EncodeChar b = [d] ∧ c ≠ d := by
  have small {c : Char} (digit : c.isDigit) : c.val.toNat < 128 := by
    simp only [Char.isDigit, Bool.and_eq_true, decide_eq_true_eq, UInt32.le_iff_toNat_le] at digit
    exact Nat.lt_of_le_of_lt digit.2 (by decide)
  refine ⟨_, _, Text.utf8EncodeChar_of_lt (small first), Text.utf8EncodeChar_of_lt (small second),
    fun same => apart ?_⟩
  have values := congrArg UInt8.toNat same
  rw [UInt32.toNat_toUInt8, UInt32.toNat_toUInt8, Nat.mod_eq_of_lt, Nat.mod_eq_of_lt] at values
  · exact Char.ext (UInt32.toNat_inj.mp values)
  · exact Nat.lt_trans (small second) (by decide)
  · exact Nat.lt_trans (small first) (by decide)

/-- A digit of a number in a text is a byte of it. -/
theorem edited_bytes {n m : ℕ} (edited : Edited (Nat.toDigits 10 n) (Nat.toDigits 10 m))
    (before after : List Char) :
    Edited (Text.utf8 (String.ofList (before ++ Nat.toDigits 10 n ++ after)))
      (Text.utf8 (String.ofList (before ++ Nat.toDigits 10 m ++ after))) := by
  have digits : Edited ((Nat.toDigits 10 n).flatMap String.utf8EncodeChar)
      ((Nat.toDigits 10 m).flatMap String.utf8EncodeChar) := by
    refine edited.flatMap fun a b first second apart => ?_
    exact exists_byte_of_isDigit (Nat.isDigit_of_mem_toDigits (by decide) (by decide) first)
      (Nat.isDigit_of_mem_toDigits (by decide) (by decide) second) apart
  simp only [Text.utf8_eq_flatMap, String.toList_ofList, List.flatMap_append]
  exact (digits.append_left _).append_right _

/-! ## Where a setting stands -/

section Place

variable (leaf : Setting → Content)

/-- No two settings of a section have one name. -/
theorem settings_nodup (s : ConfigSection) :
    ((Json.table Setting.field leaf s.settings).map Prod.fst).Nodup := by
  rw [Json.table, List.map_map]
  refine List.Nodup.map_on ?_ ?_
  · intro first mem second mem' same
    exact Setting.field_inj
      ((Setting.home_of_mem mem).trans (Setting.home_of_mem mem').symm) same
  · cases s with
    | collector kind => simp [ConfigSection.settings]
    | _ => decide

/-- No two sections have one name, nor that of the version. -/
theorem sections_nodup (version : String) :
    ((("version", .str version) :: Json.table ConfigSection.name (·.table leaf)
      ConfigSection.all).map Prod.fst).Nodup := by
  rw [List.map_cons, Json.table, List.map_map, List.nodup_cons]
  constructor
  · intro mem
    obtain ⟨s, -, same⟩ := List.mem_map.mp mem
    exact s.name_ne_version same.symm
  · exact List.Nodup.map (fun _ _ => ConfigSection.name_inj) (by decide)

/-- The list of the sections has them all. -/
theorem ConfigSection.mem_all (s : ConfigSection) : s ∈ ConfigSection.all := by
  cases s with
  | collector kind => cases kind <;> decide
  | _ => decide

/-- A setting stands at one place in the text of a configuration. -/
theorem frames_setting (f : Layout) (version : String) (setting : Setting) :
    Frames f 0 fun c => settingTree (Function.update leaf setting c) version := by
  have field : setting.field ∈
      (Json.table Setting.field leaf setting.home.settings).map Prod.fst := by
    rw [Json.table, List.map_map]
    exact List.mem_map_of_mem setting.mem_settings
  have name : setting.home.name ∈ (("version", .str version) ::
      Json.table ConfigSection.name (·.table leaf) ConfigSection.all).map Prod.fst := by
    rw [List.map_cons, Json.table, List.map_map]
    exact List.mem_cons_of_mem _ (List.mem_map_of_mem setting.home.mem_all)
  have framed := ((frames_id f 2).put (settings_nodup leaf setting.home) field).put
    (sections_nodup leaf version) name
  have same : (fun c => settingTree (Function.update leaf setting c) version) = fun c =>
      Json.put setting.home.name (Json.put setting.field c (setting.home.table leaf))
        (settingTree leaf version) :=
    funext fun c => (put_setting leaf version setting c).symm
  rw [same]
  exact framed

end Place

/-! ## Intervals -/

/-- The settings that are intervals, in seconds. -/
inductive Interval where
  | configPoll
  | heartbeat
  | storage
  | collector (kind : CollectorSection)

namespace Interval

def setting : Interval → Setting
  | .configPoll => .configPollIntervalSeconds
  | .heartbeat => .heartbeatIntervalSeconds
  | .storage => .storageIntervalSeconds
  | .collector kind => .intervalSeconds kind

/-- The interval of a configuration. -/
def value : Interval → AgentRuntimeConfig → UInt64
  | .configPoll, runtime => runtime.agent.configPollIntervalSeconds
  | .heartbeat, runtime => runtime.agent.heartbeatIntervalSeconds
  | .storage, runtime => runtime.storage.intervalSeconds
  | .collector kind, runtime => (kind.config runtime).intervalSeconds

/-- An interval is written as its number. -/
theorem encode_value (interval : Interval) (runtime : AgentRuntimeConfig) :
    interval.setting.encode (interval.setting.value runtime) =
      u64Content (interval.value runtime) := by
  cases interval <;> rfl

/-- A number is printed in decimal. -/
theorem print_u64Content (f : Layout) (indent : ℕ) (n : UInt64) :
    print f indent (u64Content n) = Nat.toDigits 10 n.toNat := by
  rw [u64Content, print, printInt, if_neg (by omega)]
  rfl

/-- Two configurations that differ in one digit of an interval and in nothing else. -/
structure EditedIn (interval : Interval) (runtime runtime' : AgentRuntimeConfig) : Prop where
  digit : Edited (Nat.toDigits 10 (interval.value runtime).toNat)
    (Nat.toDigits 10 (interval.value runtime').toNat)
  others : ∀ other : Setting, other ≠ interval.setting → other.value runtime = other.value runtime'

/-- The bytes that a version is the hash of differ in one. -/
theorem EditedIn.versionPreimage {interval : Interval} {runtime runtime' : AgentRuntimeConfig}
    (edited : interval.EditedIn runtime runtime') (hostname : String) :
    Edited (versionPreimage hostname runtime).data.toList
      (versionPreimage hostname runtime').data.toList := by
  obtain ⟨depth, before, after, framed⟩ :=
    frames_setting (fun setting => setting.encode (setting.value runtime)) compact "" interval.setting
  have text {config : AgentRuntimeConfig} (rest : ∀ other : Setting, other ≠ interval.setting →
      other.value runtime = other.value config) :
      printText compact (config.withVersion "").serialize =
        String.ofList (before ++ Nat.toDigits 10 (interval.value config).toNat ++ after) := by
    have leaves : (fun setting : Setting => setting.encode (setting.value config)) =
        Function.update (fun setting => setting.encode (setting.value runtime)) interval.setting
          (u64Content (interval.value config)) := by
      funext setting
      by_cases own : setting = interval.setting
      · subst own
        rw [Function.update_self, encode_value]
      · rw [Function.update_of_ne own, rest setting own]
    rw [serialize_eq_settingTree]
    simp only [Setting.value_withVersion]
    rw [leaves, printText]
    exact congrArg String.ofList
      ((framed (u64Content (interval.value config))).trans (by rw [print_u64Content]))
  have bytes (config : AgentRuntimeConfig) : (Talia.versionPreimage hostname config).data.toList =
      hostname.toUTF8.data.toList ++
        (printText compact (config.withVersion "").serialize).toUTF8.data.toList := by
    rw [Talia.versionPreimage, ByteArray.data_append, Array.toList_append]
  rw [bytes, bytes, text fun _ _ => rfl, text edited.others]
  exact (edited_bytes edited.digit before after).append_left _

end Interval

/-- **An edit of one byte changes the hash**, wherever it is; so it changes the version of a
configuration file, and an edit of one digit of an interval changes the version of the
configuration that a host resolves to. -/
theorem one_edit_changes_version :
    (∀ (p s : List UInt8) (a b : UInt8), a ≠ b →
      fnv1a64 (p ++ [a] ++ s).toByteArray ≠ fnv1a64 (p ++ [b] ++ s).toByteArray) ∧
    (∀ contents contents' : String,
      Edited contents.toUTF8.data.toList contents'.toUTF8.data.toList →
      configSourceVersion contents ≠ configSourceVersion contents') ∧
    (∀ (hostname : String) (runtime runtime' : AgentRuntimeConfig) (interval : Interval),
      interval.EditedIn runtime runtime' →
      effectiveConfigVersion hostname runtime ≠ effectiveConfigVersion hostname runtime') ∧
    (∀ (file file' : ControlConfigFile) (hostname : String) (runtime runtime' : AgentRuntimeConfig)
      (interval : Interval), file.runtimeConfigFor hostname = .ok runtime →
      file'.runtimeConfigFor hostname = .ok runtime' → interval.EditedIn runtime runtime' →
      runtime.version ≠ runtime'.version) := by
  have versions (hostname : String) (runtime runtime' : AgentRuntimeConfig) (interval : Interval)
      (edited : interval.EditedIn runtime runtime') :
      effectiveConfigVersion hostname runtime ≠ effectiveConfigVersion hostname runtime' := by
    intro same
    rw [effectiveConfigVersion_eq, effectiveConfigVersion_eq, String.append_right_inj,
      hex16_inj] at same
    exact fnv1a64_ne_of_edited (edited.versionPreimage hostname) same
  refine ⟨?_, ?_, versions, ?_⟩
  · intro p s a b apart
    apply fnv1a64_ne_of_edited
    rw [List.toList_data_toByteArray, List.toList_data_toByteArray]
    exact ⟨p, s, a, b, apart, rfl, rfl⟩
  · intro contents contents' edited same
    rw [configSourceVersion, configSourceVersion, String.append_right_inj, hex16_inj] at same
    exact fnv1a64_ne_of_edited edited same
  · intro file file' hostname runtime runtime' interval first second edited
    -- The version itself is not hashed.
    have version {file : ControlConfigFile} {runtime : AgentRuntimeConfig}
        (resolved : file.runtimeConfigFor hostname = .ok runtime) :
        runtime.version = effectiveConfigVersion hostname runtime := by
      rw [ControlConfigFile.eq_of_runtimeConfigFor resolved]
      rfl
    rw [version first, version second]
    exact versions hostname runtime runtime' interval edited

/-- The memory interval of a host edited from 60 to 65. -/
theorem one_edit_changes_version_memory :
    fnv1a64 [0x36, 0x30].toByteArray ≠ fnv1a64 [0x36, 0x35].toByteArray ∧
      configSourceVersion "60" ≠ configSourceVersion "65" ∧
      ∃ runtime runtime' : AgentRuntimeConfig,
        ControlConfigFile.runtimeConfigFor {} "web-1" = .ok runtime ∧
        ControlConfigFile.runtimeConfigFor
          { defaults := { memory := { intervalSeconds := some 65 } } } "web-1" = .ok runtime' ∧
        runtime.version ≠ runtime'.version := by
  obtain ⟨bytes, sources, -, runtimes⟩ := one_edit_changes_version
  obtain ⟨runtime, first⟩ :=
    (ControlConfigFile.runtimeConfigFor_ok_iff {} "web-1").mpr (by rfl)
  obtain ⟨runtime', second⟩ := (ControlConfigFile.runtimeConfigFor_ok_iff
    { defaults := { memory := { intervalSeconds := some 65 } } } "web-1").mpr (by rfl)
  refine ⟨bytes [0x36] [] 0x30 0x35 (by decide), sources "60" "65" ?_, runtime, runtime', first,
    second, runtimes _ _ "web-1" runtime runtime' (.collector .memory) first second ?_⟩
  · exact ⟨[0x36], [], 0x30, 0x35, by decide, by decide, by decide⟩
  · rw [ControlConfigFile.eq_of_runtimeConfigFor first,
      ControlConfigFile.eq_of_runtimeConfigFor second]
    refine ⟨⟨['6'], [], '0', '5', by decide, by decide, by decide⟩, fun other apart => ?_⟩
    rw [Setting.value_withVersion, Setting.value_withVersion]
    cases other with
    | intervalSeconds kind =>
      cases kind with
      | memory => exact absurd rfl apart
      | _ => rfl
    | enabled kind => cases kind <;> rfl
    | _ => rfl

end Talia
