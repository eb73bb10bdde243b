import Talia.Agent.Runner
import Talia.Core.Settings
import Talia.Lib.Split

/-!
# Settings from the command line

`--set KEY=VALUE` changes a setting for one run of a provider. The assignments are made one after the
other in a JSON tree of the configuration, which is then decoded and validated. The tree has no
types: between assignments a leaf may be null, a text or a table, and what it takes next depends on
which it is.

What comes out is as if there were types. `provider_overrides_exact`: a result has every setting at
its last assignment and the rest as it was, and every valid configuration that differs only where the
provider's assignments reach is a result.
-/

namespace Talia

open Serde

/-! ## Assignments -/

inductive OverrideError where
  | unknownProvider (name : String)
  | expectedAssignment (assignment : String)
  | invalidAssignment (assignment : String)
  | invalidName (key : String)
  | unknownSection (section' : String)
  | notTable (key : String)
  | unknownSetting (key provider section' : String) (available : List String)
  | invalidQuoted (key : String)
  | invalidValue (key : String)
  | invalidSettings
  | invalid (error : ConfigError)
  deriving DecidableEq

/-- The text an error is shown as, before its cause. -/
def OverrideError.message : OverrideError → String
  | .unknownProvider name =>
    "unknown provider '" ++ name ++ "'; known providers: " ++
      ", ".intercalate (collectorSpecs.map CollectorSpec.name)
  | .expectedAssignment assignment =>
    "expected KEY=VALUE after --set, got '" ++ assignment ++ "'"
  | .invalidAssignment assignment => "invalid --set '" ++ assignment ++ "'"
  | .invalidName key => "invalid setting name '" ++ key ++ "'"
  | .unknownSection section' => "unknown provider config section '" ++ section' ++ "'"
  | .notTable key => "setting '" ++ key ++ "' is not a table"
  | .unknownSetting key provider section' available =>
    "unknown setting '" ++ key ++ "' for provider '" ++ provider ++
      "'; available in [" ++ section' ++ "]: " ++ ", ".intercalate available
  | .invalidQuoted key => "invalid quoted value for '" ++ key ++ "'"
  | .invalidValue key => "invalid value for '" ++ key ++ "': expected a JSON literal"
  | .invalidSettings => "invalid provider settings from --set"
  | .invalid _ => "provider settings from --set are invalid"

/-- Looks up a collector spec by provider name. -/
def collectorSpec (name : String) : Except OverrideError CollectorSpec :=
  match collectorSpecs.find? (·.name = name) with
  | some spec => .ok spec
  | none => .error (.unknownProvider name)

/-- The text of an assignment to a text. -/
def readText (raw : String) : Option String :=
  if raw.toList.head? = some '"' then (Json.parseText raw).bind str else some raw

/-- What a leaf becomes. -/
def assignLeaf (key raw : String) (target : Content) : Except OverrideError Content :=
  match target with
  | .str _ =>
    match readText raw with
    | some text => .ok (.str text)
    | none => .error (.invalidQuoted key)
  | _ =>
    match Json.parseContent raw with
    | some value => .ok (Json.tree value)
    | none => .error (.invalidValue key)

/-- What a node becomes when the value goes to a path below it. -/
def assignAt (key raw provider section' : String) :
    List String → Content → Except OverrideError Content
  | [], target => assignLeaf key raw target
  | field :: fields, target =>
    match target with
    | .map table =>
      match Json.get? field (.map table) with
      | some child =>
        (assignAt key raw provider section' fields child).map (Json.put field · (.map table))
      | none =>
        .error (.unknownSetting key provider section' (table.map Prod.fst))
    | _ => .error (.notTable key)

/-- The section of a key, and the path in it. -/
def locate (provider key : String) : String × List String :=
  match Text.split key '.' with
  | [] => (provider, [])
  | first :: fields =>
    if first = provider ∨ (provider = "tcp" ∧ first = "pod_discovery") then (first, fields)
    else (provider, first :: fields)

/-- The key and the value of an assignment. -/
def keyValue (assignment : String) : Option (String × String) :=
  (Text.splitOnce "=" assignment).map fun parts => (Text.trim parts.1, Text.trim parts.2)

def assign (provider : String) (value : Content) (assignment : String) :
    Except OverrideError Content :=
  match keyValue assignment with
  | none => .error (.expectedAssignment assignment)
  | some (key, raw) =>
    if key = "" ∨ raw = "" then .error (.invalidAssignment assignment)
    else if (locate provider key).2 = [] ∨ "" ∈ (locate provider key).2 then
      .error (.invalidName key)
    else
      match Json.get? (locate provider key).1 value with
      | none => .error (.unknownSection (locate provider key).1)
      | some target =>
        (assignAt key raw provider (locate provider key).1 (locate provider key).2 target).map
          (Json.put (locate provider key).1 · value)

/-- Applies settings of the command line only to the selected provider (or its shared inputs). -/
def withProviderOverrides (config : AgentRuntimeConfig) (provider : String)
    (overrides : List String) : Except OverrideError AgentRuntimeConfig := do
  let _ ← collectorSpec provider
  if overrides = [] then .ok config
  else do
    let value ← overrides.foldlM (assign provider) config.serialize
    match AgentRuntimeConfig.deserialize .json value with
    | none => .error .invalidSettings
    | some config =>
      match config.validate with
      | .ok () => .ok config
      | .error error => .error (.invalid error)

/-! ## What assignments say -/

/-- Assignments for the provider reach the setting. -/
def Setting.Reached (provider : String) (setting : Setting) : Prop :=
  setting.home.name = provider ∨ (provider = "tcp" ∧ setting.home = .podDiscovery)

instance (provider : String) (setting : Setting) : Decidable (setting.Reached provider) :=
  inferInstanceAs (Decidable (_ ∨ _))

/-- The names of a setting: with its section, and without in the provider's own section. -/
def Setting.names (provider : String) (setting : Setting) : List String :=
  if setting.home.name = provider then [setting.field, setting.home.name ++ "." ++ setting.field]
  else if setting.Reached provider then [setting.home.name ++ "." ++ setting.field]
  else []

/-- What an assignment gives a setting, if it is one to this setting. -/
def Setting.assigned (provider : String) (setting : Setting) (assignment : String) :
    Option String :=
  ((keyValue assignment).filter (·.1 ∈ setting.names provider)).map Prod.snd

/-- The last assignment to a setting. -/
def Setting.lastAssigned (provider : String) (setting : Setting) (overrides : List String) :
    Option String :=
  (overrides.filterMap (setting.assigned provider)).getLast?

/-- The value an assignment stands for: a text for the setting that is one, else a JSON literal. -/
def Setting.read : (setting : Setting) → String → Option setting.Value
  | .criSocket, raw => readText raw
  | setting, raw => (Json.parseText raw).bind setting.decode

/-- The configurations agree on all that the provider's assignments do not reach. -/
structure Confined (provider : String) (config config' : AgentRuntimeConfig) : Prop where
  version : config'.version = config.version
  outside : ∀ setting : Setting, ¬ setting.Reached provider →
    setting.value config' = setting.value config

/-- A configuration with assignments made. -/
structure Overlaid (provider : String) (overrides : List String)
    (config config' : AgentRuntimeConfig) : Prop extends Confined provider config config' where
  valid : config'.Valid
  assigned : ∀ (setting : Setting) (raw : String),
    setting.lastAssigned provider overrides = some raw →
      setting.read raw = some (setting.value config')
  unassigned : ∀ setting : Setting, setting.lastAssigned provider overrides = none →
    setting.value config' = setting.value config

/-! ## Names -/

namespace Setting

/-- Neither a space nor a character that assignments are split at. -/
def isPlain (c : Char) : Bool := !Text.isWhitespace c && c ≠ '.' && c ≠ '='

/-- A plain character is no white space and separates nothing. -/
theorem isPlain_iff {c : Char} :
    isPlain c = true ↔ Text.isWhitespace c = false ∧ c ≠ '.' ∧ c ≠ '=' := by
  simp [isPlain, and_assoc]

/-- The name of a section separates nothing. -/
theorem name_plain (s : ConfigSection) : s.name.toList.all isPlain = true := by
  rcases s with _ | _ | (_ | _ | _ | _ | _) | _ <;> decide

/-- The fields that settings have. -/
theorem field_mem (setting : Setting) : setting.field ∈
    ["config_poll_interval_seconds", "heartbeat_interval_seconds", "enabled", "interval_seconds",
      "mounts", "cri_socket"] := by
  cases setting <;> simp [field]

/-- Nor does the name of a field. -/
theorem field_plain (setting : Setting) : setting.field.toList.all isPlain = true := by
  have mem := setting.field_mem
  generalize setting.field = field at mem ⊢
  revert field
  decide

/-- So the names fall apart at the dot between them only. -/
theorem dot_notMem {s : String} (plain : s.toList.all isPlain = true) : '.' ∉ s.toList :=
  fun mem => (isPlain_iff.mp (List.all_eq_true.mp plain _ mem)).2.1 rfl

/-- No field is named like a section. -/
theorem field_ne_name (setting : Setting) (s : ConfigSection) : setting.field ≠ s.name := by
  have mem := setting.field_mem
  generalize setting.field = field at mem ⊢
  revert field
  rcases s with _ | _ | (_ | _ | _ | _ | _) | _ <;> decide

end Setting

/-- A provider is named as its section. -/
theorem exists_section {provider : String} (known : provider ∈ collectorSpecs.map CollectorSpec.name) :
    ∃ s : ConfigSection, s.name = provider := by
  simp only [collectorSpecs, List.map_cons, List.map_nil, List.mem_cons, List.not_mem_nil,
    or_false] at known
  rcases known with rfl | rfl | rfl | rfl | rfl | rfl
  · exact ⟨.storage, rfl⟩
  · exact ⟨.collector .memory, rfl⟩
  · exact ⟨.collector .cpu, rfl⟩
  · exact ⟨.collector .network, rfl⟩
  · exact ⟨.collector .tcp, rfl⟩
  · exact ⟨.collector .diskIo, rfl⟩

/-- The section of a key is one that assignments reach. -/
theorem locate_fst (provider key : String) :
    (locate provider key).1 = provider ∨
      (provider = "tcp" ∧ (locate provider key).1 = ConfigSection.podDiscovery.name) := by
  unfold locate
  split
  next => exact .inl rfl
  next first fields _ =>
    split
    next own => exact own
    next => exact .inl rfl

namespace Setting

variable {provider : String} {setting : Setting}

/-- What is out of a provider's reach has no name in its overrides. -/
theorem names_of_not_reached (apart : ¬ setting.Reached provider) : setting.names provider = [] := by
  rw [names, if_neg fun own => apart (.inl own), if_neg apart]

/-- What is in reach can be named by its section and field. -/
theorem qualified_mem_names (reached : setting.Reached provider) :
    setting.home.name ++ "." ++ setting.field ∈ setting.names provider := by
  rw [names]
  by_cases own : setting.home.name = provider
  · simp [own]
  · simp [own, reached]

/-- And that name leads to the setting. -/
theorem locate_qualified (reached : setting.Reached provider) :
    locate provider (setting.home.name ++ "." ++ setting.field) =
      (setting.home.name, [setting.field]) := by
  have parts : Text.split (setting.home.name ++ "." ++ setting.field) '.' =
      [setting.home.name, setting.field] := by
    have split := Text.split_append (dot_notMem (name_plain setting.home)) setting.field
    rw [Text.split_of_notMem (dot_notMem setting.field_plain)] at split
    exact split
  have own : setting.home.name = provider ∨
      (provider = "tcp" ∧ setting.home.name = "pod_discovery") := by
    rcases reached with own | ⟨tcp, home⟩
    · exact .inl own
    · exact .inr ⟨tcp, congrArg ConfigSection.name home⟩
  rw [locate, parts]
  exact if_pos own

/-- **A key locates a setting exactly when it is one of its names.** -/
theorem mem_names_iff (known : provider ∈ collectorSpecs.map CollectorSpec.name) {key : String} :
    key ∈ setting.names provider ↔ locate provider key = (setting.home.name, [setting.field]) := by
  obtain ⟨s, rfl⟩ := exists_section known
  constructor
  · intro mem
    by_cases reached : setting.Reached s.name
    · by_cases qualified : key = setting.home.name ++ "." ++ setting.field
      · rw [qualified, locate_qualified reached]
      · rw [names] at mem
        split at mem
        next own =>
          have bare : key = setting.field := by simpa [qualified] using mem
          have other : ¬ (setting.field = s.name ∨
              (s.name = "tcp" ∧ setting.field = "pod_discovery")) := by
            intro same
            rcases same with same | ⟨-, same⟩
            · exact field_ne_name setting s same
            · exact field_ne_name setting .podDiscovery same
          rw [bare, locate, Text.split_of_notMem (dot_notMem setting.field_plain)]
          show (if _ then _ else _) = _
          rw [if_neg other, own]
        next => exact absurd (by simpa [reached] using mem) qualified
    · rw [names_of_not_reached reached] at mem
      cases mem
  · intro located
    have whole := Text.intercalate_split key '.'
    rw [locate] at located
    split at located
    next => simp at located
    next first fields parts =>
      rw [parts] at whole
      split at located
      next own =>
        obtain ⟨rfl, rfl⟩ := Prod.mk.inj located
        have reached : setting.Reached s.name := by
          rcases own with own | ⟨tcp, own⟩
          · exact .inl own
          · exact .inr ⟨tcp, ConfigSection.name_inj own⟩
        have qualified : setting.home.name ++ "." ++ setting.field = key := by
          rw [← whole, ← String.toList_inj]
          simp
        rw [← qualified]
        exact qualified_mem_names reached
      next =>
        obtain ⟨own, same⟩ := Prod.mk.inj located
        obtain ⟨rfl, rfl⟩ := List.cons.inj same
        have bare : setting.field = key := by
          rw [← whole, ← String.toList_inj]
          simp
        rw [names, if_pos own.symm, ← bare]
        exact List.mem_cons_self

end Setting
/-! ## One assignment -/

section Step

variable {provider : String}

/-- An assignment gives a setting a text if its key is one of the setting's names. -/
theorem Setting.assigned_eq_some_iff {setting : Setting} {assignment raw : String} :
    setting.assigned provider assignment = some raw ↔
      ∃ key, keyValue assignment = some (key, raw) ∧ key ∈ setting.names provider := by
  rw [Setting.assigned]
  cases keyValue assignment with
  | none => simp
  | some parts =>
    obtain ⟨key, value⟩ := parts
    by_cases mem : key ∈ setting.names provider
    · simp [mem]
    · simp only [Option.some.injEq, Prod.mk.injEq, Option.map_eq_some_iff]
      simp [mem]

/-- Under another key it gives the setting nothing. -/
theorem Setting.assigned_eq_none {setting : Setting} {assignment key raw : String}
    (given : keyValue assignment = some (key, raw)) (other : key ∉ setting.names provider) :
    setting.assigned provider assignment = none := by
  rw [Setting.assigned, given]
  simp [other]

/-- What an assignment does to the leaf of a setting: it is one to the setting, or to something
inside what is there. -/
inductive Assigns (provider assignment : String) (setting : Setting) (before : Content) :
    Content → Prop
  | leaf {key raw : String} {after : Content}
      (assigned : setting.assigned provider assignment = some raw)
      (others : ∀ other : Setting, other ≠ setting → other.assigned provider assignment = none)
      (became : assignLeaf key raw before = .ok after) :
      Assigns provider assignment setting before after
  | inside {table table' : List (String × Content)}
      (unassigned : ∀ other : Setting, other.assigned provider assignment = none)
      (was : before = .map table) :
      Assigns provider assignment setting before (.map table')

/-- Below a table there is a table after an assignment. -/
theorem map_of_assignAt {key raw section' field : String} {fields : List String}
    {before after : Content}
    (became : assignAt key raw provider section' (field :: fields) before = .ok after) :
    ∃ table child child', before = .map table ∧ Json.get? field before = some child ∧
      assignAt key raw provider section' fields child = .ok child' ∧
      after = Json.put field child' before := by
  cases before with
  | map table =>
    rw [assignAt] at became
    cases found : Json.get? field (.map table) with
    | none =>
      rw [found] at became
      cases became
    | some child =>
      rw [found] at became
      dsimp only at became
      cases inner : assignAt key raw provider section' fields child with
      | error error =>
        rw [inner] at became
        cases became
      | ok child' =>
        rw [inner] at became
        cases became
        exact ⟨table, child, child', rfl, rfl, inner, rfl⟩
  | _ => cases became

/-- **An assignment changes the leaf of one setting.** -/
theorem assigns_of_assign (known : provider ∈ collectorSpecs.map CollectorSpec.name)
    {leaf : Setting → Content} {version assignment : String} {value' : Content}
    (became : assign provider (settingTree leaf version) assignment = .ok value') :
    ∃ (setting : Setting) (c : Content), Assigns provider assignment setting (leaf setting) c ∧
      value' = settingTree (Function.update leaf setting c) version := by
  rw [assign] at became
  split at became
  next => cases became
  next key raw given =>
    split at became
    next => cases became
    next =>
      split at became
      next => cases became
      next named =>
        -- the section is one of the tree
        obtain ⟨s, located⟩ : ∃ s : ConfigSection, s.name = (locate provider key).1 := by
          obtain ⟨s, own⟩ := exists_section known
          rcases locate_fst provider key with same | ⟨-, same⟩
          · exact ⟨s, own.trans same.symm⟩
          · exact ⟨.podDiscovery, same.symm⟩
        rw [← located, get?_name] at became
        dsimp only at became
        cases at' : assignAt key raw provider s.name (locate provider key).2 (s.table leaf) with
        | error error =>
          rw [at'] at became
          cases became
        | ok table =>
          rw [at'] at became
          cases became
          cases path : (locate provider key).2 with
          | nil => exact absurd (.inl path) named
          | cons field fields =>
            rw [path] at at'
            obtain ⟨_, child, c, -, found, inner, rfl⟩ := map_of_assignAt at'
            obtain ⟨setting, rfl, rfl, rfl⟩ := exists_of_get?_table leaf found
            refine ⟨setting, c, ?_, put_setting leaf version setting c⟩
            cases fields with
            | nil =>
              have whole : locate provider key = (setting.home.name, [setting.field]) :=
                Prod.ext located.symm path
              refine .leaf ?_ ?_ inner
              · exact Setting.assigned_eq_some_iff.mpr
                  ⟨key, given, (Setting.mem_names_iff known).mpr whole⟩
              · intro other apart
                refine Setting.assigned_eq_none given fun mem => apart ?_
                have same := ((Setting.mem_names_iff known).mp mem).symm.trans whole
                obtain ⟨home, field⟩ := Prod.mk.inj same
                exact Setting.field_inj (ConfigSection.name_inj home) (List.cons.inj field).1
            | cons next fields =>
              obtain ⟨before, _, _, was, -, -, rfl⟩ := map_of_assignAt inner
              rw [was]
              refine .inside ?_ rfl
              intro other
              refine Setting.assigned_eq_none given fun mem => ?_
              have same := congrArg Prod.snd ((Setting.mem_names_iff known).mp mem)
              rw [path] at same
              cases (List.cons.inj same).2

end Step
/-! ## Assignments in a row -/

section Row

variable {provider : String}

/-- The last of the assignments that name the setting counts. -/
theorem Setting.lastAssigned_concat (setting : Setting) (overrides : List String)
    (assignment : String) :
    setting.lastAssigned provider (overrides ++ [assignment]) =
      (setting.assigned provider assignment).or (setting.lastAssigned provider overrides) := by
  rw [Setting.lastAssigned, List.filterMap_append, List.getLast?_append]
  cases given : setting.assigned provider assignment with
  | none => simp [given, Setting.lastAssigned]
  | some raw => simp [given]

/-- Each setting but the socket is read as JSON. -/
theorem Setting.read_of_ne {setting : Setting} (other : setting ≠ .criSocket) (raw : String) :
    setting.read raw = (Json.parseText raw).bind setting.decode := by
  cases setting with
  | criSocket => exact absurd rfl other
  | _ => rfl

/-- What becomes of a leaf decodes as the assignment reads. -/
theorem read_of_assignLeaf {setting : Setting} {key raw : String} {before after : Content}
    (became : assignLeaf key raw before = .ok after)
    (text : setting = .criSocket → ∃ s, before = .str s) {v : setting.Value}
    (decoded : setting.decode after = some v) : setting.read raw = some v := by
  by_cases socket : setting = .criSocket
  · subst socket
    obtain ⟨s, rfl⟩ := text rfl
    rw [assignLeaf] at became
    split at became
    next read =>
      cases became
      exact read.trans decoded
    next => cases became
  · rw [assignLeaf.eq_def] at became
    split at became
    next =>
      split at became
      next =>
        cases became
        rw [Setting.decode_str socket] at decoded
        cases decoded
      next => cases became
    next =>
      split at became
      next parsed =>
        cases became
        rw [Setting.decode_tree] at decoded
        rw [Setting.read_of_ne socket, (Json.parseContent_eq_some_iff.mp parsed).1]
        exact decoded
      next => cases became

/-- A tree that assignments have made of a configuration. A leaf that has been assigned to may hold
anything, but what decodes is the last assignment. -/
structure Follows (provider : String) (config : AgentRuntimeConfig) (overrides : List String)
    (leaf : Setting → Content) : Prop where
  text : ∃ s, leaf .criSocket = .str s
  assigned : ∀ (setting : Setting) (raw : String) (v : setting.Value),
    setting.lastAssigned provider overrides = some raw →
      setting.decode (leaf setting) = some v → setting.read raw = some v
  unassigned : ∀ setting : Setting, setting.lastAssigned provider overrides = none →
    leaf setting = setting.encode (setting.value config)

/-- Without overrides the configuration is the one of before. -/
theorem follows_nil (config : AgentRuntimeConfig) :
    Follows provider config [] fun setting => setting.encode (setting.value config) where
  text := ⟨_, rfl⟩
  assigned _ _ _ given := nomatch given
  unassigned _ _ := rfl

/-- An override that is accepted moves the leaf it names, and only that one. -/
theorem Follows.step {config : AgentRuntimeConfig} {overrides : List String}
    {leaf : Setting → Content} (follows : Follows provider config overrides leaf)
    {assignment : String} {setting : Setting} {c : Content}
    (assigns : Assigns provider assignment setting (leaf setting) c) :
    Follows provider config (overrides ++ [assignment]) (Function.update leaf setting c) := by
  -- no other leaf changes, and none is assigned to
  have others (other : Setting) (apart : other ≠ setting) :
      other.assigned provider assignment = none := by
    cases assigns with
    | leaf _ others _ => exact others other apart
    | inside unassigned _ => exact unassigned other
  have last (other : Setting) (apart : other ≠ setting) :
      other.lastAssigned provider (overrides ++ [assignment]) =
        other.lastAssigned provider overrides := by
    rw [Setting.lastAssigned_concat, others other apart]
    rfl
  constructor
  · by_cases socket : setting = .criSocket
    · subst socket
      rw [Function.update_self]
      obtain ⟨s, was⟩ := follows.text
      cases assigns with
      | leaf _ _ became =>
        rw [was, assignLeaf] at became
        split at became
        next text _ =>
          cases became
          exact ⟨text, rfl⟩
        next => cases became
      | inside _ was' => cases was.symm.trans was'
    · rw [Function.update_of_ne (Ne.symm socket)]
      exact follows.text
  · intro other raw v given decoded
    by_cases own : other = setting
    · subst own
      rw [Function.update_self] at decoded
      cases assigns with
      | leaf assigned _ became =>
        rw [Setting.lastAssigned_concat, assigned] at given
        cases given
        refine read_of_assignLeaf became (fun socket => ?_) decoded
        subst socket
        exact follows.text
      | inside unassigned was =>
        rw [Setting.decode_map] at decoded
        cases decoded
    · rw [Function.update_of_ne own] at decoded
      exact follows.assigned other raw v ((last other own).symm.trans given) decoded
  · intro other given
    by_cases own : other = setting
    · subst own
      rw [Setting.lastAssigned_concat] at given
      cases assigns with
      | leaf assigned _ became =>
        rw [assigned] at given
        cases given
      | inside unassigned was =>
        -- what is there at first is no table
        rw [unassigned] at given
        have first := follows.unassigned other given
        exact absurd (first.symm.trans was) (Setting.encode_ne_map other _ _)
    · rw [Function.update_of_ne own]
      exact follows.unassigned other ((last other own).symm.trans given)

/-- **What assignments in a row make of a configuration.** -/
theorem exists_follows (known : provider ∈ collectorSpecs.map CollectorSpec.name)
    {config : AgentRuntimeConfig} {overrides : List String} {value : Content}
    (became : overrides.foldlM (assign provider) config.serialize = .ok value) :
    ∃ leaf, value = settingTree leaf config.version ∧ Follows provider config overrides leaf := by
  induction overrides using List.reverseRecOn generalizing value with
  | nil =>
    cases became
    exact ⟨_, serialize_eq_settingTree config, follows_nil config⟩
  | append_singleton overrides assignment ih =>
    rw [List.foldlM_append] at became
    obtain ⟨before, earlier, became⟩ := Results.bind_eq_ok_iff.mp became
    obtain ⟨leaf, rfl, follows⟩ := ih earlier
    rw [List.foldlM_cons] at became
    obtain ⟨after, became, same⟩ := Results.bind_eq_ok_iff.mp became
    cases same
    obtain ⟨setting, c, assigns, rfl⟩ := assigns_of_assign known became
    exact ⟨_, rfl, follows.step assigns⟩

/-- The known collectors have their specifications. -/
theorem collectorSpec_of_known (known : provider ∈ collectorSpecs.map CollectorSpec.name) :
    ∃ spec, collectorSpec provider = .ok spec := by
  rw [collectorSpec]
  cases found : collectorSpecs.find? (·.name = provider) with
  | some spec => exact ⟨spec, rfl⟩
  | none =>
    obtain ⟨spec, mem, same⟩ := List.mem_map.mp known
    have other := List.find?_eq_none.mp found spec mem
    exact absurd same (by simpa using other)

/-- What is out of reach is never assigned. -/
theorem not_reached_names {setting : Setting} {overrides : List String}
    (apart : ¬ setting.Reached provider) : setting.lastAssigned provider overrides = none := by
  have none (assignment : String) : setting.assigned provider assignment = none := by
    rw [Setting.assigned, Setting.names_of_not_reached apart]
    cases keyValue assignment <;> rfl
  rw [Setting.lastAssigned, List.filterMap_eq_nil_iff.mpr fun assignment _ => none assignment]
  rfl

/-- When overrides have a result. -/
theorem withProviderOverrides_eq_ok_iff
    (known : provider ∈ collectorSpecs.map CollectorSpec.name)
    {config config' : AgentRuntimeConfig} {overrides : List String} :
    withProviderOverrides config provider overrides = .ok config' ↔
      (overrides = [] ∧ config = config') ∨
        (overrides ≠ [] ∧ ∃ value, overrides.foldlM (assign provider) config.serialize = .ok value ∧
          AgentRuntimeConfig.deserialize .json value = some config' ∧ config'.Valid) := by
  obtain ⟨spec, found⟩ := collectorSpec_of_known known
  rw [withProviderOverrides, found]
  show (if _ then _ else _) = _ ↔ _
  by_cases empty : overrides = []
  · simp [empty]
  · rw [if_neg empty]
    simp only [empty, false_and, false_or, ne_eq, not_false_eq_true, true_and]
    cases made : overrides.foldlM (assign provider) config.serialize with
    | error error => simp [bind, Except.bind]
    | ok value =>
      show (match AgentRuntimeConfig.deserialize .json value with
        | none => _
        | some config => _) = _ ↔ _
      simp only [Except.ok.injEq, exists_eq_left']
      cases decoded : AgentRuntimeConfig.deserialize .json value with
      | none => simp
      | some config'' =>
        dsimp only
        rw [Option.some.injEq]
        cases validated : config''.validate with
        | error error =>
          simp only [reduceCtorEq, false_iff, not_and]
          rintro rfl valid
          rw [AgentRuntimeConfig.Valid, validated] at valid
          cases valid
        | ok =>
          simp only [Except.ok.injEq]
          constructor
          · rintro rfl
            exact ⟨rfl, validated⟩
          · exact fun same => same.1

/-- **A result has the assignments made.** -/
theorem overlaid_of_ok (known : provider ∈ collectorSpecs.map CollectorSpec.name)
    {config config' : AgentRuntimeConfig} (valid : config.Valid) {overrides : List String}
    (became : withProviderOverrides config provider overrides = .ok config') :
    Overlaid provider overrides config config' := by
  cases (withProviderOverrides_eq_ok_iff known).mp became with
  | inl same =>
    obtain ⟨rfl, rfl⟩ := same
    exact ⟨⟨rfl, fun _ _ => rfl⟩, valid, fun _ _ given => (nomatch given), fun _ _ => rfl⟩
  | inr made =>
    obtain ⟨-, value, made, decoded, validated⟩ := made
    obtain ⟨leaf, rfl, follows⟩ := exists_follows known made
    obtain ⟨version, decodes⟩ := (deserialize_settingTree leaf).mp decoded
    have kept (setting : Setting) (given : setting.lastAssigned provider overrides = none) :
        setting.value config' = setting.value config := by
      have same := decodes setting
      rw [follows.unassigned setting given, Setting.decode_encode] at same
      exact (Option.some.inj same).symm
    exact ⟨⟨version, fun setting apart => kept setting (not_reached_names apart)⟩, validated,
      fun setting raw given => follows.assigned setting raw _ given (decodes setting), kept⟩

end Row
/-! ## Reaching a configuration -/

namespace Setting

/-- Every setting. -/
def all : List Setting := ConfigSection.all.flatMap ConfigSection.settings

/-- The list of the settings has them all. -/
theorem mem_all (setting : Setting) : setting ∈ all := by
  rcases setting with _ | _ | _ | _ | _ | (_ | _ | _ | _ | _) | (_ | _ | _ | _ | _) | _ <;> decide

/-- The value of a setting in an assignment. -/
def spell (setting : Setting) (v : setting.Value) : String :=
  Json.printText Json.compact (setting.encode v)

/-- The assignment that gives a setting a value. -/
def assignment (setting : Setting) (v : setting.Value) : String :=
  setting.home.name ++ "." ++ setting.field ++ "=" ++ setting.spell v

/-- A spelled value is read back. -/
theorem parse_spell (setting : Setting) (v : setting.Value) :
    Json.parseText (setting.spell v) = some (setting.encode v) :=
  Json.parseText_printText Json.compact_blank (setting.encode_fits v)

/-- No value has an empty spelling. -/
theorem spell_ne_empty (setting : Setting) (v : setting.Value) : setting.spell v ≠ "" := by
  intro empty
  have parsed := setting.parse_spell v
  rw [empty] at parsed
  cases parsed

/-- A text between two characters that are no white space is not trimmed. -/
theorem trim_of_brackets {first last : Char} (l : List Char)
    (front : Text.isWhitespace first = false) (back : Text.isWhitespace last = false) :
    Text.trim (String.ofList (first :: (l ++ [last]))) = String.ofList (first :: (l ++ [last])) := by
  refine Text.trim_eq_self_of_ends (fun c head => ?_) (fun c tail => ?_)
  · rw [String.toList_ofList] at head
    cases head
    exact front
  · rw [String.toList_ofList, ← List.cons_append, List.getLast?_concat] at tail
    cases tail
    exact back

/-- Numbers are not trimmed. -/
theorem trim_digits (n : UInt64) :
    Text.trim (Json.printText Json.compact (u64Content n)) =
      Json.printText Json.compact (u64Content n) := by
  refine Text.trim_eq_self fun c mem => ?_
  have printed : Json.print Json.compact 0 (u64Content n) = Nat.toDigits 10 n.toNat := by
    rw [u64Content, Json.print, Json.printInt, if_neg (by omega), Int.natAbs_natCast]
  rw [Json.printText, String.toList_ofList, printed] at mem
  have digit : c.isDigit = true := Nat.isDigit_of_mem_toDigits (by decide) (by decide) mem
  have range : 48 ≤ c.toNat ∧ c.toNat ≤ 57 := by
    simpa [Char.isDigit, UInt32.le_iff_toNat_le] using digit
  simp [Text.isWhitespace]
  omega

/-- Booleans are not trimmed. -/
theorem trim_bool : ∀ b : Bool, Text.trim (Json.printText Json.compact (.bool b)) =
    Json.printText Json.compact (.bool b) := by
  decide

/-- A value is spelled without space around it. -/
theorem trim_spell (setting : Setting) (v : setting.Value) :
    Text.trim (setting.spell v) = setting.spell v := by
  cases setting with
  | storageEnabled | enabled => exact trim_bool v
  | criSocket => exact trim_of_brackets _ (by decide) (by decide)
  | storageMounts =>
    cases (v : List String) with
    | nil => decide
    | cons mount mounts => exact trim_of_brackets _ (by decide) (by decide)
  | _ => exact trim_digits v

/-- A socket is spelled in quotes, so it is not taken for a bare text. -/
theorem head_spell_criSocket (v : String) : (criSocket.spell v).toList.head? = some '"' := by
  rw [spell, Json.printText, String.toList_ofList]
  rfl

variable {provider : String} {setting : Setting}

/-- The assignment of a spelled value splits into the setting's name and the spelling. -/
theorem keyValue_assignment (v : setting.Value) :
    keyValue (setting.assignment v) =
      some (setting.home.name ++ "." ++ setting.field, setting.spell v) := by
  have plain : ∀ c ∈ (setting.home.name ++ "." ++ setting.field).toList,
      Text.isWhitespace c = false ∧ c ≠ '=' := by
    intro c mem
    rw [String.toList_append, String.toList_append, List.mem_append, List.mem_append] at mem
    rcases mem with (mem | mem) | mem
    · have plain := isPlain_iff.mp (List.all_eq_true.mp (name_plain setting.home) c mem)
      exact ⟨plain.1, plain.2.2⟩
    · rw [List.mem_singleton.mp mem]
      decide
    · have plain := isPlain_iff.mp (List.all_eq_true.mp setting.field_plain c mem)
      exact ⟨plain.1, plain.2.2⟩
  have split := Text.splitOnce_append (fun mem => (plain '=' mem).2 rfl) (setting.spell v)
  rw [keyValue, assignment]
  rw [show String.singleton '=' = "=" from rfl] at split
  rw [split, Option.map_some, Text.trim_eq_self fun c mem => (plain c mem).1, trim_spell]

end Setting

/-- Which leaves are texts. -/
def Typed (leaf : Setting → Content) : Prop :=
  ∀ setting : Setting, (∃ text, leaf setting = .str text) ↔ setting = .criSocket

/-- Leaves that encode values are typed. -/
theorem typed_encode (values : (setting : Setting) → setting.Value) :
    Typed fun setting => setting.encode (values setting) := by
  intro setting
  constructor
  · intro given
    obtain ⟨text, same⟩ := given
    by_contra other
    have decoded := setting.decode_encode (values setting)
    rw [show setting.encode (values setting) = .str text from same,
      Setting.decode_str other] at decoded
    cases decoded
  · rintro rfl
    exact ⟨_, rfl⟩

/-- They stay so when one of them is moved to another value. -/
theorem Typed.update {leaf : Setting → Content} (typed : Typed leaf) (setting : Setting)
    (v : setting.Value) : Typed (Function.update leaf setting (setting.encode v)) := by
  intro other
  by_cases own : other = setting
  · subst own
    rw [Function.update_self]
    have encoded := typed_encode (Function.update (fun s => s.value .default) other v) other
    simpa using encoded
  · rw [Function.update_of_ne own]
    exact typed other

/-- **The assignment of a value** makes it the leaf of its setting. -/
theorem assign_assignment {provider : String} {setting : Setting}
    (reached : setting.Reached provider) {leaf : Setting → Content} (typed : Typed leaf)
    (version : String) (v : setting.Value) :
    assign provider (settingTree leaf version) (setting.assignment v) =
      .ok (settingTree (Function.update leaf setting (setting.encode v)) version) := by
  have became (key : String) :
      assignLeaf key (setting.spell v) (leaf setting) = .ok (setting.encode v) := by
    by_cases socket : setting = .criSocket
    · obtain ⟨text, was⟩ := (typed setting).mpr socket
      subst socket
      have read : readText (Setting.criSocket.spell v) = some v := by
        rw [readText, if_pos (Setting.head_spell_criSocket v), Setting.parse_spell]
        rfl
      rw [was, assignLeaf, read]
      rfl
    · have other : ∀ text, leaf setting ≠ .str text :=
        fun text was => socket ((typed setting).mp ⟨text, was⟩)
      rw [assignLeaf.eq_def]
      split
      next was => exact absurd was (other _)
      next =>
        rw [Setting.spell, Json.parseContent_printText Json.compact_blank (setting.encode_fits v)]
        exact congrArg Except.ok (setting.tree_encode v)
  have key : setting.home.name ++ "." ++ setting.field ≠ "" := by
    intro empty
    have parts := congrArg String.length empty
    simp [String.length_append] at parts
  have found : Json.get? setting.field (setting.home.table leaf) = some (leaf setting) := by
    cases setting <;> rfl
  rw [assign, Setting.keyValue_assignment]
  dsimp only
  rw [if_neg (by simp [key, setting.spell_ne_empty v]), Setting.locate_qualified reached]
  have named : setting.field ≠ "" := by
    have mem := setting.field_mem
    intro empty
    rw [empty] at mem
    revert mem
    decide
  rw [if_neg (by simp [Ne.symm named])]
  dsimp only
  rw [get?_name]
  have below (key provider : String) :
      assignAt key (setting.spell v) provider setting.home.name [setting.field]
          (setting.home.table leaf) =
        .ok (Json.put setting.field (setting.encode v) (setting.home.table leaf)) := by
    rw [ConfigSection.table] at found ⊢
    rw [assignAt, found]
    dsimp only
    rw [assignAt, became]
    rfl
  dsimp only
  rw [below]
  exact congrArg Except.ok (put_setting leaf version setting (setting.encode v))

/-- Assigning a value to every setting of a list gives these settings the values. -/
theorem foldlM_assignments {provider : String} (values : (setting : Setting) → setting.Value)
    {settings : List Setting} (reached : ∀ setting ∈ settings, setting.Reached provider)
    {leaf : Setting → Content} (typed : Typed leaf) (version : String) :
    (settings.map fun setting => setting.assignment (values setting)).foldlM (assign provider)
        (settingTree leaf version) =
      .ok (settingTree (fun setting =>
        if setting ∈ settings then setting.encode (values setting) else leaf setting) version) := by
  induction settings generalizing leaf with
  | nil => simp; rfl
  | cons setting settings ih =>
    rw [List.map_cons, List.foldlM_cons,
      assign_assignment (reached setting List.mem_cons_self) typed]
    show List.foldlM _ _ _ = _
    rw [ih (fun other mem => reached other (List.mem_cons_of_mem _ mem)) (typed.update setting _)]
    refine congrArg Except.ok (congrArg (settingTree · version) (funext fun other => ?_))
    by_cases own : other = setting
    · subst own
      simp
    · simp [own]

/-- Assignments lead to every configuration within reach. -/
theorem exists_assignments {provider : String} {config config' : AgentRuntimeConfig}
    (confined : Confined provider config config') :
    ∃ overrides : List String,
      overrides.foldlM (assign provider) config.serialize = .ok config'.serialize := by
  obtain ⟨settings, within, every⟩ : ∃ settings : List Setting,
      (∀ setting ∈ settings, setting.Reached provider) ∧
        ∀ setting : Setting, setting.Reached provider → setting ∈ settings :=
    ⟨Setting.all.filter (·.Reached provider), by simp,
      fun setting reached => by simpa [setting.mem_all] using reached⟩
  have same : (fun setting => if setting ∈ settings then setting.encode (setting.value config')
      else setting.encode (setting.value config)) =
        fun setting : Setting => setting.encode (setting.value config') := by
    funext setting
    split
    next => rfl
    next mem => rw [confined.outside setting fun reached => mem (every setting reached)]
  have made := foldlM_assignments (·.value config') within (typed_encode (·.value config))
    config.version
  rw [same] at made
  rw [serialize_eq_settingTree config', confined.version]
  exact ⟨_, made⟩

/-- **Every configuration within reach is reached.** -/
theorem exists_overrides {provider : String}
    (known : provider ∈ collectorSpecs.map CollectorSpec.name)
    {config config' : AgentRuntimeConfig} (valid : config'.Valid)
    (confined : Confined provider config config') :
    ∃ overrides, withProviderOverrides config provider overrides = .ok config' := by
  obtain ⟨overrides, made⟩ := exists_assignments confined
  refine ⟨overrides, (withProviderOverrides_eq_ok_iff known).mpr ?_⟩
  by_cases empty : overrides = []
  · subst empty
    have same := congrArg (AgentRuntimeConfig.deserialize .json) (Except.ok.inj made)
    rw [AgentRuntimeConfig.deserialize_serialize, AgentRuntimeConfig.deserialize_serialize] at same
    exact .inl ⟨rfl, Option.some.inj same⟩
  · exact .inr ⟨empty, _, made, AgentRuntimeConfig.deserialize_serialize .json config', valid⟩

/-- **Overrides are exact and confined.** -/
theorem provider_overrides_exact {provider : String}
    (known : provider ∈ collectorSpecs.map CollectorSpec.name) {config : AgentRuntimeConfig}
    (valid : config.Valid) :
    (∀ overrides config', withProviderOverrides config provider overrides = .ok config' →
      Overlaid provider overrides config config') ∧
    ∀ config' : AgentRuntimeConfig, config'.Valid → Confined provider config config' →
      ∃ overrides, withProviderOverrides config provider overrides = .ok config' :=
  ⟨fun _ _ became => overlaid_of_ok known valid became,
    fun _ valid' confined => exists_overrides known valid' confined⟩

theorem provider_overrides_exact_tcp :
    (∀ overrides config', withProviderOverrides .default "tcp" overrides = .ok config' →
      Overlaid "tcp" overrides .default config') ∧
    ∀ config' : AgentRuntimeConfig, config'.Valid → Confined "tcp" .default config' →
      ∃ overrides, withProviderOverrides .default "tcp" overrides = .ok config' :=
  provider_overrides_exact (by decide) (by decide +kernel)

end Talia
