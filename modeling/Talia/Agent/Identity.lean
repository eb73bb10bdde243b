import Talia.Lib.Runs
import Talia.Lib.Text

/-!
# The agent's id

An agent keeps its id in a file of its state directory. The first call creates the file and writes a
new id to it; later calls read what the file holds. A call can fail at each of its operations
(`IdentityFaults`), and a write after any number of bytes.

The id that a call returned is the one that every later call returns (`identity_persistent`). A write
that failed before the whole id was there has still created the file, and later calls take what it
holds for the id; so calls recover from every failure but this one (`agent_id_durable_iff`).
-/

namespace Talia

open Transition

/-! ## UUIDs -/

/-- Its 128 bits. -/
abbrev Uuid := BitVec 128

namespace Uuid

/-- The hexadecimal digit at a place, the most significant one first. -/
def digit (uuid : Uuid) (place : ℕ) : Char :=
  Nat.digitChar (uuid.toNat / 16 ^ (31 - place) % 16)

/-- `Uuid::to_string`: lower-case digits in groups of eight, four, four, four and twelve. -/
def hyphenated (uuid : Uuid) : String :=
  let group (first count : ℕ) := (List.range' first count).map uuid.digit
  String.ofList (group 0 8 ++ '-' :: group 8 4 ++ '-' :: group 12 4 ++ '-' :: group 16 4 ++
    '-' :: group 20 12)

/-- An id has 36 characters. -/
theorem length_hyphenated (uuid : Uuid) : uuid.hyphenated.length = 36 := by
  simp only [hyphenated, String.length_ofList, List.length_append, List.length_cons,
    List.length_map, List.length_range']

/-- So it is not empty. -/
theorem hyphenated_ne_empty (uuid : Uuid) : uuid.hyphenated ≠ "" := by
  intro empty
  have length := uuid.length_hyphenated
  rw [empty] at length
  cases length

/-- Its digits are no white space. -/
theorem digit_visible (uuid : Uuid) (place : ℕ) :
    Text.isWhitespace (uuid.digit place) = false := by
  have digits : ∀ n < 16, Text.isWhitespace n.digitChar = false := by decide
  exact digits _ (Nat.mod_lt _ (by decide))

/-- So none of its characters is. -/
theorem hyphenated_visible (uuid : Uuid) :
    ∀ c ∈ uuid.hyphenated.toList, Text.isWhitespace c = false := by
  have group (first count : ℕ) :
      ∀ c ∈ (List.range' first count).map uuid.digit, Text.isWhitespace c = false := by
    intro c mem
    obtain ⟨place, -, rfl⟩ := List.mem_map.mp mem
    exact digit_visible uuid place
  have hyphen : Text.isWhitespace '-' = false := by decide
  intro c mem
  simp only [hyphenated, String.toList_ofList, List.append_assoc, List.cons_append,
    List.mem_append, List.mem_cons] at mem
  rcases mem with h | rfl | h | rfl | h | rfl | h | rfl | h
  · exact group _ _ c h
  · exact hyphen
  · exact group _ _ c h
  · exact hyphen
  · exact group _ _ c h
  · exact hyphen
  · exact group _ _ c h
  · exact hyphen
  · exact group _ _ c h

end Uuid

/-! ## Loading or creating the id -/

/-- A state directory, and the contents of its agent id file if there is one. -/
structure IdentityDir where
  path : String
  agentId : Option ByteArray

def agentIdFile : String := "agent-id"

/-- `Path::join` of a file name. -/
def joinPath (dir file : String) : String :=
  if dir.isEmpty || dir.toList.getLast? = some '/' then dir ++ file else dir ++ "/" ++ file

/-- What a call can fail with. -/
inductive IdentityError where
  | createStateDir (path source : String)
  | readAgentId (path source : String)
  | writeAgentId (path source : String)
  | emptyAgentId (path : String)
  deriving DecidableEq

/-- What the error says. -/
def IdentityError.message : IdentityError → String
  | .createStateDir path source => "failed to create state directory " ++ path ++ ": " ++ source
  | .readAgentId path source => "failed to read agent id from " ++ path ++ ": " ++ source
  | .writeAgentId path source => "failed to write agent id to " ++ path ++ ": " ++ source
  | .emptyAgentId path => "agent id file " ++ path ++ " is empty"

/-- The operations of a call that fail, and with what. -/
structure IdentityFaults where
  createDir : Option String := none
  /-- Whether there is a file cannot be found out, which counts as no. -/
  stat : Bool := false
  read : Option String := none
  openNew : Option String := none
  /-- The write fails with that many bytes written. -/
  write : Option (ℕ × String) := none

/-- `fs::read_to_string`. -/
def IdentityFaults.readToString (faults : IdentityFaults) (bytes : ByteArray) :
    Except String String :=
  match faults.read with
  | some source => .error source
  | none =>
    match Text.decodeUtf8 bytes with
    | some contents => .ok contents
    | none => .error "stream did not contain valid UTF-8"

/-- Writes the id to a file that must not exist. -/
def writeAgentIdFile (faults : IdentityFaults) (dir : IdentityDir) (agentId : String) :
    IdentityDir × Except String Unit :=
  match faults.openNew with
  | some source => (dir, .error source)
  | none =>
    match dir.agentId with
    | some _ => (dir, .error "File exists (os error 17)")
    | none =>
      match faults.write with
      | some (written, source) =>
        ({ dir with agentId := some ((agentId ++ "\n").toUTF8.extract 0 written) }, .error source)
      | none => ({ dir with agentId := some (agentId ++ "\n").toUTF8 }, .ok ())

/-- The id in the file. -/
def readAgentId (faults : IdentityFaults) (path : String) (bytes : ByteArray) :
    Except IdentityError String :=
  match faults.readToString bytes with
  | .error source => .error (.readAgentId path source)
  | .ok contents =>
    if Text.isBlank contents then .error (.emptyAgentId path) else .ok (Text.trim contents)

/-- Loads the id, creating it from a new UUID if there is none. -/
def loadOrCreateAgentId (faults : IdentityFaults) (uuid : Uuid) (dir : IdentityDir) :
    IdentityDir × Except IdentityError String :=
  match faults.createDir with
  | some source => (dir, .error (.createStateDir dir.path source))
  | none =>
    let path := joinPath dir.path agentIdFile
    match dir.agentId, faults.stat with
    | some bytes, false => (dir, readAgentId faults path bytes)
    | _, _ =>
      match writeAgentIdFile faults dir uuid.hyphenated with
      | (dir, .ok ()) => (dir, .ok uuid.hyphenated)
      | (dir, .error source) => (dir, .error (.writeAgentId path source))

/-! ## Calls -/

/-- A start of the agent, with what goes wrong in it and the id it would create. -/
structure IdentityCall where
  faults : IdentityFaults := {}
  uuid : Uuid

namespace IdentityCall

/-- What a call leaves in the directory. -/
def step (dir : IdentityDir) (call : IdentityCall) : IdentityDir :=
  (loadOrCreateAgentId call.faults call.uuid dir).1

/-- What a call returns. -/
def result (dir : IdentityDir) (call : IdentityCall) : Except IdentityError String :=
  (loadOrCreateAgentId call.faults call.uuid dir).2

/-- The write of the call fails, in a file it has created, before the whole id is there. -/
def Tears (dir : IdentityDir) (call : IdentityCall) : Prop :=
  dir.agentId = none ∧ call.faults.createDir = none ∧ call.faults.openNew = none ∧
    ∃ written source, call.faults.write = some (written, source) ∧
      written < call.uuid.hyphenated.toUTF8.size

end IdentityCall

/-- The id that a directory holds. -/
def IdentityDir.holds (dir : IdentityDir) : Option String := do
  let bytes ← dir.agentId
  let contents ← Text.decodeUtf8 bytes
  if Text.isBlank contents then none else some (Text.trim contents)

/-- A file holds its trimmed contents, unless nothing is left of them. -/
theorem holds_of_contents (path : String) {contents id : String}
    (trimmed : Text.trim contents = id) (nonempty : id ≠ "") :
    IdentityDir.holds ⟨path, some contents.toUTF8⟩ = some id := by
  have visible : Text.isBlank contents = false := by
    rw [Text.isBlank, trimmed]
    simpa using nonempty
  simp [IdentityDir.holds, visible, trimmed]

/-- The bytes of a line are those of its text and the line end. -/
theorem toUTF8_line (id : String) : (id ++ "\n").toUTF8 = id.toUTF8 ++ "\n".toUTF8 :=
  String.toByteArray_append

/-- The line of an id holds the id. -/
theorem holds_of_line (path : String) (uuid : Uuid) :
    IdentityDir.holds ⟨path, some (uuid.hyphenated ++ "\n").toUTF8⟩ = some uuid.hyphenated :=
  holds_of_contents path (Text.trim_line uuid.hyphenated_visible) uuid.hyphenated_ne_empty

/-- A whole id, with the end of its line or without, is what the directory holds. -/
theorem holds_of_whole (path : String) (uuid : Uuid) {written : ℕ}
    (whole : uuid.hyphenated.toUTF8.size ≤ written) :
    IdentityDir.holds ⟨path, some ((uuid.hyphenated ++ "\n").toUTF8.extract 0 written)⟩ =
      some uuid.hyphenated := by
  rcases Nat.eq_or_lt_of_le whole with same | more
  · have bytes : (uuid.hyphenated ++ "\n").toUTF8.extract 0 written = uuid.hyphenated.toUTF8 := by
      rw [toUTF8_line, ByteArray.extract_append_eq_left same.symm]
    rw [bytes]
    exact holds_of_contents path (Text.trim_eq_self uuid.hyphenated_visible)
      uuid.hyphenated_ne_empty
  · have bytes : (uuid.hyphenated ++ "\n").toUTF8.extract 0 written =
        (uuid.hyphenated ++ "\n").toUTF8 := by
      refine Text.extract_of_size_le ?_
      rw [toUTF8_line, ByteArray.size_append]
      exact more
    rw [bytes]
    exact holds_of_line path uuid

/-- A torn id is no id: whatever the file holds is shorter. -/
theorem holds_of_torn (path : String) (uuid other : Uuid) {written : ℕ}
    (torn : written < uuid.hyphenated.toUTF8.size) :
    IdentityDir.holds ⟨path, some ((uuid.hyphenated ++ "\n").toUTF8.extract 0 written)⟩ ≠
      some other.hyphenated := by
  intro held
  have bytes : (uuid.hyphenated ++ "\n").toUTF8.extract 0 written =
      uuid.hyphenated.toUTF8.extract 0 written := by
    rw [toUTF8_line, ByteArray.extract_append, Nat.sub_eq_zero_of_le (Nat.le_of_lt torn), Nat.zero_sub,
      ByteArray.extract_same, ByteArray.append_empty]
  rw [IdentityDir.holds, bytes, Option.bind_eq_bind, Option.bind_some] at held
  obtain ⟨contents, decoded, held⟩ := Option.bind_eq_some_iff.mp held
  have before := Text.prefix_of_extract decoded
  have short : contents ≠ uuid.hyphenated := Text.ne_of_extract torn decoded
  have shorter : contents.length < uuid.hyphenated.length := by
    refine Nat.lt_of_le_of_ne ?_ fun length => short ?_
    · have le := before.length_le
      rwa [String.length_toList, String.length_toList] at le
    · refine String.toList_inj.mp (before.eq_of_length ?_)
      rw [String.length_toList, String.length_toList, length]
  split at held
  next => cases held
  next =>
    have trimmed := Text.length_trim_le contents
    rw [Option.some.inj held, other.length_hyphenated] at trimmed
    rw [uuid.length_hyphenated] at shorter
    omega

/-- Reading gives the id that the directory holds, or an error. -/
theorem readAgentId_cases (faults : IdentityFaults) (path : String) {dir : IdentityDir}
    {bytes : ByteArray} (file : dir.agentId = some bytes) :
    (∃ e, readAgentId faults path bytes = .error e) ∨
    ∃ id, readAgentId faults path bytes = .ok id ∧ dir.holds = some id := by
  unfold readAgentId IdentityFaults.readToString
  cases faults.read with
  | some source => exact .inl ⟨_, rfl⟩
  | none =>
    cases decoded : Text.decodeUtf8 bytes with
    | none => exact .inl ⟨_, rfl⟩
    | some contents =>
      cases blank : Text.isBlank contents with
      | true =>
        refine .inl ⟨.emptyAgentId path, ?_⟩
        simp [blank]
      | false =>
        refine .inr ⟨Text.trim contents, ?_, ?_⟩
        · simp [blank]
        · simp [IdentityDir.holds, file, decoded, blank]

/-- What a call does, in whatever way its operations fail: it leaves the directory alone and fails
or returns the id held, or it creates the file and writes the whole id or some of it. -/
theorem IdentityCall.step_cases (dir : IdentityDir) (call : IdentityCall) :
    (∃ e, call.step dir = dir ∧ call.result dir = .error e) ∨
    (∃ id, call.step dir = dir ∧ call.result dir = .ok id ∧ dir.holds = some id) ∨
    (dir.agentId = none ∧ call.step dir = { dir with
        agentId := some (call.uuid.hyphenated ++ "\n").toUTF8 } ∧
      call.result dir = .ok call.uuid.hyphenated) ∨
    (dir.agentId = none ∧ call.faults.createDir = none ∧ call.faults.openNew = none ∧
      ∃ written source, call.faults.write = some (written, source) ∧
        call.step dir = { dir with
          agentId := some ((call.uuid.hyphenated ++ "\n").toUTF8.extract 0 written) } ∧
        call.result dir = .error (.writeAgentId (joinPath dir.path agentIdFile) source)) := by
  obtain ⟨faults, uuid⟩ := call
  unfold step result loadOrCreateAgentId
  cases createDir : faults.createDir with
  | some source => exact .inl ⟨_, rfl, rfl⟩
  | none =>
    cases file : dir.agentId with
    | some bytes =>
      cases faults.stat with
      | false =>
        rcases readAgentId_cases faults (joinPath dir.path agentIdFile) file with
          ⟨e, read⟩ | ⟨id, read, held⟩
        · exact .inl ⟨e, rfl, read⟩
        · exact .inr (.inl ⟨id, rfl, read, held⟩)
      | true =>
        -- the file is there, so creating it fails
        unfold writeAgentIdFile
        cases faults.openNew with
        | some source => exact .inl ⟨_, rfl, rfl⟩
        | none =>
          simp only [file]
          exact .inl ⟨_, trivial, rfl⟩
    | none =>
      unfold writeAgentIdFile
      cases openNew : faults.openNew with
      | some source => exact .inl ⟨_, rfl, rfl⟩
      | none =>
        simp only [file]
        cases write : faults.write with
        | none => exact .inr (.inr (.inl ⟨trivial, rfl, rfl⟩))
        | some fault =>
          obtain ⟨written, source⟩ := fault
          exact .inr (.inr (.inr ⟨trivial, trivial, trivial, written, source, rfl, rfl, rfl⟩))

/-! ## Persistence -/

namespace IdentityCall

/-- **The id that a call returns is held afterwards.** -/
theorem holds_of_result {dir : IdentityDir} {call : IdentityCall} {id : String}
    (returned : call.result dir = .ok id) : (call.step dir).holds = some id := by
  rcases call.step_cases dir with ⟨_, -, fails⟩ | ⟨_, same, ok, held⟩ | ⟨-, created, ok⟩ |
    ⟨-, -, -, _, _, -, -, fails⟩
  · rw [fails] at returned
    cases returned
  · rw [ok] at returned
    cases returned
    rw [same, held]
  · rw [ok] at returned
    cases returned
    rw [created]
    exact holds_of_line dir.path call.uuid
  · rw [fails] at returned
    cases returned

/-- No call changes an id that is held. -/
theorem step_holds {dir : IdentityDir} {id : String} (call : IdentityCall)
    (held : dir.holds = some id) : call.step dir = dir := by
  have file : dir.agentId ≠ none := by
    intro missing
    rw [IdentityDir.holds, missing] at held
    cases held
  rcases call.step_cases dir with ⟨_, same, -⟩ | ⟨_, same, -⟩ | ⟨missing, -⟩ | ⟨missing, -⟩
  · exact same
  · exact same
  · exact absurd missing file
  · exact absurd missing file

/-- A call that returns an id returns the one held. -/
theorem result_of_holds {dir : IdentityDir} {call : IdentityCall} {id id' : String}
    (held : dir.holds = some id) (returned : call.result dir = .ok id') : id' = id := by
  have after := holds_of_result returned
  rw [step_holds call held, held] at after
  exact (Option.some.inj after).symm

end IdentityCall

/-- Once a call has returned an id, later calls return no other. -/
def IdPersistent (dir : IdentityDir) (calls : List IdentityCall) : Prop :=
  ∀ before call between later after id id',
    calls = before ++ call :: (between ++ later :: after) →
    call.result (run IdentityCall.step dir before) = .ok id →
    later.result (run IdentityCall.step dir (before ++ call :: between)) = .ok id' → id' = id

/-- **The id persists**, in whatever way operations fail, and whatever is in the directory. -/
theorem identity_persistent (dir : IdentityDir) (calls : List IdentityCall) :
    IdPersistent dir calls := by
  intro before call between later after id id' _ first second
  have stays : (run IdentityCall.step dir (before ++ call :: between)).holds = some id := by
    have preserved (dir : IdentityDir) (call : IdentityCall) (held : dir.holds = some id) :
        (call.step dir).holds = some id := by
      rw [IdentityCall.step_holds call held, held]
    rw [run_append]
    exact run_invariant preserved (IdentityCall.holds_of_result first) between
  exact IdentityCall.result_of_holds stays second

/-! ## Recovery -/

/-- After a call that failed to write the id, one whose operations succeed returns a whole id: its
own, or one made before. -/
def IdRecoverable (dir : IdentityDir) (calls : List IdentityCall) : Prop :=
  ∀ before call after path source, calls = before ++ call :: after →
    call.result (run IdentityCall.step dir before) = .error (.writeAgentId path source) →
    ∀ uuid, ∃ id ∈ uuid :: (before ++ [call]).map IdentityCall.uuid,
      IdentityCall.result (run IdentityCall.step dir (before ++ [call])) ⟨{}, uuid⟩ =
        .ok id.hyphenated

/-- There is no file, or one that holds an id made before. -/
def Intact (ids : List Uuid) (dir : IdentityDir) : Prop :=
  dir.agentId = none ∨ ∃ id ∈ ids, dir.holds = some id.hyphenated

/-- A call that tears nothing leaves the directory alone, or creates the file with its whole id. -/
theorem IdentityCall.step_whole {dir : IdentityDir} {call : IdentityCall}
    (whole : ¬ call.Tears dir) :
    call.step dir = dir ∨ (call.step dir).holds = some call.uuid.hyphenated := by
  rcases call.step_cases dir with ⟨_, unchanged, -⟩ | ⟨_, unchanged, -⟩ | ⟨-, created, -⟩ |
    ⟨missing, createDir, openNew, written, source, write, created, -⟩
  · exact .inl unchanged
  · exact .inl unchanged
  · rw [created]
    exact .inr (holds_of_line dir.path call.uuid)
  · have enough : call.uuid.hyphenated.toUTF8.size ≤ written := by
      refine Nat.le_of_not_lt fun torn => whole ?_
      exact ⟨missing, createDir, openNew, written, source, write, torn⟩
    rw [created]
    exact .inr (holds_of_whole dir.path call.uuid enough)

/-- A call that does not tear the file leaves it intact. -/
theorem intact_step {ids : List Uuid} {dir : IdentityDir} {call : IdentityCall}
    (intact : Intact ids dir) (whole : ¬ call.Tears dir) :
    Intact (ids ++ [call.uuid]) (call.step dir) := by
  rcases IdentityCall.step_whole whole with unchanged | held
  · rw [unchanged]
    rcases intact with missing | ⟨id, mem, held⟩
    · exact .inl missing
    · exact .inr ⟨id, List.mem_append_left _ mem, held⟩
  · exact .inr ⟨call.uuid, List.mem_append_right _ (List.mem_singleton.mpr rfl), held⟩

/-- **A run of calls that do not tear the file leaves it intact.** -/
theorem intact_run {calls : List IdentityCall} {ids : List Uuid} {dir : IdentityDir}
    (intact : Intact ids dir)
    (whole : StepsMeet IdentityCall.step (fun dir call => ¬ call.Tears dir) dir calls) :
    Intact (ids ++ calls.map IdentityCall.uuid) (run IdentityCall.step dir calls) := by
  induction calls generalizing ids dir with
  | nil => simpa using intact
  | cons call calls ih =>
    obtain ⟨first, rest⟩ := stepsMeet_cons.mp whole
    have after := ih (intact_step intact first) rest
    simpa using after

/-- Where there is no file, a call whose operations succeed returns its own id. -/
theorem result_of_missing {dir : IdentityDir} (missing : dir.agentId = none) (uuid : Uuid) :
    IdentityCall.result dir ⟨{}, uuid⟩ = .ok uuid.hyphenated := by
  simp [IdentityCall.result, loadOrCreateAgentId, writeAgentIdFile, missing]

/-- Where an id is held, a call whose operations succeed returns it. -/
theorem result_of_held {dir : IdentityDir} {id : String} (held : dir.holds = some id)
    (uuid : Uuid) : IdentityCall.result dir ⟨{}, uuid⟩ = .ok id := by
  obtain ⟨bytes, file, held⟩ := Option.bind_eq_some_iff.mp held
  obtain ⟨contents, decoded, held⟩ := Option.bind_eq_some_iff.mp held
  split at held
  next => cases held
  next visible =>
    simp [IdentityCall.result, loadOrCreateAgentId, readAgentId, IdentityFaults.readToString,
      file, decoded, visible, Option.some.inj held]

/-- A call whose operations succeed returns the id held, or its own. -/
theorem result_of_intact {ids : List Uuid} {dir : IdentityDir} (intact : Intact ids dir)
    (uuid : Uuid) :
    ∃ id ∈ uuid :: ids, IdentityCall.result dir ⟨{}, uuid⟩ = .ok id.hyphenated := by
  rcases intact with missing | ⟨id, mem, held⟩
  · exact ⟨uuid, List.mem_cons_self, result_of_missing missing uuid⟩
  · exact ⟨id, List.mem_cons_of_mem _ mem, result_of_held held uuid⟩

/-- A torn id is not recovered from. -/
theorem result_of_tears {dir : IdentityDir} {call : IdentityCall} (tears : call.Tears dir) :
    (∃ path source, call.result dir = .error (.writeAgentId path source)) ∧
      ∀ uuid id : Uuid, IdentityCall.result (call.step dir) ⟨{}, uuid⟩ ≠ .ok id.hyphenated := by
  obtain ⟨missing, createDir, openNew, written, source, write, torn⟩ := tears
  have created : loadOrCreateAgentId call.faults call.uuid dir =
      ({ dir with agentId := some ((call.uuid.hyphenated ++ "\n").toUTF8.extract 0 written) },
        .error (.writeAgentId (joinPath dir.path agentIdFile) source)) := by
    simp [loadOrCreateAgentId, writeAgentIdFile, createDir, missing, openNew, write]
  refine ⟨⟨joinPath dir.path agentIdFile, source, by rw [IdentityCall.result, created]⟩, ?_⟩
  intro uuid id returned
  rw [IdentityCall.step, created] at returned
  have held := IdentityCall.holds_of_result returned
  rw [IdentityCall.step, loadOrCreateAgentId] at held
  exact holds_of_torn dir.path call.uuid id torn held

/-- There is no file, or one that holds an id, whoever put it there. -/
def IdentityDir.Sound (dir : IdentityDir) : Prop :=
  dir.agentId = none ∨ ∃ id, dir.holds = some id

/-- A call that tears nothing keeps a directory sound. -/
theorem sound_step {dir : IdentityDir} {call : IdentityCall} (sound : dir.Sound)
    (whole : ¬ call.Tears dir) : (call.step dir).Sound := by
  rcases IdentityCall.step_whole whole with unchanged | held
  · rw [unchanged]
    exact sound
  · exact .inr ⟨_, held⟩

/-- **Ids are durable** exactly in the runs without a call that creates the file and fails to write
the whole id to it: no returned id is ever replaced, in any run, and after every other failure to
write the id the next call that can recover does. -/
theorem agent_id_durable_iff (path : String) (calls : List IdentityCall) :
    IdPersistent ⟨path, none⟩ calls ∧ IdRecoverable ⟨path, none⟩ calls ↔
      StepsMeet IdentityCall.step (fun dir call => ¬ call.Tears dir) ⟨path, none⟩ calls := by
  constructor
  · intro ⟨_, recoverable⟩ before call after split tears
    obtain ⟨⟨path, source, fails⟩, lost⟩ := result_of_tears tears
    obtain ⟨id, -, returned⟩ := recoverable before call after path source split fails 0
    rw [run_append] at returned
    exact lost 0 id returned
  · intro whole
    refine ⟨identity_persistent _ calls, ?_⟩
    intro before call after errorPath source split _ uuid
    rw [split, ← List.singleton_append, ← List.append_assoc] at whole
    have start : Intact [] ⟨path, none⟩ := .inl rfl
    have intact := intact_run start whole.left
    exact result_of_intact intact uuid

/-- **A torn id is taken for the id**: a call that creates the file and fails to write to it is
followed by calls that find the file empty, whatever they do. -/
theorem agent_id_lost :
    ∃ (path : String) (calls : List IdentityCall), ¬ IdRecoverable ⟨path, none⟩ calls := by
  refine ⟨"/var/lib/talia", [⟨{ write := some (0, "No space left on device") }, 0⟩], ?_⟩
  intro recoverable
  have tears : IdentityCall.Tears ⟨"/var/lib/talia", none⟩
      ⟨{ write := some (0, "No space left on device") }, 0⟩ := by
    refine ⟨rfl, rfl, rfl, 0, _, rfl, ?_⟩
    decide +kernel
  obtain ⟨⟨path, source, fails⟩, lost⟩ := result_of_tears tears
  obtain ⟨id, -, returned⟩ := recoverable [] _ [] path source rfl fails 0
  exact lost 0 id returned

end Talia
