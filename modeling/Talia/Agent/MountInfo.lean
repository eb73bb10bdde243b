import Talia.Agent.OctalPath
import Talia.Lib.OrdMap
import Talia.Lib.Split

/-!
# Mount information

The kernel writes a line for each mount, in which fields are separated by single spaces and a dash
that stands alone ends the optional ones. In a path it escapes the space, the tab, the newline and
the backslash, and nothing else. The agent splits a line at Unicode white space, of which there is
more: a path with a no-break space or a vertical tab falls into two fields, and what is read of the
line is of another path.

So what is read is what was mounted when no path has such a character; and as no path that is read
has one, a mount point that has one is never found (`mount_info_round_trip_iff`). Whether a list is read
back in which only a root has such a character is left open: it depends on what else is in the line.
-/

namespace Talia

/-! ## The parser -/

/-- What is kept of a line. -/
structure MountInfo where
  filesystemType : String
  mode : Option String
  deriving DecidableEq

inductive StorageError where
  /-- A mountinfo line did not match the expected Linux format. -/
  | invalidMountInfo (line : String)
  deriving DecidableEq

/-- What a line says: the mount point, and what is mounted there. -/
def parseMountInfoLine (line : String) : Except StorageError (String × MountInfo) :=
  match Text.splitOnce " - " line with
  | none => .error (.invalidMountInfo line)
  | some (beforeDash, afterDash) =>
    match Text.splitWhitespace beforeDash, Text.splitWhitespace afterDash with
    | _ :: _ :: _ :: _ :: path :: options :: _, filesystemType :: _ =>
      let mode := (Text.split options ',').head?.filter fun mode => mode = "rw" ∨ mode = "ro"
      .ok (decodeMountinfoPath path, ⟨filesystemType, mode⟩)
    | _, _ => .error (.invalidMountInfo line)

/-- Each line that is not blank has a mount. Of mounts at one place the last one counts. -/
def parseMountInfo (contents : String) : Except StorageError (BTreeMap String MountInfo) :=
  ((Text.lines contents).filter fun line => !Text.isBlank line).foldlM
    (fun mounts line => do
      let (mountpoint, info) ← parseMountInfoLine line
      return mounts.insert mountpoint info) ∅

/-! ## The kernel -/

/-- A text without white space. -/
def Unspaced (l : List Char) : Prop := ∀ c ∈ l, Text.isWhitespace c = false

instance (l : List Char) : Decidable (Unspaced l) := List.decidableBAll _ l

/-- A text that is not empty, and has no white space. -/
structure Word where
  text : String
  nonempty : text ≠ ""
  unspaced : Unspaced text.toList

/-- An optional field. The dash ends them. -/
structure OptionalField extends Word where
  notDash : text ≠ "-"

/-- A path from the root. -/
structure AbsolutePath where
  text : String
  absolute : text.toList.head? = some '/'

/-- What is mounted of a file system: a path in it or, where it has none to show, a kind and a
number, as in `net:[4026531992]`. -/
inductive MountRoot where
  | path (path : AbsolutePath)
  | inode (kind : Word) (number : Nat)

/-- How the kernel shows a root. -/
def MountRoot.text : MountRoot → String
  | .path p => p.text
  | .inode kind number => kind.text ++ ":[" ++ toString number ++ "]"

/-- The rest of a line. -/
structure LineRest where
  text : String
  oneLine : '\n' ∉ text.toList

/-- Mounts can be written to, or only read. -/
inductive MountMode where
  | rw
  | ro
  deriving DecidableEq

/-- How the kernel shows the mode. -/
def MountMode.asStr : MountMode → String
  | .rw => "rw"
  | .ro => "ro"

/-- A mount, as the kernel shows it. The mode is the first of its options. -/
structure Mount where
  mountId : Nat
  parentId : Nat
  major : Nat
  minor : Nat
  root : MountRoot
  mountPoint : AbsolutePath
  mode : MountMode
  options : List Word
  optionalFields : List OptionalField
  filesystemType : Word
  /-- The mount source and the options of the superblock. -/
  rest : LineRest

/-- What the kernel writes for a character of a path. -/
def mangleChar (c : Char) : List Char :=
  if c = ' ' then ['\\', '0', '4', '0']
  else if c = '\t' then ['\\', '0', '1', '1']
  else if c = '\n' then ['\\', '0', '1', '2']
  else if c = '\\' then ['\\', '1', '3', '4']
  else [c]

/-- `mangle_path`: each character that needs it is escaped. -/
def mangle (path : List Char) : List Char := path.flatMap mangleChar

namespace Mount

/-- The device's numbers. -/
def device (m : Mount) : String := toString m.major ++ ":" ++ toString m.minor

/-- The options, with the mode at their head. -/
def mountOptions (m : Mount) : String :=
  m.mode.asStr ++ .join (m.options.map fun option => "," ++ option.text)

/-- The fields before the dash. -/
def fields (m : Mount) : List String :=
  [toString m.mountId, toString m.parentId, m.device, .ofList (mangle m.root.text.toList),
    .ofList (mangle m.mountPoint.text.toList), m.mountOptions] ++
    m.optionalFields.map (·.text)

/-- The line of a mount: its fields, a hyphen, its type and the rest. -/
def line (m : Mount) : String :=
  " ".intercalate m.fields ++ " - " ++ m.filesystemType.text ++ " " ++ m.rest.text

/-- `/proc/self/mountinfo`. -/
def render (mounts : List Mount) : String :=
  .ofList (mounts.flatMap fun m => m.line.toList ++ ['\n'])

/-- What is to be kept of the mount. -/
def info (m : Mount) : MountInfo := ⟨m.filesystemType.text, some m.mode.asStr⟩

/-- The last mount on a path. -/
def lastOn (mounts : List Mount) (path : String) : Option Mount :=
  mounts.reverse.find? (·.mountPoint.text = path)

end Mount

/-- **The round trip**: what is read are the mount points, each with its last mount. -/
def RoundTrips (mounts : List Mount) : Prop :=
  ∃ map, parseMountInfo (Mount.render mounts) = .ok map ∧
    ∀ path, map[path]? = (Mount.lastOn mounts path).map Mount.info

/-! ## Paths -/

/-- White space that the kernel does not escape. -/
def unescaped (c : Char) : Bool :=
  Text.isWhitespace c && c ≠ ' ' && c ≠ '\t' && c ≠ '\n'

/-- All white space of the path is escaped. -/
def AbsolutePath.Plain (path : AbsolutePath) : Prop := ∀ c ∈ path.text.toList, unescaped c = false

instance (path : AbsolutePath) : Decidable path.Plain := List.decidableBAll _ path.text.toList

/-- The root is printed without white space. -/
def MountRoot.Plain (root : MountRoot) : Prop := ∀ c ∈ root.text.toList, unescaped c = false

instance (root : MountRoot) : Decidable root.Plain :=
  inferInstanceAs (Decidable (∀ c ∈ root.text.toList, unescaped c = false))

/-- What the kernel escapes. -/
def Escaped : Set Char := {c | c = ' ' ∨ c = '\t' ∨ c = '\n' ∨ c = '\\'}

instance : DecidablePred (· ∈ Escaped) :=
  fun c => inferInstanceAs (Decidable (c = ' ' ∨ c = '\t' ∨ c = '\n' ∨ c = '\\'))

/-- What is escaped is printed as a backslash and its octal code, without a space. -/
theorem mangleChar_of_escaped {c : Char} (escaped : c ∈ Escaped) :
    mangleChar c = '\\' :: octalCode c ∧ Unspaced (mangleChar c) := by
  rcases escaped with rfl | rfl | rfl | rfl <;> exact ⟨by decide, by decide⟩

/-- What is not escaped is printed as it is. -/
theorem mangleChar_of_other {c : Char} (other : c ∉ Escaped) : mangleChar c = [c] := by
  simp only [Escaped, Set.mem_ofPred_eq, not_or] at other
  simp [mangleChar, other]

/-- The kernel writes octal escapes. -/
theorem mangle_eq (path : List Char) : mangle path = octalEncode Escaped path := by
  refine List.flatMap_congr fun c _ => ?_
  rw [octalEncodeChar]
  split
  next escaped => exact (mangleChar_of_escaped escaped).1
  next other => exact mangleChar_of_other other

/-- **Decoding inverts the kernel's escapes.** -/
theorem decode_mangle (path : List Char) : decodeMountinfoChars (mangle path) = path := by
  rw [mangle_eq]
  refine decode_octalEncode ?_ (.inr (.inr (.inr rfl))) path
  intro c escaped
  rcases escaped with rfl | rfl | rfl | rfl <;> decide

/-- A character prints no white space, unless it is white space that is not escaped. -/
theorem unspaced_mangleChar {c : Char} (plain : unescaped c = false) : Unspaced (mangleChar c) := by
  by_cases escaped : c ∈ Escaped
  · exact (mangleChar_of_escaped escaped).2
  · rw [mangleChar_of_other escaped]
    intro e mem
    rw [List.mem_singleton.mp mem]
    simp only [Escaped, Set.mem_ofPred_eq, not_or] at escaped
    simpa [unescaped, escaped] using plain

/-- **A path falls into fields where its white space is not escaped.** -/
theorem splitOnP_mangle (path : List Char) :
    (mangle path).splitOnP Text.isWhitespace = (path.splitOnP unescaped).map mangle := by
  induction path with
  | nil => simp [mangle]
  | cons c path ih =>
    have split : mangle (c :: path) = mangleChar c ++ mangle path := List.flatMap_cons
    rw [split, List.splitOnP_cons_eq_if_modifyHead]
    cases bare : unescaped c with
    | true =>
      have space : Text.isWhitespace c = true := by
        rw [unescaped, Bool.and_assoc, Bool.and_assoc, Bool.and_eq_true] at bare
        exact bare.1
      have other : c ∉ Escaped := by
        rintro (rfl | rfl | rfl | rfl) <;> cases bare
      rw [mangleChar_of_other other, List.singleton_append, List.splitOnP_cons_eq_if_modifyHead,
        if_pos space, if_pos rfl, ih]
      rfl
    | false =>
      rw [Text.splitOnP_append_of_forall (unspaced_mangleChar bare), ih,
        if_neg Bool.false_ne_true]
      cases path.splitOnP unescaped with
      | nil => rfl
      | cons first rest =>
        rw [List.map_cons, List.modifyHead_cons, List.modifyHead_cons, List.map_cons]
        rfl

/-- Only the empty path is printed as an empty text. -/
theorem mangle_eq_nil_iff {path : List Char} : mangle path = [] ↔ path = [] := by
  constructor
  · intro h
    rw [← decode_mangle path, h, decodeMountinfoChars]
  · intro h
    rw [h]
    rfl

/-- A printed path falls into fields where it has white space that is not escaped. -/
theorem fields_mangle (path : List Char) :
    Text.fields Text.isWhitespace (mangle path) = (Text.fields unescaped path).map mangle := by
  rw [Text.fields, splitOnP_mangle, List.filter_map, Text.fields]
  refine congrArg _ (List.filter_congr fun part _ => ?_)
  exact decide_eq_decide.mpr (not_congr mangle_eq_nil_iff)

/-- A text has a character by which it is neither blank nor a dash. -/
def Marked (text : String) : Prop := '/' ∈ text.toList ∨ ':' ∈ text.toList

/-- Absolute paths start with no white space. -/
theorem AbsolutePath.marked (path : AbsolutePath) : Marked path.text :=
  .inl (List.mem_of_mem_head? path.absolute)

/-- Nor do roots that are no paths. -/
theorem MountRoot.marked (root : MountRoot) : Marked root.text := by
  cases root with
  | path p => exact p.marked
  | inode kind number => exact .inr (by simp [MountRoot.text])

/-- The fields that a text falls into. -/
def pathPieces (text : String) : List (List Char) := Text.fields unescaped text.toList

/-- A path has pieces. -/
theorem pathPieces_ne_nil {text : String} (marked : Marked text) : pathPieces text ≠ [] := by
  rcases marked with slash | colon
  · exact Text.fields_ne_nil slash (by decide)
  · exact Text.fields_ne_nil colon (by decide)

/-- A plain text is one field. -/
theorem pathPieces_of_plain {text : String} (marked : Marked text)
    (plain : ∀ c ∈ text.toList, unescaped c = false) : pathPieces text = [text.toList] := by
  refine Text.fields_eq_singleton ?_ plain
  rcases marked with slash | colon
  · exact List.ne_nil_of_mem slash
  · exact List.ne_nil_of_mem colon

/-! ## Fields -/

/-- Numbers are printed without white space. -/
theorem unspaced_toString (n : Nat) : Unspaced (toString n).toList := by
  intro c mem
  have digit : c.isDigit = true := by
    rw [Nat.toString_eq_ofList_toDigits, String.toList_ofList] at mem
    exact Nat.isDigit_of_mem_toDigits (by decide) (by decide) mem
  have range : 48 ≤ c.toNat ∧ c.toNat ≤ 57 := by
    simpa [Char.isDigit, UInt32.le_iff_toNat_le] using digit
  simp [Text.isWhitespace]
  omega

/-- A kind and a number have no white space to escape. -/
theorem MountRoot.plain_inode (kind : Word) (number : Nat) :
    (MountRoot.inode kind number).Plain := by
  intro c mem
  have unspaced : Text.isWhitespace c = false := by
    simp only [MountRoot.text, String.toList_append, List.mem_append] at mem
    rcases mem with ((known | opening) | digits) | closing
    · exact kind.unspaced c known
    · have none : Unspaced ":[".toList := by decide
      exact none c opening
    · exact unspaced_toString number c digits
    · have none : Unspaced "]".toList := by decide
      exact none c closing
  rw [unescaped, unspaced]
  rfl

namespace Mount

variable (m : Mount)

/-- No number is printed as an empty text. -/
theorem toString_ne_nil (n : Nat) : (toString n).toList ≠ [] := by
  rw [Nat.toString_eq_ofList_toDigits, String.toList_ofList]
  exact Nat.toDigits_ne_nil

/-- Device numbers have no white space. -/
theorem unspaced_device : Unspaced m.device.toList := by
  intro c mem
  simp only [device, String.toList_append, List.mem_append] at mem
  rcases mem with (major | colon) | minor
  · exact unspaced_toString m.major c major
  · rw [List.mem_singleton.mp colon]
    decide
  · exact unspaced_toString m.minor c minor

/-- Modes have no white space. -/
theorem unspaced_asStr (mode : MountMode) : Unspaced mode.asStr.toList := by
  cases mode <;> decide

/-- Mount options have no white space. -/
theorem unspaced_mountOptions : Unspaced m.mountOptions.toList := by
  intro c mem
  rw [mountOptions, String.toList_append, String.toList_join, List.mem_append] at mem
  rcases mem with mode | mem
  · exact unspaced_asStr m.mode c mode
  · obtain ⟨text, listed, inside⟩ := List.mem_flatMap.mp mem
    obtain ⟨option, -, rfl⟩ := List.mem_map.mp listed
    rw [String.toList_append, List.mem_append] at inside
    rcases inside with comma | inside
    · rw [List.mem_singleton.mp comma]
      decide
    · exact option.unspaced c inside

/-- The mode is what comes before the first comma. -/
theorem head?_split_mountOptions :
    (Text.split m.mountOptions ',').head? = some m.mode.asStr := by
  have absent : ',' ∉ m.mode.asStr.toList := by cases m.mode <;> decide
  have first : ∃ rest, m.mountOptions.toList.splitOn ',' = m.mode.asStr.toList :: rest := by
    rw [mountOptions, String.toList_append, String.toList_join]
    cases m.options with
    | nil =>
      refine ⟨[], ?_⟩
      rw [List.map_nil, List.flatMap_nil, List.append_nil]
      exact List.splitOn_eq_singleton absent
    | cons option options =>
      rw [List.map_cons, List.flatMap_cons, String.toList_append]
      exact ⟨_, List.splitOn_append_cons_self_of_not_mem absent _⟩
  obtain ⟨rest, split⟩ := first
  rw [Text.split, split, List.map_cons, List.head?_cons, String.ofList_toList]

/-- No space and no line feed stays in a printed path. -/
theorem space_notMem_mangle (path : List Char) {c : Char} (blank : c = ' ' ∨ c = '\n') :
    c ∉ mangle path := by
  intro mem
  obtain ⟨d, -, inside⟩ := List.mem_flatMap.mp mem
  by_cases escaped : d ∈ Escaped
  · have seen := (mangleChar_of_escaped escaped).2 c inside
    rcases blank with rfl | rfl <;> cases seen
  · rw [mangleChar_of_other escaped, List.mem_singleton] at inside
    subst inside
    rcases blank with rfl | rfl
    · exact escaped (.inl rfl)
    · exact escaped (.inr (.inr (.inl rfl)))

/-- No path is printed as the separator. -/
theorem mangle_ne_dash {text : String} (marked : Marked text) : mangle text.toList ≠ ['-'] := by
  intro same
  have kept (c : Char) (mem : c ∈ text.toList) (shown : c ∈ mangleChar c) : c = '-' := by
    have inside : c ∈ mangle text.toList := List.mem_flatMap.mpr ⟨c, mem, shown⟩
    rw [same] at inside
    exact List.mem_singleton.mp inside
  rcases marked with slash | colon
  · exact absurd (kept '/' slash (by decide)) (by decide)
  · exact absurd (kept ':' colon (by decide)) (by decide)

/-- No field has a space or a newline, and none is a dash. -/
theorem separate_fields {field : String} (mem : field ∈ m.fields) :
    ' ' ∉ field.toList ∧ '\n' ∉ field.toList ∧ field.toList ≠ ['-'] := by
  have seen {l : List Char} (unspaced : Unspaced l) : ' ' ∉ l ∧ '\n' ∉ l := by
    refine ⟨fun mem => ?_, fun mem => ?_⟩
    · exact absurd (unspaced ' ' mem) (by decide)
    · exact absurd (unspaced '\n' mem) (by decide)
  have number (n : Nat) : (toString n).toList ≠ ['-'] := by
    intro same
    have digit : ('-' : Char).isDigit = true := by
      refine Nat.isDigit_of_mem_toDigits (b := 10) (n := n) (by decide) (by decide) ?_
      rw [← String.toList_ofList (l := Nat.toDigits 10 n), ← Nat.toString_eq_ofList_toDigits, same]
      exact List.mem_singleton_self '-'
    exact absurd digit (by decide)
  have path {text : String} (marked : Marked text) : ' ' ∉ mangle text.toList ∧
      '\n' ∉ mangle text.toList ∧ mangle text.toList ≠ ['-'] :=
    ⟨space_notMem_mangle _ (.inl rfl), space_notMem_mangle _ (.inr rfl), mangle_ne_dash marked⟩
  simp only [fields, List.cons_append, List.nil_append, List.mem_cons, List.mem_map] at mem
  rcases mem with rfl | rfl | rfl | rfl | rfl | rfl | ⟨optional, -, rfl⟩
  · exact ⟨(seen (unspaced_toString _)).1, (seen (unspaced_toString _)).2, number _⟩
  · exact ⟨(seen (unspaced_toString _)).1, (seen (unspaced_toString _)).2, number _⟩
  · refine ⟨(seen m.unspaced_device).1, (seen m.unspaced_device).2, fun same => ?_⟩
    have colon : ':' ∈ m.device.toList := by simp [device]
    rw [same] at colon
    exact absurd colon (by decide)
  · rw [String.toList_ofList]
    exact path m.root.marked
  · rw [String.toList_ofList]
    exact path m.mountPoint.marked
  · refine ⟨(seen m.unspaced_mountOptions).1, (seen m.unspaced_mountOptions).2, fun same => ?_⟩
    have mode : 'r' ∈ m.mountOptions.toList := by
      rw [mountOptions, String.toList_append]
      cases m.mode <;> exact List.mem_append_left _ (by decide)
    rw [same] at mode
    exact absurd mode (by decide)
  · refine ⟨(seen optional.unspaced).1, (seen optional.unspaced).2, fun same => ?_⟩
    exact optional.notDash (String.toList_inj.mp same)

/-- What the fields before the dash are read as. -/
theorem splitWhitespace_fields :
    Text.splitWhitespace (" ".intercalate m.fields) =
      [toString m.mountId, toString m.parentId, m.device] ++
        (pathPieces m.root.text ++ pathPieces m.mountPoint.text).map
          (fun piece => .ofList (mangle piece)) ++
          m.mountOptions :: m.optionalFields.map (·.text) := by
  have one {s : String} (nonempty : s.toList ≠ []) (unspaced : Unspaced s.toList) :
      Text.fields Text.isWhitespace s.toList = [s.toList] := Text.fields_eq_singleton nonempty unspaced
  have device : m.device.toList ≠ [] := by simp [Mount.device]
  have options : m.mountOptions.toList ≠ [] := by
    rw [mountOptions, String.toList_append]
    cases m.mode <;> exact List.cons_ne_nil _ _
  have optional : (m.optionalFields.map (·.text)).flatMap
      (fun s => Text.fields Text.isWhitespace s.toList) = m.optionalFields.map (·.text.toList) := by
    induction m.optionalFields with
    | nil => rfl
    | cons field fields ih =>
      have nonempty : field.text.toList ≠ [] := fun empty =>
        field.nonempty (String.toList_eq_nil_iff.mp empty)
      rw [List.map_cons, List.flatMap_cons, one nonempty field.unspaced, ih]
      rfl
  rw [Text.splitWhitespace, String.toList_intercalate, show " ".toList = [' '] from rfl,
    Text.fields_intercalate (by decide), List.flatMap_map, fields]
  simp only [List.flatMap_append, List.flatMap_cons, List.flatMap_nil, optional,
    one (toString_ne_nil _) (unspaced_toString _), one device m.unspaced_device,
    one options m.unspaced_mountOptions, String.toList_ofList, fields_mangle]
  have number (n : Nat) : String.ofList (toString n).toList = toString n := String.ofList_toList
  simp only [List.map_append, List.map_cons, List.map_map, Function.comp_def, number,
    String.ofList_toList, pathPieces, List.cons_append, List.nil_append,
    List.append_assoc]

/-- A line ends where it should, and the dash is where it was put. -/
theorem splitOnce_line (rest : List Char) :
    Text.splitOnce " - " (.ofList ((" ".intercalate m.fields).toList ++ [' ', '-', ' '] ++ rest)) =
      some (" ".intercalate m.fields, .ofList rest) := by
  have separate : ∀ part ∈ m.fields.map String.toList, ' ' ∉ part ∧ part ≠ ['-'] := by
    intro part mem
    obtain ⟨field, listed, rfl⟩ := List.mem_map.mp mem
    exact ⟨(m.separate_fields listed).1, (m.separate_fields listed).2.2⟩
  have cut : Text.cut [' ', '-', ' ']
      ([' '].intercalate (m.fields.map String.toList) ++ [' ', '-', ' '] ++ rest) =
        some ([' '].intercalate (m.fields.map String.toList), rest) :=
    Text.cut_dash (by decide) (by simp [fields]) (fun part mem => (separate part mem).1)
      (fun part mem => (separate part (List.mem_of_mem_tail mem)).2) rest
  show Option.map _ (Text.cut [' ', '-', ' '] (String.ofList _).toList) = _
  rw [String.toList_ofList, String.toList_intercalate, show " ".toList = [' '] from rfl, cut,
    Option.map_some, ← show " ".toList = [' '] from rfl, ← String.toList_intercalate,
    String.ofList_toList]

/-- A line is its fields, the separator, the type and the rest. -/
theorem toList_line :
    m.line.toList = (" ".intercalate m.fields).toList ++ [' ', '-', ' '] ++
      (m.filesystemType.text.toList ++ ' ' :: m.rest.text.toList) := by
  simp [line]

/-- Without the line end only the rest is shorter. -/
theorem chomp_line :
    Text.chomp m.line.toList = (" ".intercalate m.fields).toList ++ [' ', '-', ' '] ++
      (m.filesystemType.text.toList ++ ' ' :: Text.chomp m.rest.text.toList) := by
  rw [toList_line, ← List.append_assoc, Text.chomp_append_cons _ _ (by decide), List.append_assoc]

/-- **What a line is read as**: the mount point is the second piece of the two paths, and the mode
is in the third, if there is one. -/
theorem parseMountInfoLine_line {first path : List Char} {others : List (List Char)}
    (paths : pathPieces m.root.text ++ pathPieces m.mountPoint.text = first :: path :: others) :
    parseMountInfoLine (.ofList (Text.chomp m.line.toList)) =
      .ok (.ofList path, ⟨m.filesystemType.text,
        (Text.split ((others.head?.map fun piece => .ofList (mangle piece)).getD m.mountOptions)
          ',').head?.filter fun mode => mode = "rw" ∨ mode = "ro"⟩) := by
  have type : ∃ more, Text.splitWhitespace (.ofList (m.filesystemType.text.toList ++
      ' ' :: Text.chomp m.rest.text.toList)) = m.filesystemType.text :: more := by
    have nonempty : m.filesystemType.text.toList ≠ [] := fun empty =>
      m.filesystemType.nonempty (String.toList_eq_nil_iff.mp empty)
    rw [Text.splitWhitespace, String.toList_ofList,
      Text.fields_append_cons _ _ (by decide),
      Text.fields_eq_singleton nonempty m.filesystemType.unspaced]
    simp
  obtain ⟨more, type⟩ := type
  have decoded : decodeMountinfoPath (.ofList (mangle path)) = .ofList path := by
    rw [decodeMountinfoPath, String.toList_ofList, decode_mangle]
  rw [parseMountInfoLine, chomp_line, splitOnce_line]
  dsimp only
  rw [splitWhitespace_fields, type, paths]
  cases others with
  | nil => simp [decoded]
  | cons other others => simp [decoded]

/-- The line of plain paths is read as it was written. -/
theorem parseMountInfoLine_of_plain (root : m.root.Plain) (mountPoint : m.mountPoint.Plain) :
    parseMountInfoLine (.ofList (Text.chomp m.line.toList)) = .ok (m.mountPoint.text, m.info) := by
  have paths : pathPieces m.root.text ++ pathPieces m.mountPoint.text =
      [m.root.text.toList, m.mountPoint.text.toList] := by
    rw [pathPieces_of_plain m.root.marked root, pathPieces_of_plain m.mountPoint.marked mountPoint]
    rfl
  have known : decide (m.mode.asStr = "rw" ∨ m.mode.asStr = "ro") = true := by
    cases m.mode <;> decide
  rw [m.parseMountInfoLine_line paths, List.head?_nil, Option.map_none, Option.getD_none,
    m.head?_split_mountOptions, Option.filter_some, if_pos known, String.ofList_toList]
  rfl

/-- A line is always read, and of a plain path. -/
theorem exists_parseMountInfoLine :
    ∃ path info, parseMountInfoLine (.ofList (Text.chomp m.line.toList)) = .ok (.ofList path, info) ∧
      ∀ c ∈ path, unescaped c = false := by
  cases root : pathPieces m.root.text with
  | nil => exact absurd root (pathPieces_ne_nil m.root.marked)
  | cons first others =>
    cases mountPoint : pathPieces m.mountPoint.text with
    | nil => exact absurd mountPoint (pathPieces_ne_nil m.mountPoint.marked)
    | cons piece rest =>
      cases others with
      | nil =>
        refine ⟨piece, _, m.parseMountInfoLine_line (by rw [root, mountPoint]; rfl), ?_⟩
        intro c inside
        have listed : piece ∈ pathPieces m.mountPoint.text := by
          rw [mountPoint]
          exact List.mem_cons_self
        exact Text.not_separator_of_mem_fields listed inside
      | cons second others =>
        refine ⟨second, _, m.parseMountInfoLine_line (by rw [root]; rfl), ?_⟩
        intro c inside
        have listed : second ∈ pathPieces m.root.text := by
          rw [root]
          exact List.mem_cons_of_mem first List.mem_cons_self
        exact Text.not_separator_of_mem_fields listed inside

/-! ## Lines -/

/-- A mount is printed on one line. -/
theorem newline_notMem_line : '\n' ∉ m.line.toList := by
  intro mem
  rw [toList_line, List.mem_append, List.mem_append, List.mem_append,
    String.toList_intercalate] at mem
  rcases mem with (joined | dash) | type | rest
  · rcases Text.mem_intercalate joined with space | found
    · cases space
    · obtain ⟨part, listed, inside⟩ := found
      obtain ⟨field, known, rfl⟩ := List.mem_map.mp listed
      exact (m.separate_fields known).2.1 inside
  · exact absurd dash (by decide)
  · exact absurd (m.filesystemType.unspaced _ type) (by decide)
  · rcases List.mem_cons.mp rest with space | rest
    · cases space
    · exact m.rest.oneLine rest

/-- That line is not blank. -/
theorem isBlank_line : Text.isBlank (.ofList (Text.chomp m.line.toList)) = false := by
  have dash : '-' ∈ (String.ofList (Text.chomp m.line.toList)).toList := by
    rw [String.toList_ofList, chomp_line]
    simp
  exact Text.isBlank_eq_false dash (by decide)

/-- The lines of the file, as they are read. -/
theorem lines_render (mounts : List Mount) :
    (Text.lines (render mounts)).filter (fun line => !Text.isBlank line) =
      mounts.map fun m => .ofList (Text.chomp m.line.toList) := by
  have lines : Text.lines (render mounts) =
      mounts.map fun m => .ofList (Text.chomp m.line.toList) := by
    have ended : mounts.flatMap (fun m => m.line.toList ++ ['\n']) =
        (mounts.map fun m => m.line.toList).flatMap (· ++ ['\n']) := by
      rw [List.flatMap_map]
    rw [render, ended, Text.lines_of_ended, List.map_map]
    · rfl
    · intro l mem
      obtain ⟨m, -, rfl⟩ := List.mem_map.mp mem
      exact m.newline_notMem_line
  rw [lines]
  refine List.filter_eq_self.mpr fun line mem => ?_
  obtain ⟨m, -, rfl⟩ := List.mem_map.mp mem
  rw [m.isBlank_line]
  rfl

end Mount

/-! ## Round trips -/

/-- The loop of the parser. -/
def insertLine (mounts : BTreeMap String MountInfo) (line : String) :
    Except StorageError (BTreeMap String MountInfo) := do
  let (mountpoint, info) ← parseMountInfoLine line
  return mounts.insert mountpoint info

/-- A line that is read is inserted under its path. -/
theorem insertLine_eq {mounts : BTreeMap String MountInfo} {line path : String} {info : MountInfo}
    (read : parseMountInfoLine line = .ok (path, info)) :
    insertLine mounts line = .ok (mounts.insert path info) := by
  rw [insertLine, read]
  rfl

/-- The list is read back line by line. -/
theorem parseMountInfo_render (mounts : List Mount) :
    parseMountInfo (Mount.render mounts) =
      (mounts.map fun m => String.ofList (Text.chomp m.line.toList)).foldlM insertLine ∅ := by
  rw [parseMountInfo, Mount.lines_render]
  rfl

/-- Every path that is read is plain. -/
theorem plain_of_read {mounts : List Mount} {map found : BTreeMap String MountInfo}
    (read : (mounts.map fun m => String.ofList (Text.chomp m.line.toList)).foldlM insertLine map =
      .ok found) {path : String} (known : found[path]? ≠ none) :
    map[path]? ≠ none ∨ ∀ c ∈ path.toList, unescaped c = false := by
  induction mounts generalizing map with
  | nil =>
    cases read
    exact .inl known
  | cons m mounts ih =>
    obtain ⟨chars, info, line, plain⟩ := m.exists_parseMountInfoLine
    rw [List.map_cons, List.foldlM_cons, insertLine_eq line] at read
    rcases ih read with before | unspaced
    · rw [BTreeMap.get_insert] at before
      split at before
      next same =>
        refine .inr ?_
        rw [← same, String.toList_ofList]
        exact plain
      next => exact .inl before
    · exact .inr unspaced

/-- Plain mounts are read one after the other. -/
theorem foldlM_of_plain {mounts : List Mount}
    (plain : ∀ m ∈ mounts, m.root.Plain ∧ m.mountPoint.Plain) (map : BTreeMap String MountInfo) :
    (mounts.map fun m => String.ofList (Text.chomp m.line.toList)).foldlM insertLine map =
      .ok (mounts.foldl (fun map m => map.insert m.mountPoint.text m.info) map) := by
  induction mounts generalizing map with
  | nil => rfl
  | cons m mounts ih =>
    obtain ⟨root, mountPoint⟩ := plain m List.mem_cons_self
    rw [List.map_cons, List.foldlM_cons,
      insertLine_eq (m.parseMountInfoLine_of_plain root mountPoint)]
    exact ih (fun m' mem => plain m' (List.mem_cons_of_mem m mem)) _

/-- What was inserted last is found. -/
theorem get_foldl_insert (mounts : List Mount) (path : String) :
    (mounts.foldl (fun map m => map.insert m.mountPoint.text m.info)
      (∅ : BTreeMap String MountInfo))[path]? = (Mount.lastOn mounts path).map Mount.info := by
  induction mounts using List.reverseRecOn with
  | nil => exact BTreeMap.get_empty path
  | append_singleton mounts m ih =>
    rw [List.foldl_append, List.foldl_cons, List.foldl_nil, BTreeMap.get_insert, ih, Mount.lastOn,
      Mount.lastOn, List.reverse_append, List.reverse_singleton, List.singleton_append,
      List.find?_cons]
    by_cases own : m.mountPoint.text = path
    · rw [if_pos own, decide_eq_true own]
      rfl
    · rw [if_neg own, decide_eq_false own]

/-- **Mounts whose paths are plain make the round trip.** -/
theorem roundTrips_of_plain {mounts : List Mount}
    (plain : ∀ m ∈ mounts, m.root.Plain ∧ m.mountPoint.Plain) : RoundTrips mounts := by
  refine ⟨_, ?_, get_foldl_insert mounts⟩
  rw [parseMountInfo_render, foldlM_of_plain plain]

/-- **The mount points of mounts that make the round trip are plain.** -/
theorem plain_of_roundTrips {mounts : List Mount} (trips : RoundTrips mounts) {m : Mount}
    (mem : m ∈ mounts) : m.mountPoint.Plain := by
  obtain ⟨map, read, found⟩ := trips
  have known : map[m.mountPoint.text]? ≠ none := by
    intro missing
    rw [found, Option.map_eq_none_iff] at missing
    exact absurd (decide_eq_true rfl)
      (List.find?_eq_none.mp missing m (List.mem_reverse.mpr mem))
  rw [parseMountInfo_render] at read
  rcases plain_of_read read known with nothing | plain
  · exact absurd (BTreeMap.get_empty _) nothing
  · exact plain

/-- **When the round trip holds**: only if all white space of the mount points is escaped; and if
so, whenever all white space of the roots is escaped as well. -/
theorem mount_info_round_trip_iff (mounts : List Mount) :
    (RoundTrips mounts → ∀ m ∈ mounts, m.mountPoint.Plain) ∧
      ((∀ m ∈ mounts, m.root.Plain) →
        (RoundTrips mounts ↔ ∀ m ∈ mounts, m.mountPoint.Plain)) := by
  refine ⟨fun trips m mem => plain_of_roundTrips trips mem, fun roots => ⟨?_, ?_⟩⟩
  · intro trips m mem
    exact plain_of_roundTrips trips mem
  · intro mountPoints
    exact roundTrips_of_plain fun m mem => ⟨roots m mem, mountPoints m mem⟩

namespace Mount

/-- A disk that is mounted on a path. -/
def ofDisk (mountPoint : AbsolutePath) (mode : MountMode) : Mount where
  mountId := 30
  parentId := 23
  major := 0
  minor := 26
  root := .path ⟨"/", rfl⟩
  mountPoint
  mode
  options := [⟨"relatime", by decide, by decide⟩]
  optionalFields := []
  filesystemType := ⟨"xfs", by decide, by decide⟩
  rest := ⟨"/dev/sdb1 ro", by decide⟩

/-- The root of a disk is plain. -/
theorem plain_root (mountPoint : AbsolutePath) (mode : MountMode) :
    (ofDisk mountPoint mode).root.Plain := by
  have plain : AbsolutePath.Plain ⟨"/", rfl⟩ := by decide
  exact plain

/-- A network namespace that is kept on a path. -/
def ofNamespace (mountPoint : AbsolutePath) : Mount :=
  { ofDisk mountPoint .rw with
    root := .inode ⟨"net", by decide, by decide⟩ 4026531992
    filesystemType := ⟨"nsfs", by decide, by decide⟩
    rest := ⟨"nsfs rw", by decide⟩ }

/-- The root of a namespace is plain. -/
theorem plain_rootNamespace (mountPoint : AbsolutePath) : (ofNamespace mountPoint).root.Plain :=
  MountRoot.plain_inode _ _

end Mount

open Mount in
theorem mount_info_round_trip_data :
    RoundTrips [ofDisk ⟨"/", rfl⟩ .rw, ofDisk ⟨"/mnt/data disk", rfl⟩ .ro,
      ofNamespace ⟨"/run/netns/blue", rfl⟩] :=
  ((mount_info_round_trip_iff _).2 (List.forall_mem_cons.mpr ⟨plain_root _ _,
    List.forall_mem_cons.mpr ⟨plain_root _ _,
      List.forall_mem_singleton.mpr (plain_rootNamespace _)⟩⟩)).mpr (by decide)

open Mount in
/-- **A no-break space**: the mount is read as one on the path up to there, without a mode. -/
theorem mount_point_torn :
    let mounts := [ofDisk ⟨"/mnt/a\u00a0b", rfl⟩ .rw]
    (∃ map, parseMountInfo (render mounts) = .ok map ∧
      map["/mnt/a\u00a0b"]? = none ∧ map["/mnt/a"]? = some ⟨"xfs", none⟩) ∧
    ¬ RoundTrips mounts := by
  intro mounts
  have paths : pathPieces (ofDisk ⟨"/mnt/a\u00a0b", rfl⟩ .rw).root.text ++
      pathPieces (ofDisk ⟨"/mnt/a\u00a0b", rfl⟩ .rw).mountPoint.text =
        [['/'], "/mnt/a".toList, ['b']] := by decide
  constructor
  · refine ⟨(∅ : BTreeMap String MountInfo).insert "/mnt/a" ⟨"xfs", none⟩, ?_, ?_, ?_⟩
    · rw [parseMountInfo_render, List.map_cons, List.foldlM_cons,
        insertLine_eq (parseMountInfoLine_line _ paths)]
      rfl
    · rw [BTreeMap.get_insert, if_neg (by decide), BTreeMap.get_empty]
    · rw [BTreeMap.get_insert, if_pos rfl]
  · intro trips
    have plain := plain_of_roundTrips trips List.mem_cons_self
    exact absurd plain (by decide)

end Talia
