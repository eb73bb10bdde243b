import Mathlib.Data.List.Perm.Basic
import Talia.Lib.Keyed
import Talia.Lib.Results
import Talia.Lib.Split

/-!
# Counters by name

`/proc/net/snmp` and `/proc/net/netstat` give the counters of a protocol in two lines that start
with its name, the first with the names of the counters, the second with their values. Which columns
there are and in what order is up to the kernel, so a counter is looked up by its name.

Both parsers read the counters they want from what the two lines hold (`sectionField`). That is
decided by the fields of the lines that start with the prefix (`rows`), whatever else the text has
(`rows_eq`), so it depends neither on other lines nor on white space; and with distinct names, it
does not depend on the order of the columns or on other columns (`sectionField_of_columns`).
-/

namespace Talia

/-! ## Parsing -/

inductive ParseError where
  | missingHeader (linePrefix : String)
  | missingValues (linePrefix : String)
  | fieldCountMismatch (linePrefix : String) (headers values : ℕ)
  | missingField (linePrefix field : String)
  | invalidInteger (linePrefix field value : String)
  deriving DecidableEq

/-- The names of a section with their raw values. The first line that starts with the prefix has the
names, the next one the values. -/
def sectionValues (content linePrefix : String) : Except ParseError (List (String × String)) :=
  match (Text.lines content).filterMap (Text.stripPrefix linePrefix) with
  | [] => .error (.missingHeader linePrefix)
  | [_] => .error (.missingValues linePrefix)
  | headersLine :: valuesLine :: _ =>
    let headers := Text.splitWhitespace headersLine
    let values := Text.splitWhitespace valuesLine
    if headers.length ≠ values.length then
      .error (.fieldCountMismatch linePrefix headers.length values.length)
    else .ok (headers.zip values)

/-- A counter that has to be there, and to be a number. -/
def requiredU64 (values : List (String × String)) (linePrefix field : String) :
    Except ParseError UInt64 :=
  match values.find? (·.1 = field) with
  | none => .error (.missingField linePrefix field)
  | some (_, raw) =>
    match Text.parseU64 raw with
    | none => .error (.invalidInteger linePrefix field raw)
    | some value => .ok value

structure TcpSnmpCounters where
  retransSegs : UInt64
  outSegs : UInt64
  inSegs : UInt64
  currEstab : UInt64
  deriving DecidableEq

def parseSnmp (content : String) : Except ParseError TcpSnmpCounters := do
  let values ← sectionValues content "Tcp:"
  let retransSegs ← requiredU64 values "Tcp:" "RetransSegs"
  let outSegs ← requiredU64 values "Tcp:" "OutSegs"
  let inSegs ← requiredU64 values "Tcp:" "InSegs"
  let currEstab ← requiredU64 values "Tcp:" "CurrEstab"
  return { retransSegs, outSegs, inSegs, currEstab }

structure TcpNetstatCounters where
  tcpTimeouts : UInt64
  tcpFastRetrans : UInt64
  deriving DecidableEq

def parseNetstat (content : String) : Except ParseError TcpNetstatCounters := do
  let values ← sectionValues content "TcpExt:"
  let tcpTimeouts ← requiredU64 values "TcpExt:" "TCPTimeouts"
  let tcpFastRetrans ← requiredU64 values "TcpExt:" "TCPFastRetrans"
  return { tcpTimeouts, tcpFastRetrans }

/-! ## One counter -/

/-- A counter of a section. -/
def sectionField (content linePrefix field : String) : Except ParseError UInt64 := do
  let values ← sectionValues content linePrefix
  requiredU64 values linePrefix field

/-- The parser of a section with its counters one by one. -/
theorem parseSnmp_eq (content : String) :
    parseSnmp content = do
      let retransSegs ← sectionField content "Tcp:" "RetransSegs"
      let outSegs ← sectionField content "Tcp:" "OutSegs"
      let inSegs ← sectionField content "Tcp:" "InSegs"
      let currEstab ← sectionField content "Tcp:" "CurrEstab"
      return { retransSegs, outSegs, inSegs, currEstab } := by
  unfold parseSnmp sectionField
  cases sectionValues content "Tcp:" <;> rfl

/-- Both fields are read of the same section. -/
theorem parseNetstat_eq (content : String) :
    parseNetstat content = do
      let tcpTimeouts ← sectionField content "TcpExt:" "TCPTimeouts"
      let tcpFastRetrans ← sectionField content "TcpExt:" "TCPFastRetrans"
      return { tcpTimeouts, tcpFastRetrans } := by
  unfold parseNetstat sectionField
  cases sectionValues content "TcpExt:" <;> rfl

/-! ## What a section is read from -/

/-- The fields of the lines that start with a prefix. -/
def rows (content linePrefix : String) : List (List String) :=
  ((Text.split content '\n').filterMap (Text.stripPrefix linePrefix)).map Text.splitWhitespace

/-- The values of a section, by its rows. -/
def valuesOfRows (linePrefix : String) :
    List (List String) → Except ParseError (List (String × String))
  | [] => .error (.missingHeader linePrefix)
  | [_] => .error (.missingValues linePrefix)
  | headers :: values :: _ =>
    if headers.length ≠ values.length then
      .error (.fieldCountMismatch linePrefix headers.length values.length)
    else .ok (headers.zip values)

/-- A prefix that no line consists of, and no end of a line is part of. -/
structure LinePrefix (linePrefix : String) : Prop where
  nonempty : linePrefix ≠ ""
  inLine : '\r' ∉ linePrefix.toList

/-- Whether a line ends in a carriage return does not matter to its fields. -/
theorem row_chomp {linePrefix : String} (line : LinePrefix linePrefix) (l : List Char) :
    (Text.stripPrefix linePrefix (.ofList (Text.chomp l))).map Text.splitWhitespace =
      (Text.stripPrefix linePrefix (.ofList l)).map Text.splitWhitespace := by
  cases stripped : Text.stripPrefix linePrefix (.ofList l) with
  | some rest =>
    have whole : l = linePrefix.toList ++ rest.toList := by
      have same := congrArg String.toList (Text.stripPrefix_eq_some_iff.mp stripped)
      simpa using same
    have chomped : Text.stripPrefix linePrefix (.ofList (Text.chomp l)) =
        some (.ofList (Text.chomp rest.toList)) := by
      rw [Text.stripPrefix_eq_some_iff, whole, Text.chomp_append_of_notMem line.inLine,
        String.ofList_append, String.ofList_toList]
    rw [chomped, Option.map_some, Option.map_some, Text.splitWhitespace, String.toList_ofList,
      Text.fields_chomp, Text.splitWhitespace]
  | none =>
    cases chomped : Text.stripPrefix linePrefix (.ofList (Text.chomp l)) with
    | none => rfl
    | some rest =>
      -- What the chomped line starts with, the line starts with.
      obtain ⟨ending, whole⟩ := Text.chomp_prefix l
      have same := Text.stripPrefix_eq_some_iff.mp chomped
      have started : Text.stripPrefix linePrefix (.ofList l) =
          some (rest ++ .ofList ending) := by
        rw [Text.stripPrefix_eq_some_iff, ← whole, String.ofList_append, same, String.append_assoc]
      rw [stripped] at started
      cases started

/-- The rows of a section are its lines without their prefix, split at white space. -/
theorem rows_eq {linePrefix : String} (line : LinePrefix linePrefix) (content : String) :
    rows content linePrefix = ((Text.lines content).filterMap (Text.stripPrefix linePrefix)).map
      Text.splitWhitespace := by
  have blank : (Text.stripPrefix linePrefix "").map Text.splitWhitespace = none := by
    cases stripped : Text.stripPrefix linePrefix "" with
    | none => rfl
    | some rest =>
      have same := Text.stripPrefix_eq_some_iff.mp stripped
      rw [eq_comm, String.append_eq_empty_iff] at same
      exact absurd same.1 line.nonempty
  rw [rows, List.map_filterMap, List.map_filterMap, Text.split, List.filterMap_map]
  exact (Text.filterMap_lines (fun l => (Text.stripPrefix linePrefix l).map Text.splitWhitespace)
    blank (row_chomp line) content).symm

/-- **What a section is read from**: the fields of the lines that start with its prefix. -/
theorem sectionValues_eq {linePrefix : String} (line : LinePrefix linePrefix) (content : String) :
    sectionValues content linePrefix = valuesOfRows linePrefix (rows content linePrefix) := by
  rw [rows_eq line, sectionValues]
  cases (Text.lines content).filterMap (Text.stripPrefix linePrefix) with
  | nil => rfl
  | cons headers rest =>
    cases rest with
    | nil => rfl
    | cons values rest => rfl

/-! ## What the lines say -/

/-- The first two lines that start with a prefix have these fields after it. -/
def SectionIs (content linePrefix : String) (headers values : List String) : Prop :=
  ∃ before between after headersLine valuesLine,
    Text.lines content = before ++ (linePrefix ++ headersLine) ::
      (between ++ (linePrefix ++ valuesLine) :: after) ∧
    (∀ line ∈ before ++ between, ¬ linePrefix.toList <+: line.toList) ∧
    headers = Text.splitWhitespace headersLine ∧ values = Text.splitWhitespace valuesLine

/-- The value in the column of the first occurrence of a name is this number. -/
def ColumnIs (headers values : List String) (name : String) (value : UInt64) : Prop :=
  ∃ (i : ℕ) (raw : String), headers[i]? = some name ∧ (∀ j < i, headers[j]? ≠ some name) ∧
    values[i]? = some raw ∧ Text.parseU64 raw = some value

/-- A line without the prefix is not of the section. -/
theorem stripPrefix_eq_none_iff {linePrefix line : String} :
    Text.stripPrefix linePrefix line = none ↔ ¬ linePrefix.toList <+: line.toList := by
  rw [Text.stripPrefix]
  split
  next starts => simp [starts]
  next other => simp [other]

/-- A section is what its first two rows say. -/
theorem sectionIs_iff {linePrefix : String} (line : LinePrefix linePrefix) {content : String}
    {headers values : List String} :
    SectionIs content linePrefix headers values ↔
      ∃ rest, rows content linePrefix = headers :: values :: rest := by
  rw [rows_eq line]
  constructor
  · intro given
    obtain ⟨before, between, after, headersLine, valuesLine, lines, foreign, rfl, rfl⟩ := given
    have skipped (part : List String) (inside : ∀ line ∈ part, line ∈ before ++ between) :
        part.filterMap (Text.stripPrefix linePrefix) = [] := by
      refine List.filterMap_eq_nil_iff.mpr fun line mem => ?_
      exact stripPrefix_eq_none_iff.mpr (foreign line (inside line mem))
    have header := Text.stripPrefix_eq_some_iff.mpr (rfl : linePrefix ++ headersLine = _)
    have value := Text.stripPrefix_eq_some_iff.mpr (rfl : linePrefix ++ valuesLine = _)
    rw [lines, List.filterMap_append, skipped before fun _ => List.mem_append_left _,
      List.nil_append, List.filterMap_cons_some header, List.filterMap_append,
      skipped between fun _ => List.mem_append_right _, List.nil_append,
      List.filterMap_cons_some value]
    exact ⟨_, rfl⟩
  · intro given
    obtain ⟨rest, rows⟩ := given
    obtain ⟨headersLine, others, lines, rfl, later⟩ := List.map_eq_cons_iff.mp rows
    obtain ⟨valuesLine, others, rfl, rfl, -⟩ := List.map_eq_cons_iff.mp later
    obtain ⟨before, first, afterFirst, split, foreign, header, lines⟩ :=
      List.filterMap_eq_cons_iff.mp lines
    obtain ⟨between, second, after, rfl, foreign', value, -⟩ :=
      List.filterMap_eq_cons_iff.mp lines
    rw [Text.stripPrefix_eq_some_iff] at header value
    subst header value
    refine ⟨before, between, after, headersLine, valuesLine, split, fun line mem => ?_, rfl, rfl⟩
    rw [← stripPrefix_eq_none_iff]
    exact (List.mem_append.mp mem).elim (foreign line) (foreign' line)

/-- A counter is read from the column of the first occurrence of its name. -/
theorem requiredU64_eq_ok_iff {headers values : List String} (length : headers.length = values.length)
    {linePrefix name : String} {value : UInt64} :
    requiredU64 (headers.zip values) linePrefix name = .ok value ↔
      ColumnIs headers values name value := by
  have column {raw : String} : (headers.zip values).find? (·.1 = name) = some (name, raw) ↔
      ∃ i : ℕ, headers[i]? = some name ∧ (∀ j < i, headers[j]? ≠ some name) ∧
        values[i]? = some raw := by
    rw [List.find?_eq_some_iff_getElem]
    constructor
    · intro found
      obtain ⟨-, i, inside, is, first⟩ := found
      rw [List.getElem_zip, Prod.mk.injEq] at is
      refine ⟨i, ?_, fun j before same => ?_, ?_⟩
      · exact List.getElem?_eq_some_iff.mpr ⟨_, is.1⟩
      · have other := first j before
        rw [List.getElem?_eq_some_iff] at same
        obtain ⟨_, same⟩ := same
        rw [List.getElem_zip, same] at other
        simp at other
      · exact List.getElem?_eq_some_iff.mpr ⟨_, is.2⟩
    · intro found
      obtain ⟨i, here, first, is⟩ := found
      obtain ⟨inside, here⟩ := List.getElem?_eq_some_iff.mp here
      obtain ⟨inside', is⟩ := List.getElem?_eq_some_iff.mp is
      refine ⟨by simp, i, by rw [List.length_zip]; omega, ?_, fun j before => ?_⟩
      · rw [List.getElem_zip, here, is]
      · have other := first j before
        rw [List.getElem?_eq_getElem (by omega)] at other
        rw [List.getElem_zip]
        simpa using fun same => other (congrArg some same)
  rw [requiredU64]
  constructor
  · intro read
    split at read
    next => cases read
    next name' raw found =>
      have same : name' = name := by simpa using List.find?_some found
      subst same
      obtain ⟨i, here, first, is⟩ := column.mp found
      split at read
      next => cases read
      next parsed =>
        cases read
        exact ⟨i, raw, here, first, is, parsed⟩
  · intro given
    obtain ⟨i, raw, here, first, is, parsed⟩ := given
    rw [column.mpr ⟨i, here, first, is⟩]
    dsimp only
    rw [parsed]

/-! ## Edits of a text -/

/-- A list with elements of a kind inserted anywhere. -/
inductive Inserted {α : Type} (kind : α → Prop) : List α → List α → Prop
  | nil : Inserted kind [] []
  | keep {l l' : List α} (a : α) (rest : Inserted kind l l') : Inserted kind (a :: l) (a :: l')
  | insert {l l' : List α} {a : α} (known : kind a) (rest : Inserted kind l l') :
    Inserted kind l (a :: l')

/-- A line of a section with other white space between its fields, or the same line. -/
inductive Respaced (linePrefix : String) : String → String → Prop
  | same (line : String) : Respaced linePrefix line line
  | fields {rest rest' : String} (same : Text.splitWhitespace rest = Text.splitWhitespace rest') :
    Respaced linePrefix (linePrefix ++ rest) (linePrefix ++ rest')

/-- Lines of other sections do not bear on the rows. -/
theorem rows_of_inserted {linePrefix content content' : String}
    (inserted : Inserted (fun line => ¬ linePrefix.toList <+: line.toList)
      (Text.split content '\n') (Text.split content' '\n')) :
    rows content' linePrefix = rows content linePrefix := by
  have kept {l l' : List String}
      (inserted : Inserted (fun line => ¬ linePrefix.toList <+: line.toList) l l') :
      l'.filterMap (Text.stripPrefix linePrefix) = l.filterMap (Text.stripPrefix linePrefix) := by
    induction inserted with
    | nil => rfl
    | keep a _ ih => rw [List.filterMap_cons, List.filterMap_cons, ih]
    | insert foreign _ ih => rw [List.filterMap_cons_none (stripPrefix_eq_none_iff.mpr foreign), ih]
  rw [rows, rows, kept inserted]

/-- Nor does how the fields are spaced. -/
theorem rows_of_respaced {linePrefix content content' : String}
    (respaced : List.Forall₂ (Respaced linePrefix) (Text.split content '\n')
      (Text.split content' '\n')) :
    rows content' linePrefix = rows content linePrefix := by
  rw [rows, rows, List.map_filterMap, List.map_filterMap]
  generalize Text.split content '\n' = lines at respaced ⊢
  generalize Text.split content' '\n' = lines' at respaced ⊢
  induction respaced with
  | nil => rfl
  | cons alike _ ih =>
    rw [List.filterMap_cons, List.filterMap_cons, ih]
    cases alike with
    | same line => rfl
    | @fields rest rest' same =>
      have first := Text.stripPrefix_eq_some_iff.mpr (rfl : linePrefix ++ rest = _)
      have second := Text.stripPrefix_eq_some_iff.mpr (rfl : linePrefix ++ rest' = _)
      rw [first, second, Option.map_some, Option.map_some, same]

/-! ## Parsers -/

/-- What a parser of a section does: it reads some counters, each by its name. -/
structure Reads {γ : Type} (parse : String → Except ParseError γ) (linePrefix : String)
    (names : List String) (counters : γ → List UInt64) : Prop where
  line : LinePrefix linePrefix
  ok : ∀ content result, parse content = .ok result ↔
    ∃ values, sectionValues content linePrefix = .ok values ∧
      List.Forall₂ (fun name value => requiredU64 values linePrefix name = .ok value) names
        (counters result)
  congr : ∀ content content',
    (∀ name ∈ names, sectionField content' linePrefix name = sectionField content linePrefix name) →
      parse content' = parse content

/-- **A parser by name.** It succeeds exactly when the first two lines of the section have as many
fields each and the columns it wants are there and hold numbers, and then it gives these. What it
gives does not depend on lines of other sections, on the white space between fields, on the order of
the columns, or on other columns. -/
structure ByName {γ : Type} (parse : String → Except ParseError γ) (linePrefix : String)
    (names : List String) (counters : γ → List UInt64) : Prop where
  ok : ∀ content result, parse content = .ok result ↔
    ∃ headers values, SectionIs content linePrefix headers values ∧
      headers.length = values.length ∧
      List.Forall₂ (ColumnIs headers values) names (counters result)
  lines : ∀ content content',
    Inserted (fun line => ¬ linePrefix.toList <+: line.toList) (Text.split content '\n')
      (Text.split content' '\n') → parse content' = parse content
  spaces : ∀ content content',
    List.Forall₂ (Respaced linePrefix) (Text.split content '\n') (Text.split content' '\n') →
      parse content' = parse content
  columns : ∀ content content' headers values headers' values',
    SectionIs content linePrefix headers values → headers.length = values.length →
    SectionIs content' linePrefix headers' values' → headers'.length = values'.length →
    headers.Nodup → (∃ extra : List (String × String), (∀ column ∈ extra, column.1 ∉ names) ∧
      (headers'.zip values').Perm (headers.zip values ++ extra)) →
      parse content' = parse content

namespace Reads

variable {γ : Type} {parse : String → Except ParseError γ} {linePrefix : String}
  {names : List String} {counters : γ → List UInt64} (reads : Reads parse linePrefix names counters)

include reads

/-- The values of a section of these rows. -/
theorem sectionValues_of_sectionIs {content : String} {headers values : List String}
    (is : SectionIs content linePrefix headers values) (length : headers.length = values.length) :
    sectionValues content linePrefix = .ok (headers.zip values) := by
  obtain ⟨rest, rows⟩ := (sectionIs_iff reads.line).mp is
  rw [sectionValues_eq reads.line, rows, valuesOfRows, if_neg (not_not_intro length)]

/-- A section is read if it has two rows of the same length. -/
theorem sectionValues_eq_ok_iff {content : String} {columns : List (String × String)} :
    sectionValues content linePrefix = .ok columns ↔
      ∃ headers values, SectionIs content linePrefix headers values ∧
        headers.length = values.length ∧ columns = headers.zip values := by
  constructor
  · intro given
    rw [sectionValues_eq reads.line] at given
    cases is : rows content linePrefix with
    | nil =>
      rw [is] at given
      cases given
    | cons headers rest =>
      cases rest with
      | nil =>
        rw [is] at given
        cases given
      | cons values rest =>
        rw [is, valuesOfRows] at given
        split at given
        next => cases given
        next length =>
          cases given
          exact ⟨headers, values, (sectionIs_iff reads.line).mpr ⟨rest, is⟩, not_not.mp length, rfl⟩
  · intro given
    obtain ⟨headers, values, is, length, rfl⟩ := given
    exact reads.sectionValues_of_sectionIs is length

/-- What is parsed depends on the section only. -/
theorem of_sectionValues {content content' : String}
    (same : sectionValues content' linePrefix = sectionValues content linePrefix) :
    parse content' = parse content := by
  refine reads.congr content content' fun name _ => ?_
  rw [sectionField, sectionField, same]

/-- So it depends on the rows only. -/
theorem of_rows {content content' : String}
    (same : rows content' linePrefix = rows content linePrefix) :
    parse content' = parse content := by
  apply reads.of_sectionValues
  rw [sectionValues_eq reads.line, sectionValues_eq reads.line, same]

/-- **Reading each counter by its name** does not depend on order and other columns. -/
theorem of_columns {content content' : String} {headers values headers' values' : List String}
    (is : SectionIs content linePrefix headers values) (length : headers.length = values.length)
    (is' : SectionIs content' linePrefix headers' values')
    (length' : headers'.length = values'.length) (distinct : headers.Nodup)
    {extra : List (String × String)} (others : ∀ column ∈ extra, column.1 ∉ names)
    (perm : (headers'.zip values').Perm (headers.zip values ++ extra)) :
    parse content' = parse content := by
  refine reads.congr content content' fun name mem => ?_
  have keys : ((headers.zip values).map Prod.fst).Nodup := by
    rw [List.map_fst_zip (Nat.le_of_eq length)]
    exact distinct
  have found : (headers'.zip values').find? (·.1 = name) =
      (headers.zip values).find? (·.1 = name) := by
    refine Keyed.find?_of_perm_append keys perm fun column inside same => ?_
    exact others column inside (same ▸ mem)
  rw [sectionField, sectionField, reads.sectionValues_of_sectionIs is length,
    reads.sectionValues_of_sectionIs is' length']
  show requiredU64 _ _ _ = requiredU64 _ _ _
  rw [requiredU64, requiredU64, found]

/-- **Such a parser reads by name.** -/
theorem byName : ByName parse linePrefix names counters := by
  refine ⟨?_, ?_, ?_, ?_⟩
  · intro content result
    rw [reads.ok]
    constructor
    · intro given
      obtain ⟨columns, parsed, read⟩ := given
      obtain ⟨headers, values, is, length, rfl⟩ := reads.sectionValues_eq_ok_iff.mp parsed
      exact ⟨headers, values, is, length, read.imp fun _ _ => (requiredU64_eq_ok_iff length).mp⟩
    · intro given
      obtain ⟨headers, values, is, length, read⟩ := given
      exact ⟨headers.zip values, reads.sectionValues_of_sectionIs is length,
        read.imp fun _ _ => (requiredU64_eq_ok_iff length).mpr⟩
  · intro content content' inserted
    exact reads.of_rows (rows_of_inserted inserted)
  · intro content content' respaced
    exact reads.of_rows (rows_of_respaced respaced)
  · intro content content' headers values headers' values' is length is' length' distinct edited
    obtain ⟨extra, others, perm⟩ := edited
    exact reads.of_columns is length is' length' distinct others perm

end Reads

/-- `parseSnmp` is one, -/
theorem reads_parseSnmp : Reads parseSnmp "Tcp:" ["RetransSegs", "OutSegs", "InSegs", "CurrEstab"]
    fun c => [c.retransSegs, c.outSegs, c.inSegs, c.currEstab] := by
  refine ⟨⟨by decide, by decide⟩, fun content result => ?_, fun content content' same => ?_⟩
  · obtain ⟨retransSegs, outSegs, inSegs, currEstab⟩ := result
    simp only [parseSnmp, Results.bind_eq_ok_iff, List.forall₂_cons, List.forall₂_nil_left_iff, and_true]
    refine exists_congr fun values => and_congr_right fun _ => ?_
    constructor
    · intro given
      obtain ⟨_, first, _, second, _, third, _, fourth, made⟩ := given
      cases made
      exact ⟨first, second, third, fourth⟩
    · intro given
      exact ⟨_, given.1, _, given.2.1, _, given.2.2.1, _, given.2.2.2, rfl⟩
  · simp only [List.mem_cons, List.not_mem_nil, or_false] at same
    rw [parseSnmp_eq, parseSnmp_eq, same _ (.inl rfl), same _ (.inr (.inl rfl)),
      same _ (.inr (.inr (.inl rfl))), same _ (.inr (.inr (.inr rfl)))]

/-- and so is `parseNetstat`. -/
theorem reads_parseNetstat : Reads parseNetstat "TcpExt:" ["TCPTimeouts", "TCPFastRetrans"]
    fun c => [c.tcpTimeouts, c.tcpFastRetrans] := by
  refine ⟨⟨by decide, by decide⟩, fun content result => ?_, fun content content' same => ?_⟩
  · obtain ⟨tcpTimeouts, tcpFastRetrans⟩ := result
    simp only [parseNetstat, Results.bind_eq_ok_iff, List.forall₂_cons, List.forall₂_nil_left_iff, and_true]
    refine exists_congr fun values => and_congr_right fun _ => ?_
    constructor
    · intro given
      obtain ⟨_, first, _, second, made⟩ := given
      cases made
      exact ⟨first, second⟩
    · intro given
      exact ⟨_, given.1, _, given.2, rfl⟩
  · simp only [List.mem_cons, List.not_mem_nil, or_false] at same
    rw [parseNetstat_eq, parseNetstat_eq, same _ (.inl rfl), same _ (.inr rfl)]

/-- **Both parsers read by name.** -/
theorem proc_net_by_name :
    ByName parseSnmp "Tcp:" ["RetransSegs", "OutSegs", "InSegs", "CurrEstab"]
      (fun c => [c.retransSegs, c.outSegs, c.inSegs, c.currEstab]) ∧
    ByName parseNetstat "TcpExt:" ["TCPTimeouts", "TCPFastRetrans"]
      (fun c => [c.tcpTimeouts, c.tcpFastRetrans]) :=
  ⟨reads_parseSnmp.byName, reads_parseNetstat.byName⟩

example : parseNetstat "IpExt: A\nTcpExt: TCPFastRetrans  X TCPTimeouts\r\nTcpExt: 7 -1 3" =
    .ok ⟨3, 7⟩ := by
  rfl

end Talia
