import Talia.Lib.JsonRoundTrip
import Talia.Lib.Split

/-!
# JSON lines

A value printed without white space has no line break in it, since strings escape theirs. So values
that are printed on a line each can be told apart again (`lines_printed`).

A fraction is read back as it is spelled (`parseValue_fraction`). Which decimals a floating-point
number is written with is not told here: `Fraction` is what any printer of them writes.
-/

namespace Json

open Serde

/-! ## Fractions -/

/-- Digits, one at least. -/
def Digits (ds : List Char) : Prop := ds ≠ [] ∧ ∀ c ∈ ds, c.isDigit = true

/-- A number with decimals, or an exponent, or both. -/
structure Fraction where
  negative : Bool
  whole : List Char
  decimals : Option (List Char)
  exponent : Option (Bool × List Char)
  whole_digits : Digits whole
  no_leading_zero : ¬ (whole.head? = some '0' ∧ whole.length ≠ 1)
  decimals_digits : ∀ ds ∈ decimals, Digits ds
  exponent_digits : ∀ e ∈ exponent, Digits e.2
  fractional : decimals ≠ none ∨ exponent ≠ none

namespace Fraction

def sign (negative : Bool) : List Char := if negative then ['-'] else []

def point (x : Fraction) : List Char := x.decimals.elim [] ('.' :: ·)

def power (x : Fraction) : List Char :=
  x.exponent.elim [] fun (negative, ds) => 'e' :: (sign negative ++ ds)

def chars (x : Fraction) : List Char := sign x.negative ++ x.whole ++ (x.point ++ x.power)

def spelling (x : Fraction) : String := String.ofList x.chars

variable (x : Fraction)

/-- A fraction has a point or a power. -/
theorem tail_ne_nil : x.point ++ x.power ≠ [] := by
  unfold point power
  rcases x.fractional with decimals | exponent
  · obtain ⟨ds, some⟩ := Option.ne_none_iff_exists'.mp decimals
    rw [some]
    exact List.cons_ne_nil _ _
  · obtain ⟨e, some⟩ := Option.ne_none_iff_exists'.mp exponent
    rw [some]
    exact List.append_ne_nil_of_right_ne_nil _ (List.cons_ne_nil _ _)

variable {rest : List Char}

/-- The sign is read off first. -/
theorem parseSign_sign (negative : Bool) {ds : List Char} (digits : Digits ds) :
    parseSign (sign negative ++ (ds ++ rest)) = (sign negative, ds ++ rest) := by
  cases negative with
  | true => rfl
  | false =>
    obtain ⟨ne, each⟩ := digits
    obtain ⟨d, ds, rfl⟩ := List.exists_cons_of_ne_nil ne
    have digit := each d List.mem_cons_self
    show parseSign (d :: (ds ++ rest)) = ([], d :: (ds ++ rest))
    rw [parseSign]
    · rintro _ ⟨⟩
      cases digit
    · rintro _ ⟨⟩
      cases digit

/-- Then, after the digits and the point, the power. -/
theorem parseExponent_power (stops : Stops rest) :
    parseExponent (x.power ++ rest) = some (x.power, rest) := by
  unfold power
  cases some : x.exponent with
  | none => exact parseExponent_stops stops
  | some e =>
    obtain ⟨negative, ds⟩ := e
    have digits : Digits ds := x.exponent_digits _ some
    have read := parseDigits_print digits.2 digits.1 fun c cs h => (stops c cs h).1
    simp only [Option.elim_some, List.cons_append, List.append_assoc, parseExponent, true_or,
      if_true, parseSign_sign negative digits, read, Option.bind_eq_bind, Option.bind_some]

/-- What follows the decimals is neither a digit nor another point. -/
theorem power_head (stops : Stops rest) {c : Char} {cs : List Char}
    (head : x.power ++ rest = c :: cs) : c.isDigit = false ∧ c ≠ '.' := by
  unfold power at head
  cases some : x.exponent with
  | none =>
    rw [some] at head
    obtain ⟨digit, point, -⟩ := stops c cs head
    exact ⟨digit, point⟩
  | some e =>
    rw [some] at head
    cases head
    decide

/-- The point is read with its digits. -/
theorem parseFraction_point (stops : Stops rest) :
    parseFraction (x.point ++ (x.power ++ rest)) = some (x.point, x.power ++ rest) := by
  have head {c : Char} {cs : List Char} (starts : x.power ++ rest = c :: cs) :
      c.isDigit = false ∧ c ≠ '.' := x.power_head stops starts
  unfold point
  generalize x.power ++ rest = later at head
  cases some : x.decimals with
  | none =>
    show parseFraction later = Option.some ([], later)
    rw [parseFraction]
    rintro cs rfl
    exact (head rfl).2 rfl
  | some ds =>
    have digits : Digits ds := x.decimals_digits ds some
    have read := parseDigits_print digits.2 digits.1 fun c cs h => (head h).1
    simp only [Option.elim_some, List.cons_append, parseFraction, read, Option.bind_eq_bind,
      Option.bind_some]

/-- What follows the whole part is no digit. -/
theorem point_head (stops : Stops rest) {c : Char} {cs : List Char}
    (head : x.point ++ (x.power ++ rest) = c :: cs) : c.isDigit = false := by
  unfold point at head
  cases some : x.decimals with
  | none =>
    rw [some] at head
    exact (x.power_head stops head).1
  | some ds =>
    rw [some] at head
    cases head
    rfl

/-- What follows the sign is read as a number that is no integer. -/
theorem parseUnsigned_whole (stops : Stops rest) :
    parseUnsigned x.negative (x.whole ++ (x.point ++ (x.power ++ rest))) =
      some (.float x.spelling, rest) := by
  obtain ⟨ne, digits⟩ := x.whole_digits
  have read := parseDigits_print digits ne fun c cs h => x.point_head stops h
  simp only [parseUnsigned, read, Option.bind_eq_bind, Option.bind_some, if_neg x.no_leading_zero,
    x.parseFraction_point stops, x.parseExponent_power stops, number, ne_eq, x.tail_ne_nil,
    not_false_eq_true, if_true]
  rfl

/-- A fraction starts like a number. -/
theorem chars_head : ∃ d ds, x.chars = d :: ds ∧ (d = '-' ∨ d.isDigit = true) := by
  obtain ⟨ne, digits⟩ := x.whole_digits
  obtain ⟨d, ds, whole⟩ := List.exists_cons_of_ne_nil ne
  unfold chars
  cases x.negative with
  | true => exact ⟨'-', _, rfl, .inl rfl⟩
  | false =>
    rw [whole]
    exact ⟨d, _, rfl, .inr (digits d (whole ▸ List.mem_cons_self))⟩

/-- **A fraction is read back.** -/
theorem parseNumber_chars (stops : Stops rest) :
    parseNumber (x.chars ++ rest) = some (.float x.spelling, rest) := by
  have read := x.parseUnsigned_whole stops
  rw [chars, List.append_assoc, List.append_assoc, List.append_assoc]
  cases negative : x.negative with
  | true =>
    rw [negative] at read
    rw [sign, if_pos rfl, List.singleton_append, parseNumber, if_pos rfl]
    exact read
  | false =>
    rw [negative] at read
    obtain ⟨ne, digits⟩ := x.whole_digits
    obtain ⟨d, ds, whole⟩ := List.exists_cons_of_ne_nil ne
    rw [sign, if_neg Bool.false_ne_true, List.nil_append]
    rw [whole, List.cons_append] at read ⊢
    rw [parseNumber, if_neg]
    · exact read
    · rintro rfl
      cases digits '-' (whole ▸ List.mem_cons_self)

end Fraction

/-- **A fraction is read back** as it is spelled. -/
theorem parseValue_fraction (f : Layout) (indent depth : Nat) (x : Fraction) {rest : List Char}
    (stops : Stops rest) :
    parseValue depth (print f indent (.float x.spelling) ++ rest) =
      some (.float x.spelling, rest) := by
  obtain ⟨d, ds, head, hd⟩ := x.chars_head
  obtain ⟨-, -, -, seq, map⟩ := number_head hd
  rw [print, Fraction.spelling, String.toList_ofList, head, List.cons_append,
    parseValue_scalar _ _ seq map, parseScalar_number _ hd, ← List.cons_append, ← head]
  exact x.parseNumber_chars stops

/-- It starts like a value. -/
theorem starts_fraction (f : Layout) (indent : Nat) (x : Fraction) :
    Starts f indent (.float x.spelling) := by
  obtain ⟨d, ds, head, hd⟩ := x.chars_head
  obtain ⟨space, close, close', -⟩ := number_head hd
  refine ⟨d, ds, ?_, space, close, close'⟩
  rw [print, Fraction.spelling, String.toList_ofList, head]

/-! ## Values on a line -/

/-- The value has no line break in it, printed without white space. -/
def OneLine (c : Content) : Prop := ∀ indent, '\n' ∉ print compact indent c

/-- A line feed is escaped. -/
theorem escape_oneLine (c : Char) : '\n' ∉ escape c := by
  have hex : ∀ n < 16, '\n' ≠ hexChar n := by decide
  unfold escape
  split_ifs with _ _ _ _ newline _ _ control
  iterate 7 decide
  · -- A control character: of what is written, only the last two digits depend on it.
    have high := hex (c.toNat / 16) (by omega)
    have low := hex (c.toNat % 16) (Nat.mod_lt _ (by decide))
    simp [high, low]
  · intro mem
    rw [← List.mem_singleton.mp mem] at newline
    exact newline rfl

/-- So strings are printed on one line. -/
theorem printStr_oneLine (s : String) : '\n' ∉ printStr s := by
  intro mem
  rcases List.mem_cons.mp mem with quote | mem
  · cases quote
  rcases List.mem_append.mp mem with inside | quote
  · obtain ⟨c, -, escaped⟩ := List.mem_flatMap.mp inside
    exact escape_oneLine c escaped
  · cases List.mem_singleton.mp quote

theorem oneLine_str (s : String) : OneLine (.str s) := fun _ => printStr_oneLine s

theorem oneLine_unit : OneLine .unit := by
  intro indent
  rw [print]
  decide

/-- A line feed is no digit. -/
theorem not_digit_newline {ds : List Char} (digits : ∀ c ∈ ds, c.isDigit = true) : '\n' ∉ ds := by
  intro mem
  cases digits '\n' mem

/-- Integers are printed on one line. -/
theorem oneLine_int (n : Int) : OneLine (.int n) := by
  intro indent
  have digits : '\n' ∉ Nat.toDigits 10 n.natAbs := not_digit_newline fun c mem =>
    Nat.isDigit_of_mem_toDigits (by decide) (by decide) mem
  rw [print, printInt]
  split
  · exact List.not_mem_cons_of_ne_of_not_mem (by decide) digits
  · exact digits

/-- Fractions are printed on one line. -/
theorem oneLine_fraction (x : Fraction) : OneLine (.float x.spelling) := by
  intro indent
  have sign (negative : Bool) : '\n' ∉ Fraction.sign negative := by
    cases negative <;> decide
  have point : '\n' ∉ x.point := by
    unfold Fraction.point
    cases some : x.decimals with
    | none => exact List.not_mem_nil
    | some ds =>
      exact List.not_mem_cons_of_ne_of_not_mem (by decide)
        (not_digit_newline (x.decimals_digits ds some).2)
  have power : '\n' ∉ x.power := by
    unfold Fraction.power
    cases some : x.exponent with
    | none => exact List.not_mem_nil
    | some e =>
      exact List.not_mem_cons_of_ne_of_not_mem (by decide) (List.not_mem_append (sign e.1)
        (not_digit_newline (x.exponent_digits e some).2))
  rw [print, Fraction.spelling, String.toList_ofList, Fraction.chars]
  exact List.not_mem_append (List.not_mem_append (sign _) (not_digit_newline x.whole_digits.2))
    (List.not_mem_append point power)

/-- An entry is printed on one line if its value is. -/
theorem printEntry_oneLine (indent : Nat) (key : String) {c : Content} (value : OneLine c) :
    '\n' ∉ printStr key ++ compact.colon ++ print compact indent c :=
  List.not_mem_append (List.not_mem_append (printStr_oneLine key) (by decide)) (value indent)

/-- Entries are printed on one line if their values are. -/
theorem printEntries_oneLine (indent : Nat) {entries : List (String × Content)}
    (values : ∀ e ∈ entries, OneLine e.2) : '\n' ∉ printEntries compact indent entries := by
  induction entries with
  | nil => exact List.not_mem_nil
  | cons entry entries ih =>
    obtain ⟨key, c⟩ := entry
    have first := printEntry_oneLine indent key (values (key, c) List.mem_cons_self)
    have later := ih fun e mem => values e (List.mem_cons_of_mem _ mem)
    exact List.not_mem_cons_of_ne_of_not_mem (by decide) (List.not_mem_append first later)

/-- An object is printed on one line if its values are. -/
theorem oneLine_map {entries : List (String × Content)} (values : ∀ e ∈ entries, OneLine e.2) :
    OneLine (.map entries) := by
  intro indent
  cases entries with
  | nil =>
    rw [print]
    decide
  | cons entry entries =>
    obtain ⟨key, c⟩ := entry
    have first := printEntry_oneLine (indent + 1) key (values (key, c) List.mem_cons_self)
    have later : '\n' ∉ printEntries compact (indent + 1) entries :=
      printEntries_oneLine (indent + 1) fun e mem => values e (List.mem_cons_of_mem _ mem)
    have body := List.not_mem_append (List.not_mem_append first later)
      (show '\n' ∉ ['}'] by decide)
    simp only [print, compact, List.nil_append, List.append_nil] at body ⊢
    exact List.not_mem_cons_of_ne_of_not_mem (by decide) body

/-! ## Values that are read back -/

/-- A value that is read back from where it stands in a line. -/
structure Legible (depth : Nat) (c : Content) : Prop where
  starts : ∀ indent, Starts compact indent c
  reads : ∀ indent rest, Stops rest →
    parseValue depth (print compact indent c ++ rest) = some (c, rest)
  oneLine : OneLine c

section Legible

variable {depth : Nat}

/-- What fits is read back. -/
theorem legible_of_fits {c : Content} (fits : Fits depth c) (oneLine : OneLine c) :
    Legible depth c where
  starts := fun indent => print_head compact indent fits
  reads := parseValue_print compact_blank fits
  oneLine := oneLine

theorem legible_unit : Legible depth .unit := legible_of_fits .unit oneLine_unit

theorem legible_str (s : String) : Legible depth (.str s) := legible_of_fits (.str s) (oneLine_str s)

/-- Integers in the range of the two 64-bit types are legible. -/
theorem legible_int {n : Int} (low : -2 ^ 63 ≤ n) (high : n < 2 ^ 64) : Legible depth (.int n) :=
  legible_of_fits (.int low high) (oneLine_int n)

/-- Fractions are legible. -/
theorem legible_fraction (x : Fraction) : Legible depth (.float x.spelling) where
  starts := fun indent => starts_fraction compact indent x
  reads := fun indent _ => parseValue_fraction compact indent depth x
  oneLine := oneLine_fraction x

/-- Objects of what is legible are legible, one level deeper. -/
theorem legible_map {entries : List (String × Content)} (values : ∀ e ∈ entries, Legible depth e.2) :
    Legible (depth + 1) (.map entries) where
  starts := by
    intro indent
    cases entries <;> exact ⟨'{', _, by rw [print], by decide, by decide, by decide⟩
  reads := fun indent rest _ => parseValue_map compact_blank indent
    (fun e mem => (values e mem).starts (indent + 1))
    (fun e mem => (values e mem).reads (indent + 1)) rest
  oneLine := oneLine_map fun e mem => (values e mem).oneLine

end Legible

/-- The round trip of texts, for values with fractions. -/
theorem parseText_of_legible {c : Content} (legible : Legible depthLimit c) :
    parseText (printText compact c) = some c := by
  have reads := legible.reads 0 [] stops_nil
  have start := skipSpace_print (legible.starts 0) []
  rw [List.append_nil] at reads start
  simp only [parseText, printText, String.toList_ofList, start, reads]
  rfl

/-- An object ends with a brace. -/
theorem print_map_concat (f : Layout) (indent : Nat) (entries : List (String × Content)) :
    ∃ l, print f indent (.map entries) = l ++ ['}'] := by
  cases entries with
  | nil => exact ⟨['{'], by rw [print]; rfl⟩
  | cons entry entries =>
    obtain ⟨key, c⟩ := entry
    rw [print, ← List.cons_append]
    exact ⟨_, rfl⟩

/-- Objects, each on a line of its own. -/
def printLines (objects : List (List (String × Content))) : String :=
  String.ofList (objects.flatMap fun entries => print compact 0 (.map entries) ++ ['\n'])

/-- **Objects printed on a line each are told apart** by their lines. -/
theorem lines_printLines {objects : List (List (String × Content))}
    (oneLine : ∀ entries ∈ objects, OneLine (.map entries)) :
    Text.lines (printLines objects) =
      objects.map fun entries => printText compact (.map entries) := by
  have whole : ∀ l ∈ objects.map fun entries => print compact 0 (.map entries), '\n' ∉ l := by
    intro l printed
    obtain ⟨entries, mem, rfl⟩ := List.mem_map.mp printed
    exact oneLine entries mem 0
  have lines := Text.lines_of_ended whole
  rw [List.flatMap_map, List.map_map] at lines
  rw [printLines, lines]
  refine List.map_congr_left fun entries _ => ?_
  obtain ⟨l, ends⟩ := print_map_concat compact 0 entries
  show String.ofList (Text.chomp (print compact 0 (.map entries))) = _
  rw [printText, ends, Text.chomp_concat, if_neg (by decide)]

end Json
