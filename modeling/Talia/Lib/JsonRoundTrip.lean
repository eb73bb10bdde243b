import Talia.Lib.JsonLaws

/-!
# What the printer writes, the reader reads back

`Fits depth c` is the domain of the round trip: integers in the range of a 64-bit integer, no
fractions, nested at most `depth` deep. The induction of `parseValue_print` is on that
derivation, so a container's items come with their own hypothesis; the loops over items and
entries are inductions on the lists.

The rest of a text after a value matters only to numbers, which end where no more of a number
follows (`Stops`). Inside a container a value is always followed by a comma, a closing bracket or
white space, and each of those stops a number.
-/

namespace Json

open Serde

/-- The values the printer and the reader agree on. -/
inductive Fits : Nat → Content → Prop where
  | unit {depth : Nat} : Fits depth .unit
  | bool {depth : Nat} (b : Bool) : Fits depth (.bool b)
  | int {depth : Nat} {n : Int} (low : -2 ^ 63 ≤ n) (high : n < 2 ^ 64) : Fits depth (.int n)
  | str {depth : Nat} (s : String) : Fits depth (.str s)
  | seq {depth : Nat} {items : List Content} (each : ∀ item ∈ items, Fits depth item) :
      Fits (depth + 1) (.seq items)
  | map {depth : Nat} {entries : List (String × Content)}
      (each : ∀ entry ∈ entries, Fits depth entry.2) : Fits (depth + 1) (.map entries)

/-- The layout writes nothing but white space around the punctuation. -/
structure Layout.Blank (f : Layout) : Prop where
  newline : ∀ n, ∀ c ∈ f.newline n, isSpace c = true
  colon : ∃ ws, f.colon = ':' :: ws ∧ ∀ c ∈ ws, isSpace c = true

theorem compact_blank : compact.Blank :=
  ⟨fun _ _ h => (nomatch h), [], rfl, fun _ h => (nomatch h)⟩

theorem pretty_blank : pretty.Blank := by
  refine ⟨fun n c h => ?_, [' '], rfl, fun c h => ?_⟩
  · rcases List.mem_cons.mp h with rfl | h
    · rfl
    · rw [List.eq_of_mem_replicate h]
      rfl
  · rw [List.mem_singleton.mp h]
    rfl

/-- Space before a text is skipped. -/
theorem skipSpace_blank {ws : List Char} (h : ∀ c ∈ ws, isSpace c = true) (cs : List Char) :
    skipSpace (ws ++ cs) = skipSpace cs :=
  List.dropWhile_append_of_pos h

/-- Where there is no space, none is skipped. -/
theorem skipSpace_cons {c : Char} (h : isSpace c = false) (cs : List Char) :
    skipSpace (c :: cs) = c :: cs :=
  List.dropWhile_cons_of_neg (by rw [h]; exact Bool.false_ne_true)

/-! ## Strings -/

/-- Hexadecimal digits are read back. -/
theorem hexValue_hexChar : ∀ n < 16, hexValue (hexChar n) = some n := by decide

/-- A character is made of its number. -/
theorem eq_ofNat {c : Char} {n : Nat} (h : c.toNat = n) : Char.ofNat n = c := by
  rw [← h, Char.ofNat_toNat]

/-- One character of a literal is read back, whichever way it is written. -/
theorem parseStr_escape (n : Nat) (c : Char) (cs : List Char) :
    parseStr (n + 1) (escape c ++ cs) =
      (parseStr n cs).map fun p => (c :: p.1, p.2) := by
  have letter : ∀ {e : Char} {x : Char}, e ≠ 'u' → unescape e = some x →
      parseStr (n + 1) ('\\' :: e :: cs) = (parseStr n cs).map fun p => (x :: p.1, p.2) := by
    intro e x hu hx
    simp only [parseStr, parseEscape, hu, hx, Option.map_some, Option.bind_eq_bind,
      Option.bind_some, if_false, if_true, Char.reduceEq]
    cases parseStr n cs <;> rfl
  unfold escape
  split
  · next h =>
    subst h
    exact letter (by decide) rfl
  split
  · next h =>
    subst h
    exact letter (by decide) rfl
  split
  · next h => exact letter (by decide) (congrArg some (eq_ofNat h))
  split
  · next h => exact letter (by decide) (congrArg some (eq_ofNat h))
  split
  · next h => exact letter (by decide) (congrArg some (eq_ofNat h))
  split
  · next h => exact letter (by decide) (congrArg some (eq_ofNat h))
  split
  · next h => exact letter (by decide) (congrArg some (eq_ofNat h))
  split
  · next h =>
    -- A control character: four digits, of which the last two are its code.
    have digits : hex4 ('0' :: '0' :: hexChar (c.toNat / 16) :: hexChar (c.toNat % 16) :: cs) =
        some (c.toNat, cs) := by
      simp only [hex4, hexValue_hexChar _ (show c.toNat / 16 < 16 by omega),
        hexValue_hexChar _ (Nat.mod_lt c.toNat (by decide)), show hexValue '0' = some 0 from rfl,
        Option.bind_eq_bind, Option.bind_some, Option.some.injEq, Prod.mk.injEq, and_true]
      omega
    have notLow : ¬ (0xdc00 ≤ c.toNat ∧ c.toNat ≤ 0xdfff) := by omega
    have notHigh : ¬ (0xd800 ≤ c.toNat ∧ c.toNat ≤ 0xdbff) := by omega
    simp only [List.cons_append, List.nil_append, parseStr, parseEscape, digits, if_true,
      if_neg notLow, if_neg notHigh, Char.ofNat_toNat, Option.bind_eq_bind, Option.bind_some,
      Char.reduceEq, if_false]
    cases parseStr n cs <;> rfl
  · next hq hb _ _ _ _ _ hc =>
    simp only [List.cons_append, List.nil_append, parseStr, if_neg hq, if_neg hb, if_neg hc,
      Option.bind_eq_bind]
    cases parseStr n cs <;> rfl

/-- No character is escaped to an empty text. -/
theorem escape_ne_nil (c : Char) : escape c ≠ [] := by
  unfold escape
  repeat' split
  all_goals exact List.cons_ne_nil _ _

/-- **A printed string is read back**, with fuel for its characters. -/
theorem parseStr_print : ∀ (s : List Char) (n : Nat) (rest : List Char), s.length < n →
    parseStr n (s.flatMap escape ++ '"' :: rest) = some (s, rest)
  | [], n + 1, rest, _ => by
    rw [List.flatMap_nil, List.nil_append, parseStr, if_pos rfl]
  | c :: s, n + 1, rest, h => by
    rw [List.flatMap_cons, List.append_assoc, parseStr_escape,
      parseStr_print s n rest (Nat.lt_of_succ_lt_succ h), Option.map_some]

/-- A string literal is read back whatever follows it. -/
theorem parseStr_printStr (s : String) (rest : List Char) :
    parseStr (s.toList.flatMap escape ++ ('"' :: rest)).length
      (s.toList.flatMap escape ++ '"' :: rest) = some (s.toList, rest) := by
  refine parseStr_print _ _ _ ?_
  have longer : ∀ cs : List Char, cs.length ≤ (cs.flatMap escape).length := by
    intro cs
    induction cs with
    | nil => exact Nat.le_refl 0
    | cons c cs ih =>
      have := List.length_pos_of_ne_nil (escape_ne_nil c)
      rw [List.flatMap_cons, List.length_append, List.length_cons]
      omega
  have := longer s.toList
  rw [List.length_append, List.length_cons]
  omega

/-! ## Numbers -/

/-- What follows a number when it has ended. -/
def Stops (rest : List Char) : Prop :=
  ∀ c cs, rest = c :: cs → c.isDigit = false ∧ c ≠ '.' ∧ c ≠ 'e' ∧ c ≠ 'E'

/-- At the end of the text a number stops. -/
theorem stops_nil : Stops [] := fun _ _ h => nomatch h

/-- It stops at a character that goes on with no number. -/
theorem stops_cons {c : Char} {cs : List Char}
    (h : c.isDigit = false ∧ c ≠ '.' ∧ c ≠ 'e' ∧ c ≠ 'E') : Stops (c :: cs) := by
  rintro d ds ⟨⟩
  exact h

/-- So it does at space. -/
theorem stops_of_space {c : Char} {cs : List Char} (h : isSpace c = true) : Stops (c :: cs) := by
  simp only [isSpace, Bool.or_eq_true, decide_eq_true_eq] at h
  rcases h with ((rfl | rfl) | rfl) | rfl <;> exact stops_cons (by decide)

/-- White space and then a character that stops a number. -/
theorem stops_blank {ws : List Char} (h : ∀ c ∈ ws, isSpace c = true) {cs : List Char}
    (hs : Stops cs) : Stops (ws ++ cs) := by
  cases ws with
  | nil => exact hs
  | cons c ws => exact stops_of_space (h c List.mem_cons_self)

/-- Digits are read back up to what is none. -/
theorem parseDigits_print {ds rest : List Char} (digits : ∀ c ∈ ds, c.isDigit = true)
    (ne : ds ≠ []) (ends : ∀ c cs, rest = c :: cs → c.isDigit = false) :
    parseDigits (ds ++ rest) = some (ds, rest) := by
  have tail : rest.takeWhile Char.isDigit = [] ∧ rest.dropWhile Char.isDigit = rest := by
    cases rest with
    | nil => exact ⟨rfl, rfl⟩
    | cons c cs =>
      have hc : ¬ c.isDigit = true := by
        rw [ends c cs rfl]
        exact Bool.false_ne_true
      exact ⟨List.takeWhile_cons_of_neg hc, List.dropWhile_cons_of_neg hc⟩
  have take : (ds ++ rest).takeWhile Char.isDigit = ds := by
    rw [List.takeWhile_append_of_pos digits, tail.1, List.append_nil]
  have drop : (ds ++ rest).dropWhile Char.isDigit = rest := by
    rw [List.dropWhile_append_of_pos digits, tail.2]
  rw [parseDigits, take, drop, if_neg ne]

/-- Where a number stops there is no fraction. -/
theorem parseFraction_stops {rest : List Char} (stops : Stops rest) :
    parseFraction rest = some ([], rest) := by
  unfold parseFraction
  split
  · next cs => exact absurd rfl (stops _ _ rfl).2.1
  · rfl

/-- Nor is there an exponent. -/
theorem parseExponent_stops {rest : List Char} (stops : Stops rest) :
    parseExponent rest = some ([], rest) := by
  cases rest with
  | nil => rfl
  | cons c cs =>
    obtain ⟨-, -, he, hE⟩ := stops c cs rfl
    rw [parseExponent, if_neg (by rintro (h | h); exacts [he h, hE h])]

/-- A number written in decimal has no leading zero. -/
theorem toDigits_head (n : Nat) :
    ¬ ((Nat.toDigits 10 n).head? = some '0' ∧ (Nat.toDigits 10 n).length ≠ 1) := by
  induction n using Nat.strongRecOn with
  | ind n ih =>
    by_cases hn : n < 10
    · rw [Nat.toDigits_of_lt_base hn]
      rintro ⟨-, h⟩
      exact h rfl
    · have ge : 10 ≤ n := Nat.le_of_not_lt hn
      have pos : 0 < n / 10 := Nat.div_pos ge (by decide)
      rw [Nat.toDigits_of_base_le (by decide) ge]
      rintro ⟨head, -⟩
      have head' : (Nat.toDigits 10 (n / 10)).head? = some '0' := by
        rw [List.head?_append_of_ne_nil _ Nat.toDigits_ne_nil] at head
        exact head
      by_cases one : (Nat.toDigits 10 (n / 10)).length = 1
      · -- A single leading digit is that of a number below ten, which is not zero.
        have small : n / 10 < 10 :=
          (Nat.length_toDigits_le_iff (k := 1) (by decide) (by decide)).mp (Nat.le_of_eq one)
        rw [Nat.toDigits_of_lt_base small] at head'
        have zero : n / 10 = 0 := by
          have digit : ∀ d < 10, d.digitChar = '0' → d = 0 := by decide
          exact digit _ small (Option.some.inj head')
        omega
      · exact ih (n / 10) (Nat.div_lt_self (by omega) (by decide)) ⟨head', one⟩

/-- The digits of an integer are read back as an integer. -/
theorem parseUnsigned_print (negative : Bool) (n : Nat) {rest : List Char} (stops : Stops rest) :
    parseUnsigned negative (Nat.toDigits 10 n ++ rest) =
      some (number negative (Nat.toDigits 10 n) [], rest) := by
  have digits : ∀ c ∈ Nat.toDigits 10 n, c.isDigit = true := fun c hc =>
    Nat.isDigit_of_mem_toDigits (by decide) (by decide) hc
  simp only [parseUnsigned,
    parseDigits_print digits Nat.toDigits_ne_nil fun c cs h => (stops c cs h).1,
    Option.bind_eq_bind, Option.bind_some, if_neg (toDigits_head n), parseFraction_stops stops,
    parseExponent_stops stops, List.append_nil]

/-- An integer starts like a number. -/
theorem printInt_head (n : Int) : ∃ d ds, printInt n = d :: ds ∧ (d = '-' ∨ d.isDigit = true) := by
  unfold printInt
  split
  · exact ⟨'-', _, rfl, Or.inl rfl⟩
  · obtain ⟨d, ds, h⟩ := List.exists_cons_of_ne_nil (Nat.toDigits_ne_nil (n := n.natAbs) (b := 10))
    refine ⟨d, ds, h, Or.inr ?_⟩
    exact Nat.isDigit_of_mem_toDigits (b := 10) (n := n.natAbs) (by decide) (by decide)
      (h ▸ List.mem_cons_self)

/-- **A printed integer is read back**, if it is in the range of the two 64-bit types. -/
theorem parseNumber_printInt {n : Int} (low : -2 ^ 63 ≤ n) (high : n < 2 ^ 64) {rest : List Char}
    (stops : Stops rest) : parseNumber (printInt n ++ rest) = some (.int n, rest) := by
  unfold printInt
  split
  · next neg =>
    have range : 0 < n.natAbs ∧ n.natAbs ≤ 2 ^ 63 := by omega
    have value : (-(n.natAbs : Int)) = n := by omega
    rw [List.cons_append, parseNumber, if_pos rfl, parseUnsigned_print true _ stops]
    simp only [number, Nat.ofDigitChars_ten_toDigits, ne_eq, not_true_eq_false, if_false, if_true,
      if_pos range, value]
  · next nonneg =>
    have range : n.natAbs < 2 ^ 64 := by omega
    have value : (n.natAbs : Int) = n := by omega
    obtain ⟨d, ds, h⟩ := List.exists_cons_of_ne_nil (Nat.toDigits_ne_nil (n := n.natAbs) (b := 10))
    have hd : d ≠ '-' := by
      have digit : d.isDigit = true :=
        Nat.isDigit_of_mem_toDigits (b := 10) (n := n.natAbs) (by decide) (by decide)
          (h ▸ List.mem_cons_self)
      rintro rfl
      revert digit
      decide
    have step : parseNumber (Nat.toDigits 10 n.natAbs ++ rest) =
        parseUnsigned false (Nat.toDigits 10 n.natAbs ++ rest) := by
      rw [h, List.cons_append, parseNumber, if_neg hd]
    rw [step, parseUnsigned_print false _ stops]
    simp only [number, Nat.ofDigitChars_ten_toDigits, ne_eq, not_true_eq_false, if_false,
      Bool.false_eq_true, if_pos range, value]

/-! ## Values -/

/-- What a printed value starts with: no white space and no closing bracket. -/
def Starts (f : Layout) (indent : Nat) (c : Content) : Prop :=
  ∃ d ds, print f indent c = d :: ds ∧ isSpace d = false ∧ d ≠ ']' ∧ d ≠ '}'

/-- A digit is neither white space nor a bracket, and neither is a sign. -/
theorem number_head {d : Char} (hd : d = '-' ∨ d.isDigit = true) :
    isSpace d = false ∧ d ≠ ']' ∧ d ≠ '}' ∧ d ≠ '[' ∧ d ≠ '{' := by
  refine ⟨?_, ?_⟩
  · rcases hd with rfl | hd
    · rfl
    · cases hs : isSpace d with
      | false => rfl
      | true =>
        simp only [isSpace, Bool.or_eq_true, decide_eq_true_eq] at hs
        rcases hs with ((rfl | rfl) | rfl) | rfl <;> revert hd <;> decide
  · refine ⟨?_, ?_, ?_, ?_⟩ <;> rintro rfl <;> revert hd <;> decide

/-- What fits is printed as something that starts like a value. -/
theorem print_head (f : Layout) (indent : Nat) {depth : Nat} {c : Content} (fits : Fits depth c) :
    Starts f indent c := by
  cases fits with
  | unit => exact ⟨_, _, rfl, by decide⟩
  | bool b => cases b <;> exact ⟨_, _, rfl, by decide⟩
  | @int _ n _ _ =>
    obtain ⟨d, ds, h, hd⟩ := printInt_head n
    obtain ⟨space, close, close', -⟩ := number_head hd
    exact ⟨d, ds, h, space, close, close'⟩
  | str s => exact ⟨_, _, rfl, by decide⟩
  | @seq _ items _ => cases items <;> exact ⟨_, _, rfl, by decide⟩
  | @map _ entries _ => cases entries <;> exact ⟨_, _, rfl, by decide⟩

/-- So no space is skipped before it. -/
theorem skipSpace_print {f : Layout} {indent : Nat} {c : Content} (starts : Starts f indent c)
    (rest : List Char) : skipSpace (print f indent c ++ rest) = print f indent c ++ rest := by
  obtain ⟨d, ds, h, hd, -⟩ := starts
  rw [h, List.cons_append, skipSpace_cons hd]

/-- What starts with no bracket is a scalar. -/
theorem parseValue_scalar (depth : Nat) {d : Char} (cs : List Char) (hs : d ≠ '[')
    (hm : d ≠ '{') : parseValue depth (d :: cs) = parseScalar (d :: cs) := by
  cases depth with
  | zero => rw [parseValue, if_neg (by rintro (h | h); exacts [hs h, hm h])]
  | succ depth => rw [parseValue, if_neg hs, if_neg hm]

section Containers

variable {f : Layout} (blank : f.Blank) {depth : Nat}

include blank

/-- What follows an item is punctuation or white space, so a number ends there. -/
theorem stops_close (indent : Nat) {close : Char}
    (h : close.isDigit = false ∧ close ≠ '.' ∧ close ≠ 'e' ∧ close ≠ 'E') (rest : List Char) :
    Stops (f.newline indent ++ close :: rest) :=
  stops_blank (blank.newline indent) (stops_cons h)

/-- Before a closing bracket the layout only puts space. -/
theorem skipSpace_close (indent : Nat) {close : Char} (h : isSpace close = false)
    (rest : List Char) : skipSpace (f.newline indent ++ close :: rest) = close :: rest := by
  rw [skipSpace_blank (blank.newline indent), skipSpace_cons h]

/-- **Items are read back**: the first item and the ones after it, up to the closing bracket. -/
theorem parseItems_print (inner outer : Nat) (rest : List Char) :
    ∀ (item : Content) (items : List Content) (bound : Nat),
      items.length < bound →
      (∀ c ∈ item :: items, Starts f inner c) →
      (∀ c ∈ item :: items, ∀ tail, Stops tail →
        parseValue depth (print f inner c ++ tail) = some (c, tail)) →
      parseItems (parseValue depth) bound
        (f.newline inner ++ print f inner item ++ printItems f inner items ++
          f.newline outer ++ ']' :: rest) = some (item :: items, rest)
  | item, [], bound + 1, _, starts, reads => by
    have first := reads item List.mem_cons_self (f.newline outer ++ ']' :: rest)
      (stops_close blank outer (by decide) rest)
    have close : skipSpace (f.newline outer ++ ']' :: rest) = ']' :: rest :=
      skipSpace_close blank outer (by decide) rest
    simp only [printItems, List.append_nil, List.append_assoc, parseItems,
      skipSpace_blank (blank.newline inner),
      skipSpace_print (starts item List.mem_cons_self), first, close,
      Option.bind_eq_bind, Option.bind_some]
  | item, next :: items, bound + 1, hb, starts, reads => by
    have later := parseItems_print inner outer rest next items bound
      (Nat.lt_of_succ_lt_succ hb)
      (fun c hc => starts c (List.mem_cons_of_mem _ hc))
      (fun c hc => reads c (List.mem_cons_of_mem _ hc))
    have first := reads item List.mem_cons_self
      (',' :: (f.newline inner ++ print f inner next ++ printItems f inner items ++
        f.newline outer ++ ']' :: rest)) (stops_cons (by decide))
    have comma : ∀ cs, skipSpace (',' :: cs) = ',' :: cs := fun cs => skipSpace_cons (by decide) cs
    simp only [List.append_assoc] at later first
    simp only [printItems, List.append_assoc, List.cons_append, parseItems,
      skipSpace_blank (blank.newline inner),
      skipSpace_print (starts item List.mem_cons_self), first, comma, later,
      Option.bind_eq_bind, Option.bind_some]

/-- One entry is read back. -/
theorem parseEntry_print (indent : Nat) (key : String) {c : Content} (starts : Starts f indent c)
    {tail : List Char}
    (reads : parseValue depth (print f indent c ++ tail) = some (c, tail)) :
    parseEntry (parseValue depth)
      (f.newline indent ++ (printStr key ++ (f.colon ++ (print f indent c ++ tail)))) =
        some ((key, c), tail) := by
  obtain ⟨ws, hcolon, hws⟩ := blank.colon
  have quote : ∀ cs, skipSpace ('"' :: cs) = '"' :: cs := fun cs => skipSpace_cons (by decide) cs
  have colon : ∀ cs, skipSpace (':' :: cs) = ':' :: cs := fun cs => skipSpace_cons (by decide) cs
  have hkey := parseStr_printStr key (f.colon ++ (print f indent c ++ tail))
  rw [hcolon] at hkey ⊢
  simp only [List.cons_append] at hkey
  simp only [parseEntry, printStr, List.cons_append, List.append_assoc, List.nil_append,
    skipSpace_blank (blank.newline indent), quote, hkey, colon, skipSpace_blank hws,
    skipSpace_print starts, reads, Option.bind_eq_bind, Option.bind_some,
    String.ofList_toList]

/-- **Entries are read back**: the first entry and the ones after it, up to the closing brace. -/
theorem parseEntries_print (inner outer : Nat) (rest : List Char) :
    ∀ (entry : String × Content) (entries : List (String × Content)) (bound : Nat),
      entries.length < bound →
      (∀ e ∈ entry :: entries, Starts f inner e.2) →
      (∀ e ∈ entry :: entries, ∀ tail, Stops tail →
        parseValue depth (print f inner e.2 ++ tail) = some (e.2, tail)) →
      parseEntries (parseValue depth) bound
        (f.newline inner ++ printStr entry.1 ++ f.colon ++ print f inner entry.2 ++
          printEntries f inner entries ++ f.newline outer ++ '}' :: rest) =
        some (entry :: entries, rest)
  | (key, c), [], bound + 1, _, starts, reads => by
    have first := parseEntry_print blank inner key (starts (key, c) List.mem_cons_self)
      (reads (key, c) List.mem_cons_self (f.newline outer ++ '}' :: rest)
        (stops_close blank outer (by decide) rest))
    have close : skipSpace (f.newline outer ++ '}' :: rest) = '}' :: rest :=
      skipSpace_close blank outer (by decide) rest
    simp only [printEntries, List.append_nil, List.append_assoc, parseEntries, first,
      close, Option.bind_eq_bind, Option.bind_some]
  | (key, c), (key', c') :: entries, bound + 1, hb, starts, reads => by
    have later := parseEntries_print inner outer rest (key', c') entries bound
      (Nat.lt_of_succ_lt_succ hb)
      (fun e he => starts e (List.mem_cons_of_mem _ he))
      (fun e he => reads e (List.mem_cons_of_mem _ he))
    have first := parseEntry_print blank inner key (starts (key, c) List.mem_cons_self)
      (reads (key, c) List.mem_cons_self
        (',' :: (f.newline inner ++ printStr key' ++ f.colon ++ print f inner c' ++
          printEntries f inner entries ++ f.newline outer ++ '}' :: rest)) (stops_cons (by decide)))
    have comma : ∀ cs, skipSpace (',' :: cs) = ',' :: cs := fun cs => skipSpace_cons (by decide) cs
    simp only [List.append_assoc] at later first
    simp only [printEntries, List.append_assoc, List.cons_append, parseEntries, first, comma, later,
      Option.bind_eq_bind, Option.bind_some]

omit blank in
/-- There are no more items than characters: the fuel suffices. -/
theorem length_printItems (indent : Nat) (items : List Content) :
    items.length ≤ (printItems f indent items).length := by
  induction items with
  | nil => exact Nat.le_refl 0
  | cons item items ih =>
    rw [printItems, List.length_cons, List.length_cons, List.length_append]
    omega

omit blank in
/-- Nor are there more entries. -/
theorem length_printEntries (indent : Nat) (entries : List (String × Content)) :
    entries.length ≤ (printEntries f indent entries).length := by
  induction entries with
  | nil => exact Nat.le_refl 0
  | cons entry entries ih =>
    obtain ⟨key, c⟩ := entry
    rw [printEntries, List.length_cons, List.length_cons, List.length_append]
    omega

/-- **An object is read back** if its values are. -/
theorem parseValue_map (indent : Nat) {entries : List (String × Content)}
    (starts : ∀ e ∈ entries, Starts f (indent + 1) e.2)
    (reads : ∀ e ∈ entries, ∀ tail, Stops tail →
      parseValue depth (print f (indent + 1) e.2 ++ tail) = some (e.2, tail)) (rest : List Char) :
    parseValue (depth + 1) (print f indent (.map entries) ++ rest) = some (.map entries, rest) := by
  cases entries with
  | nil => rfl
  | cons entry entries =>
    obtain ⟨key, c⟩ := entry
    have bound : ∀ cs : List Char, entries.length < (f.newline (indent + 1) ++
        printStr key ++ f.colon ++ print f (indent + 1) c ++
        printEntries f (indent + 1) entries ++ f.newline indent ++ '}' :: cs).length := by
      intro cs
      have := length_printEntries (f := f) (indent + 1) entries
      simp only [List.length_append, List.length_cons]
      omega
    have body := parseEntries_print blank (indent + 1) indent rest (key, c) entries _
      (bound rest) starts reads
    simp only [List.append_assoc] at body
    simp only [print, List.cons_append, List.append_assoc, List.nil_append, parseValue,
      Char.reduceEq, if_false, if_true, parseMap, body, Option.map_some]
    split
    · next cs heq =>
      rw [skipSpace_blank (blank.newline _), printStr, List.cons_append,
        skipSpace_cons (by decide)] at heq
      cases heq
    · rfl

end Containers

/-- **The round trip of values**, by induction on the derivation that the value fits. -/
theorem parseValue_print {f : Layout} (blank : f.Blank) {depth : Nat} {c : Content}
    (fits : Fits depth c) : ∀ (indent : Nat) (rest : List Char), Stops rest →
      parseValue depth (print f indent c ++ rest) = some (c, rest) := by
  induction fits with
  | unit =>
    intro indent rest _
    exact parseValue_scalar _ _ (by decide) (by decide)
  | bool b =>
    intro indent rest _
    cases b <;> exact parseValue_scalar _ _ (by decide) (by decide)
  | @int depth n low high =>
    intro indent rest stops
    obtain ⟨d, ds, h, hd⟩ := printInt_head n
    obtain ⟨-, -, -, brackets⟩ := number_head hd
    show parseValue depth (printInt n ++ rest) = some (.int n, rest)
    rw [h, List.cons_append, parseValue_scalar _ _ brackets.1 brackets.2,
      parseScalar_number _ hd, ← List.cons_append, ← h]
    exact parseNumber_printInt low high stops
  | @str depth s =>
    intro indent rest _
    have literal := parseStr_printStr s rest
    simp only [print, printStr, List.cons_append, List.append_assoc, List.nil_append]
    rw [parseValue_scalar _ _ (by decide) (by decide)]
    simp only [parseScalar, literal, Option.bind_eq_bind, Option.bind_some, String.ofList_toList]
  | @seq depth items each ih =>
    intro indent rest _
    cases items with
    | nil => rfl
    | cons item items =>
      have bound : ∀ cs : List Char, items.length < (f.newline (indent + 1) ++
          print f (indent + 1) item ++ printItems f (indent + 1) items ++
          f.newline indent ++ ']' :: cs).length := by
        intro cs
        have := length_printItems (f := f) (indent + 1) items
        simp only [List.length_append, List.length_cons]
        omega
      have body := parseItems_print blank (indent + 1) indent rest item items _ (bound rest)
        (fun c hc => print_head f (indent + 1) (each c hc))
        (fun c hc tail hs => ih c hc (indent + 1) tail hs)
      obtain ⟨d, ds, hd, hspace, hclose, -⟩ := print_head f (indent + 1) (each item List.mem_cons_self)
      simp only [List.append_assoc] at body
      simp only [print, List.cons_append, List.append_assoc, List.nil_append, parseValue, if_true,
        parseSeq, body, Option.map_some]
      split
      · next cs heq =>
        rw [skipSpace_blank (blank.newline _), hd, List.cons_append, skipSpace_cons hspace] at heq
        cases heq
        exact absurd rfl hclose
      · rfl
  | @map depth entries each ih =>
    intro indent rest _
    exact parseValue_map blank indent (fun e he => print_head f (indent + 1) (each e he))
      (fun e he tail hs => ih e he (indent + 1) tail hs) rest

/-! ## Whole texts -/

/-- **The round trip of texts.** -/
theorem parseText_printText {f : Layout} (blank : f.Blank) {c : Content}
    (fits : Fits depthLimit c) : parseText (printText f c) = some c := by
  have reads := parseValue_print blank fits 0 [] stops_nil
  have start := skipSpace_print (print_head f 0 fits) []
  rw [List.append_nil] at reads start
  simp only [parseText, printText, String.toList_ofList, start, reads]
  rfl

/-- What the printer writes holds no fraction, so none out of range. -/
theorem inRange_of_fits {depth : Nat} {c : Content} (fits : Fits depth c) : inRange c = true := by
  have items {cs : List Content} (each : ∀ c ∈ cs, inRange c = true) :
      inRangeItems cs = true := by
    induction cs with
    | nil => rfl
    | cons c cs ih =>
      obtain ⟨first, rest⟩ := List.forall_mem_cons.mp each
      rw [inRangeItems, first, ih rest, Bool.and_self]
  have entries {es : List (String × Content)} (each : ∀ e ∈ es, inRange e.2 = true) :
      inRangeEntries es = true := by
    induction es with
    | nil => rfl
    | cons e es ih =>
      obtain ⟨first, rest⟩ := List.forall_mem_cons.mp each
      rw [inRangeEntries, first, ih rest, Bool.and_self]
  induction fits with
  | seq _ ih =>
    rw [inRange]
    exact items ih
  | map _ ih =>
    rw [inRange]
    exact entries ih
  | _ => rfl

/-- The round trip holds where every value is built. -/
theorem parseContent_printText {f : Layout} (blank : f.Blank) {c : Content}
    (fits : Fits depthLimit c) : parseContent (printText f c) = some c :=
  parseContent_eq_some_iff.mpr ⟨parseText_printText blank fits, inRange_of_fits fits⟩

/-- **Torn texts are refused**: no proper prefix of a printed array or object reads. -/
theorem parseText_none_of_printText {f : Layout} (blank : f.Blank) {c : Content}
    (fits : Fits depthLimit c) (closed : Closed c) {part : String}
    (cut : part.toList <+: (printText f c).toList) (ne : part ≠ printText f c) :
    parseText part = none := by
  have reads := parseValue_print blank fits 0 [] stops_nil
  rw [List.append_nil, ← String.toList_ofList (l := print f 0 c)] at reads
  have starts : ∃ d ds, (printText f c).toList = d :: ds ∧ (d = '[' ∨ d = '{') := by
    rw [printText, String.toList_ofList]
    cases c with
    | seq items => cases items <;> exact ⟨_, _, rfl, Or.inl rfl⟩
    | map entries => cases entries <;> exact ⟨_, _, rfl, Or.inr rfl⟩
    | _ => exact closed.elim
  obtain ⟨d, ds, hd, hb⟩ := starts
  exact parseText_none_of_prefix hd hb reads cut ne

end Json
