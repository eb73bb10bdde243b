import Talia.Lib.JsonRoundTrip

/-!
# Documents that are no suffix of one another

A printed object begins with a brace, a quote and the first character of its first key. Inside a
string literal a quote is escaped, so the three characters stand nowhere else than where an object
begins: if no object within a document has a first key that begins with `k`, they are not found in
its text at all (`avoids_print`). A document whose outermost object alone begins that way is then no
proper suffix of another one (`append_print_inj`), and a text followed by such a document without a
separator can be told apart from it.
-/

namespace Json

open Serde

variable {k : Char}

/-- No object within the value has a first key that begins with `k`. -/
inductive Unmarked (k : Char) : Content → Prop where
  | unit : Unmarked k .unit
  | bool (b : Bool) : Unmarked k (.bool b)
  | int (n : Int) : Unmarked k (.int n)
  | str (s : String) : Unmarked k (.str s)
  | seq {items : List Content} (each : ∀ item ∈ items, Unmarked k item) : Unmarked k (.seq items)
  | map {entries : List (String × Content)}
      (first : ∀ entry ∈ entries.head?, entry.1.toList.head? ≠ some k)
      (each : ∀ entry ∈ entries, Unmarked k entry.2) : Unmarked k (.map entries)

/-- An object whose first key begins with `k` begins nowhere in the text. -/
def Avoids (k : Char) (cs : List Char) : Prop := ¬ ['{', '"', k] <:+: cs

/-- The empty text avoids every key. -/
theorem avoids_nil : Avoids k [] := by
  intro h
  cases List.eq_nil_of_infix_nil h

/-- A text avoids a key if it does not start with an object of that key, nor does what follows. -/
theorem avoids_cons {c : Char} {cs : List Char} :
    Avoids k (c :: cs) ↔ ¬ (c = '{' ∧ ['"', k] <+: cs) ∧ Avoids k cs := by
  rw [Avoids, List.infix_cons_iff, not_or, List.cons_prefix_cons, eq_comm (a := '{')]
  rfl

/-- Where there is no brace, no object begins. -/
theorem avoids_append {l cs : List Char} (plain : '{' ∉ l) (avoids : Avoids k cs) :
    Avoids k (l ++ cs) := by
  induction l with
  | nil => exact avoids
  | cons a l ih =>
    rw [List.mem_cons, not_or] at plain
    exact avoids_cons.mpr ⟨fun h => plain.1 h.1.symm, ih plain.2⟩

/-! ## String literals -/

/-- What a character is written as: itself, or something after a backslash. -/
theorem escape_cases (c : Char) : escape c = [c] ∧ c ≠ '"' ∨ ∃ es, escape c = '\\' :: es := by
  unfold escape
  repeat' split
  next => exact .inr ⟨_, rfl⟩
  next => exact .inr ⟨_, rfl⟩
  next => exact .inr ⟨_, rfl⟩
  next => exact .inr ⟨_, rfl⟩
  next => exact .inr ⟨_, rfl⟩
  next => exact .inr ⟨_, rfl⟩
  next => exact .inr ⟨_, rfl⟩
  next => exact .inr ⟨_, rfl⟩
  next quote _ _ _ _ _ _ _ => exact .inl ⟨rfl, quote⟩

/-- Escaping makes no brace. -/
theorem brace_notMem_escape {c : Char} (h : c ≠ '{') : '{' ∉ escape c := by
  have digits : ∀ n < 16, hexChar n ≠ '{' := by decide
  unfold escape
  repeat' split
  next => decide
  next => decide
  next => decide
  next => decide
  next => decide
  next => decide
  next => decide
  next control =>
    have high := digits (c.toNat / 16) (by omega)
    have low := digits (c.toNat % 16) (by omega)
    simp [high.symm, low.symm]
  next => simpa using h.symm

/-- The first character of an escaped text is `k` only if the text begins with `k`. -/
theorem head_of_escape (plain : escape k = [k]) {cs rest : List Char}
    (head : (cs.flatMap escape ++ '"' :: rest).head? = some k) : cs.head? = some k := by
  have quote : k ≠ '"' := by
    intro h
    subst h
    exact absurd plain (by decide)
  cases cs with
  | nil =>
    cases head
    exact absurd rfl quote
  | cons c cs =>
    rcases escape_cases c with ⟨same, -⟩ | ⟨es, escaped⟩
    · rw [List.flatMap_cons, same] at head
      exact head
    · rw [List.flatMap_cons, escaped] at head
      have backslash : '\\' = k := Option.some.inj head
      subst backslash
      exact absurd plain (by decide)

/-- The rest of a string has no object, so it avoids the key if what follows does. -/
theorem avoids_escaped {rest : List Char} (head : rest.head? ≠ some k) (avoids : Avoids k rest)
    (cs : List Char) : Avoids k (cs.flatMap escape ++ '"' :: rest) := by
  induction cs with
  | nil => exact avoids_cons.mpr ⟨fun h => absurd h.1 (by decide), avoids⟩
  | cons c cs ih =>
    rw [List.flatMap_cons, List.append_assoc]
    by_cases brace : c = '{'
    · subst brace
      refine avoids_cons.mpr ⟨fun h => ?_, ih⟩
      obtain ⟨tail, starts⟩ := h.2
      -- the quote after the brace ends the literal
      cases cs with
      | nil =>
        have next : k :: tail = rest := (List.cons.inj starts).2
        rw [← next] at head
        exact head rfl
      | cons d ds =>
        rw [List.flatMap_cons, List.append_assoc] at starts
        rcases escape_cases d with ⟨same, quote⟩ | ⟨es, escaped⟩
        · rw [same] at starts
          exact quote (List.cons.inj starts).1.symm
        · rw [escaped] at starts
          exact absurd (List.cons.inj starts).1 (by decide)
    · exact avoids_append (brace_notMem_escape brace) ih

/-- A string avoids the key if what follows does. -/
theorem avoids_printStr {rest : List Char} (head : rest.head? ≠ some k) (avoids : Avoids k rest)
    (s : String) : Avoids k (printStr s ++ rest) := by
  rw [printStr, List.cons_append, List.append_assoc]
  exact avoids_cons.mpr ⟨fun h => absurd h.1 (by decide), avoids_escaped head avoids s.toList⟩

/-! ## Values -/

/-- No integer is printed with a brace. -/
theorem brace_notMem_printInt (n : Int) : '{' ∉ printInt n := by
  have digits (m : Nat) : '{' ∉ Nat.toDigits 10 m := fun mem =>
    absurd (Nat.isDigit_of_mem_toDigits (by decide) (by decide) mem) (by decide)
  unfold printInt
  split
  · rw [List.mem_cons, not_or]
    exact ⟨by decide, digits _⟩
  · exact digits _

/-- What may follow a value: nothing of an object, and not the key. -/
structure Follows (k : Char) (rest : List Char) : Prop where
  head : rest.head? ≠ some k
  avoids : Avoids k rest

/-- Punctuation may follow a value. -/
theorem follows_cons {c : Char} {cs : List Char} (key : c ≠ k) (brace : c ≠ '{')
    (avoids : Avoids k cs) : Follows k (c :: cs) where
  head h := key (Option.some.inj h)
  avoids := avoids_cons.mpr ⟨fun h => brace h.1, avoids⟩

/-- A character that is written as itself and is no punctuation. -/
structure Key (k : Char) : Prop where
  plain : escape k = [k]
  notPunctuation : k ∉ [',', ':', ']', '}']

section Values

variable (key : Key k)

include key

/-- The key does not start with punctuation. -/
theorem Key.ne {c : Char} (mem : c ∈ [',', ':', ']', '}']) : c ≠ k := by
  intro h
  exact key.notPunctuation (h ▸ mem)

/-- An entry of an object, after its comma or brace. -/
theorem avoids_entry {value : Content} {indent : Nat} {rest : List Char}
    (reads : Avoids k (print compact indent value ++ rest)) (name : String) :
    Avoids k (printStr name ++ (':' :: (print compact indent value ++ rest))) :=
  have follows := follows_cons (key.ne (by decide)) (by decide) reads
  avoids_printStr follows.head follows.avoids name

/-- More items may follow a value, if none has the key. -/
theorem follows_items {items : List Content} {indent : Nat} {rest : List Char}
    (each : ∀ item ∈ items, ∀ rest, Follows k rest → Avoids k (print compact indent item ++ rest))
    (follows : Follows k rest) : Follows k (printItems compact indent items ++ rest) := by
  induction items with
  | nil => exact follows
  | cons item items ih =>
    have tail := ih fun item mem => each item (List.mem_cons_of_mem _ mem)
    rw [printItems, List.cons_append, List.append_assoc, List.append_assoc]
    exact follows_cons (key.ne (by decide)) (by decide)
      (each item List.mem_cons_self _ tail)

/-- More entries may follow a value, if none of their values has the key. -/
theorem follows_entries {entries : List (String × Content)} {indent : Nat} {rest : List Char}
    (each : ∀ entry ∈ entries, ∀ rest, Follows k rest →
      Avoids k (print compact indent entry.2 ++ rest))
    (follows : Follows k rest) : Follows k (printEntries compact indent entries ++ rest) := by
  induction entries with
  | nil => exact follows
  | cons entry entries ih =>
    obtain ⟨name, value⟩ := entry
    have tail := ih fun entry mem => each entry (List.mem_cons_of_mem _ mem)
    have first := avoids_entry key (each _ List.mem_cons_self _ tail) name
    rw [printEntries, List.cons_append]
    refine follows_cons (key.ne (by decide)) (by decide) ?_
    simpa [compact] using first

/-- The text of an object, but for its brace. -/
theorem avoids_object (name : String) {value : Content} {entries : List (String × Content)}
    {indent : Nat} {rest : List Char}
    (first : ∀ rest, Follows k rest → Avoids k (print compact indent value ++ rest))
    (each : ∀ entry ∈ entries, ∀ rest, Follows k rest →
      Avoids k (print compact indent entry.2 ++ rest))
    (follows : Follows k rest) :
    Avoids k (printStr name ++ (':' :: (print compact indent value ++
      (printEntries compact indent entries ++ '}' :: rest)))) := by
  have closed := follows_cons (key.ne (c := '}') (by decide)) (by decide) follows.avoids
  exact avoids_entry key (first _ (follows_entries key each closed)) name

/-- **No object within the value begins in its text.** -/
theorem avoids_print {c : Content} (unmarked : Unmarked k c) (indent : Nat) {rest : List Char}
    (follows : Follows k rest) : Avoids k (print compact indent c ++ rest) := by
  induction unmarked generalizing indent rest with
  | unit => exact avoids_append (l := ['n', 'u', 'l', 'l']) (by decide) follows.avoids
  | bool b =>
    cases b with
    | false => exact avoids_append (l := ['f', 'a', 'l', 's', 'e']) (by decide) follows.avoids
    | true => exact avoids_append (l := ['t', 'r', 'u', 'e']) (by decide) follows.avoids
  | int n => exact avoids_append (brace_notMem_printInt n) follows.avoids
  | str s => exact avoids_printStr follows.head follows.avoids s
  | @seq items each ih =>
    cases items with
    | nil => exact avoids_append (l := ['[', ']']) (by decide) follows.avoids
    | cons item items =>
      have closed := follows_cons (key.ne (c := ']') (by decide)) (by decide) follows.avoids
      have tail := follows_items key (fun item mem rest follows =>
        ih item (List.mem_cons_of_mem _ mem) (indent + 1) follows) closed
      have text := ih item List.mem_cons_self (indent + 1) tail
      simpa [print, compact] using avoids_cons.mpr ⟨fun h => absurd h.1 (by decide), text⟩
  | @map entries first each ih =>
    cases entries with
    | nil =>
      have closed : Avoids k ('}' :: rest) :=
        avoids_cons.mpr ⟨fun h => absurd h.1 (by decide), follows.avoids⟩
      refine avoids_cons.mpr ⟨fun h => ?_, closed⟩
      obtain ⟨tail, starts⟩ := h.2
      exact absurd (List.cons.inj starts).1 (by decide)
    | cons entry entries =>
      obtain ⟨name, value⟩ := entry
      have text := avoids_object key name
        (fun rest follows => ih _ List.mem_cons_self (indent + 1) follows)
        (fun entry mem rest follows => ih entry (List.mem_cons_of_mem _ mem) (indent + 1) follows)
        follows
      have begins : Avoids k ('{' :: (printStr name ++ (':' :: (print compact (indent + 1) value ++
          (printEntries compact (indent + 1) entries ++ '}' :: rest))))) := by
        refine avoids_cons.mpr ⟨fun h => ?_, text⟩
        obtain ⟨tail, starts⟩ := h.2
        simp only [printStr, List.cons_append, List.append_assoc, List.nil_append,
          List.cons.injEq, true_and] at starts
        exact first (name, value) rfl
          (head_of_escape key.plain (congrArg List.head? starts.symm))
      simpa [print, compact] using begins

/-! ## Documents -/

/-- An object whose first key begins with `k`, which no object within it does. -/
inductive Marked (k : Char) : Content → Prop where
  | map {name : String} {value : Content} {entries : List (String × Content)}
      (first : name.toList.head? = some k)
      (each : ∀ entry ∈ (name, value) :: entries, Unmarked k entry.2) :
      Marked k (.map ((name, value) :: entries))

omit key in
/-- So may the end of the text. -/
theorem follows_nil : Follows k [] where
  head h := nomatch h
  avoids := avoids_nil

/-- The mark stands at the beginning of the document, and nowhere after it. -/
theorem Marked.print_split {c : Content} (marked : Marked k c) :
    ∃ tail, print compact 0 c = '{' :: tail ∧ ['"', k] <+: tail ∧ Avoids k tail := by
  cases marked with
  | @map name value entries first each =>
    have within (entry : String × Content) (mem : entry ∈ (name, value) :: entries)
        (rest : List Char) (follows : Follows k rest) :
        Avoids k (print compact 1 entry.2 ++ rest) :=
      avoids_print key (each entry mem) 1 follows
    have avoids := avoids_object key name (within _ List.mem_cons_self)
      (fun entry mem => within entry (List.mem_cons_of_mem _ mem)) follows_nil
    refine ⟨_, ?_, ?_, avoids⟩
    · simp [print, compact]
    · cases chars : name.toList with
      | nil =>
        rw [chars] at first
        cases first
      | cons c cs =>
        rw [chars] at first
        cases first
        simp [printStr, chars, key.plain]

/-- **A marked document is no proper suffix of another.** -/
theorem Marked.eq_nil_of_suffix {c d : Content} (hc : Marked k c) (hd : Marked k d)
    {t : List Char} (suffix : print compact 0 c = t ++ print compact 0 d) : t = [] := by
  obtain ⟨tail, text, -, avoids⟩ := hc.print_split key
  obtain ⟨inner, text', starts, -⟩ := hd.print_split key
  cases t with
  | nil => rfl
  | cons x t =>
    rw [text, text', List.cons_append] at suffix
    obtain ⟨-, within⟩ := List.cons.inj suffix
    refine absurd ?_ avoids
    rw [within]
    exact ((List.cons_prefix_cons.mpr ⟨rfl, starts⟩).isInfix).trans
      (List.suffix_append _ _).isInfix

/-- **What stands before a marked document, and the document, can be told apart.** -/
theorem Marked.append_print_inj {c d : Content} (hc : Marked k c) (hd : Marked k d)
    {before before' : List Char}
    (same : before ++ print compact 0 c = before' ++ print compact 0 d) :
    before = before' ∧ print compact 0 c = print compact 0 d := by
  rcases List.append_eq_append_iff.mp same with ⟨t, rest, suffix⟩ | ⟨t, rest, suffix⟩
  · obtain rfl := hc.eq_nil_of_suffix key hd suffix
    exact ⟨by rw [rest, List.append_nil], suffix⟩
  · obtain rfl := hd.eq_nil_of_suffix key hc suffix
    exact ⟨by rw [rest, List.append_nil], suffix.symm⟩

end Values

end Json
