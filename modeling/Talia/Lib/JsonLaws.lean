import Talia.Lib.Json

/-!
# The laws of the JSON reader and printer

Two results, each over every value the printer writes without a fraction (`Fits`):

- `parseText_printText`: the reader gives back what the printer wrote, whatever the layout, as
  long as the layout writes nothing but white space (`Layout.Blank`);
- `parseText_none_of_prefix`: cut short anywhere, what the printer wrote for an array or an object
  is refused.

The second needs no induction over the printer. A reader that accepts a text accepts every longer
text and leaves the rest unread (`parseValue_append`), so a cut-off text that was accepted would
leave the cut-off part unread in the whole, and the whole leaves nothing unread.
-/

namespace Json

open Serde

/-! ## White space -/

/-- Where a run of characters ends within a text, more text after it does not lengthen it. -/
theorem takeWhile_append_of_dropWhile {p : Char → Bool} {cs : List Char}
    (h : cs.dropWhile p ≠ []) (s : List Char) : (cs ++ s).takeWhile p = cs.takeWhile p := by
  have short : (cs.takeWhile p).length ≠ cs.length := by
    intro hl
    have whole := congrArg List.length (List.takeWhile_append_dropWhile (p := p) (l := cs))
    rw [List.length_append, hl] at whole
    exact h (List.eq_nil_of_length_eq_zero (by omega))
  rw [List.takeWhile_append, if_neg short]

/-- Nor does it change where the run ends. -/
theorem dropWhile_append_of_dropWhile {p : Char → Bool} {cs : List Char}
    (h : cs.dropWhile p ≠ []) (s : List Char) : (cs ++ s).dropWhile p = cs.dropWhile p ++ s := by
  rw [List.dropWhile_append, if_neg (by rwa [List.isEmpty_iff])]

/-- Space is skipped as before when more text follows, if something else follows it. -/
theorem skipSpace_append {cs : List Char} (h : skipSpace cs ≠ []) (s : List Char) :
    skipSpace (cs ++ s) = skipSpace cs ++ s :=
  dropWhile_append_of_dropWhile h s

theorem skipSpace_append_of_cons {cs : List Char} {c : Char} {r : List Char}
    (h : skipSpace cs = c :: r) (s : List Char) : skipSpace (cs ++ s) = c :: (r ++ s) := by
  rw [skipSpace_append (by rw [h]; exact List.cons_ne_nil _ _), h, List.cons_append]

/-- A text that is not white space only is not empty. -/
theorem ne_nil_of_skipSpace {cs : List Char} {c : Char} {r : List Char}
    (h : skipSpace cs = c :: r) : cs ≠ [] := by
  rintro rfl
  cases h

/-! ## Extension laws of the scalars -/

/-- Four hexadecimal digits are read the same whatever follows. -/
theorem hex4_append {cs r : List Char} {n : Nat} (h : hex4 cs = some (n, r)) (s : List Char) :
    hex4 (cs ++ s) = some (n, r ++ s) := by
  unfold hex4 at h
  split at h
  next a b c d cs =>
    simp only [Option.bind_eq_bind, Option.bind_eq_some_iff, Option.some.injEq,
      Prod.mk.injEq] at h
    obtain ⟨na, ha, nb, hb, nc, hc, nd, hd, rfl, rfl⟩ := h
    simp only [List.cons_append, hex4, ha, hb, hc, hd, Option.bind_eq_bind, Option.bind_some]
  next => cases h

/-- So is the second half of a surrogate pair. -/
theorem parseLow_append {high : Nat} {cs r : List Char} {c : Char}
    (h : parseLow high cs = some (c, r)) (s : List Char) :
    parseLow high (cs ++ s) = some (c, r ++ s) := by
  unfold parseLow at h
  split at h
  next cs =>
    obtain ⟨⟨low, rest⟩, hlow, h⟩ := Option.bind_eq_some_iff.mp h
    simp only [List.cons_append, parseLow, hex4_append hlow s, Option.bind_eq_bind,
      Option.bind_some] at h ⊢
    split at h
    next hr =>
      simp only [Option.some.injEq, Prod.mk.injEq] at h
      obtain ⟨rfl, rfl⟩ := h
      rw [if_pos hr]
    next => cases h
  next => cases h

/-- So is an escape. -/
theorem parseEscape_append {cs r : List Char} {c : Char} (h : parseEscape cs = some (c, r))
    (s : List Char) : parseEscape (cs ++ s) = some (c, r ++ s) := by
  cases cs with
  | nil => cases h
  | cons e cs =>
    simp only [parseEscape] at h
    simp only [List.cons_append, parseEscape]
    by_cases hu : e = 'u'
    · rw [if_pos hu] at h ⊢
      obtain ⟨⟨n, rest⟩, hn, h⟩ := Option.bind_eq_some_iff.mp h
      simp only [hex4_append hn s, Option.bind_eq_bind, Option.bind_some] at h ⊢
      split at h
      next => cases h
      next hlow =>
        rw [if_neg hlow]
        split at h
        next hhigh =>
          rw [if_pos hhigh]
          exact parseLow_append h s
        next hhigh =>
          rw [if_neg hhigh]
          cases h
          rfl
    · rw [if_neg hu] at h ⊢
      obtain ⟨x, hx, hxr⟩ := Option.map_eq_some_iff.mp h
      cases hxr
      rw [hx, Option.map_some]

/-- More text, or a larger bound, changes nothing about a string literal that was read. -/
theorem parseStr_append {n m : Nat} (le : n ≤ m) {cs xs r : List Char}
    (h : parseStr n cs = some (xs, r)) (s : List Char) :
    parseStr m (cs ++ s) = some (xs, r ++ s) := by
  induction n generalizing m cs xs r with
  | zero => cases h
  | succ n ih =>
    obtain ⟨m, rfl⟩ := Nat.exists_eq_add_of_le' (Nat.le_trans (Nat.succ_le_succ n.zero_le) le)
    have le' : n ≤ m := Nat.le_of_succ_le_succ le
    cases cs with
    | nil => cases h
    | cons c cs =>
      simp only [parseStr] at h
      simp only [List.cons_append, parseStr]
      by_cases hq : c = '"'
      · rw [if_pos hq] at h ⊢
        cases h
        rfl
      · rw [if_neg hq] at h ⊢
        by_cases hb : c = '\\'
        · rw [if_pos hb] at h ⊢
          obtain ⟨⟨x, cs'⟩, hx, h⟩ := Option.bind_eq_some_iff.mp h
          obtain ⟨⟨ys, rest⟩, hys, h⟩ := Option.bind_eq_some_iff.mp h
          cases h
          simp only [parseEscape_append hx s, ih le' hys, Option.bind_eq_bind, Option.bind_some]
        · rw [if_neg hb] at h ⊢
          by_cases hc : c.toNat < 0x20
          · rw [if_pos hc] at h
            cases h
          · rw [if_neg hc] at h ⊢
            obtain ⟨⟨ys, rest⟩, hys, h⟩ := Option.bind_eq_some_iff.mp h
            cases h
            simp only [ih le' hys, Option.bind_eq_bind, Option.bind_some]

/-- Digits that end before the text does are read the same whatever follows. -/
theorem parseDigits_append {cs ds r : List Char} (h : parseDigits cs = some (ds, r))
    (hr : r ≠ []) (s : List Char) : parseDigits (cs ++ s) = some (ds, r ++ s) := by
  unfold parseDigits at h ⊢
  split at h
  next => cases h
  next hne =>
    cases h
    rw [takeWhile_append_of_dropWhile hr, dropWhile_append_of_dropWhile hr, if_neg hne]

/-- So is a fraction. -/
theorem parseFraction_append {cs ds r : List Char} (h : parseFraction cs = some (ds, r))
    (hr : r ≠ []) (s : List Char) : parseFraction (cs ++ s) = some (ds, r ++ s) := by
  unfold parseFraction at h
  split at h
  next cs =>
    obtain ⟨⟨xs, rest⟩, hxs, h⟩ := Option.bind_eq_some_iff.mp h
    cases h
    simp only [List.cons_append, parseFraction, parseDigits_append hxs hr s, Option.bind_eq_bind,
      Option.bind_some]
  next hdot =>
    cases h
    cases hcs : cs with
    | nil => exact absurd hcs hr
    | cons c cs' =>
      rw [List.cons_append, parseFraction]
      intro cs'' heq
      cases heq
      exact hdot cs' hcs

/-- So is a sign. -/
theorem parseSign_append {cs : List Char} (hne : cs ≠ []) (s : List Char) :
    parseSign (cs ++ s) = ((parseSign cs).1, (parseSign cs).2 ++ s) := by
  cases cs with
  | nil => exact absurd rfl hne
  | cons c cs =>
    by_cases hp : c = '+'
    · subst hp
      rfl
    · by_cases hm : c = '-'
      · subst hm
        rfl
      · have plain : ∀ ds, parseSign (c :: ds) = ([], c :: ds) := by
          intro ds
          rw [parseSign]
          · rintro _ ⟨⟩
            exact hp rfl
          · rintro _ ⟨⟩
            exact hm rfl
        rw [List.cons_append, plain, plain]
        rfl

/-- So is an exponent. -/
theorem parseExponent_append {cs ds r : List Char} (h : parseExponent cs = some (ds, r))
    (hr : r ≠ []) (s : List Char) : parseExponent (cs ++ s) = some (ds, r ++ s) := by
  cases cs with
  | nil =>
    cases h
    exact absurd rfl hr
  | cons c cs =>
    simp only [parseExponent] at h
    simp only [List.cons_append, parseExponent]
    by_cases he : c = 'e' ∨ c = 'E'
    · rw [if_pos he] at h ⊢
      obtain ⟨⟨xs, rest⟩, hxs, h⟩ := Option.bind_eq_some_iff.mp h
      cases h
      have hne : cs ≠ [] := by
        rintro rfl
        cases hxs
      simp only [parseSign_append hne s, parseDigits_append hxs hr s, Option.bind_eq_bind,
        Option.bind_some, List.cons_append]
    · rw [if_neg he] at h ⊢
      cases h
      rfl

/-- Before what is left after an exponent there was something. -/
theorem ne_nil_of_parseExponent {cs ds r : List Char} (h : parseExponent cs = some (ds, r))
    (hr : r ≠ []) : cs ≠ [] := by
  rintro rfl
  cases h
  exact hr rfl

/-- Before what is left after a fraction there was something. -/
theorem ne_nil_of_parseFraction {cs ds r : List Char} (h : parseFraction cs = some (ds, r))
    (hr : r ≠ []) : cs ≠ [] := by
  rintro rfl
  cases h
  exact hr rfl

/-- A number that is followed by something is read off what stands before it. -/
theorem parseUnsigned_append {negative : Bool} {cs r : List Char} {c : Content}
    (h : parseUnsigned negative cs = some (c, r)) (hr : r ≠ []) (s : List Char) :
    parseUnsigned negative (cs ++ s) = some (c, r ++ s) := by
  unfold parseUnsigned at h ⊢
  obtain ⟨⟨ds, rest⟩, hds, h⟩ := Option.bind_eq_some_iff.mp h
  simp only [Option.bind_eq_bind] at h ⊢
  split at h
  next => cases h
  next hzero =>
    obtain ⟨⟨fs, afterFraction⟩, hfs, h⟩ := Option.bind_eq_some_iff.mp h
    obtain ⟨⟨xs, afterExponent⟩, hxs, h⟩ := Option.bind_eq_some_iff.mp h
    cases h
    have hfraction : afterFraction ≠ [] := ne_nil_of_parseExponent hxs hr
    have hdigits : rest ≠ [] := ne_nil_of_parseFraction hfs hfraction
    simp only [parseDigits_append hds hdigits s, Option.bind_some, if_neg hzero,
      parseFraction_append hfs hfraction s, parseExponent_append hxs hr s]

/-- **A number that ends before the text does is read the same whatever follows.** -/
theorem parseNumber_append {cs r : List Char} {c : Content} (h : parseNumber cs = some (c, r))
    (hr : r ≠ []) (s : List Char) : parseNumber (cs ++ s) = some (c, r ++ s) := by
  cases cs with
  | nil => cases h
  | cons d cs =>
    simp only [parseNumber] at h
    simp only [List.cons_append, parseNumber]
    split at h
    next hd =>
      rw [if_pos hd]
      exact parseUnsigned_append h hr s
    next hd =>
      rw [if_neg hd]
      exact parseUnsigned_append h hr s

/-- A number starts with a digit or a minus sign. -/
theorem parseNumber_head {d : Char} {cs r : List Char} {c : Content}
    (h : parseNumber (d :: cs) = some (c, r)) : d = '-' ∨ d.isDigit = true := by
  by_cases hd : d = '-'
  · exact Or.inl hd
  · refine Or.inr ?_
    rw [parseNumber, if_neg hd] at h
    obtain ⟨⟨ds, rest⟩, hds, -⟩ := Option.bind_eq_some_iff.mp h
    cases hdig : d.isDigit with
    | true => rfl
    | false =>
      rw [parseDigits, List.takeWhile_cons_of_neg (by rw [hdig]; exact Bool.false_ne_true),
        if_pos rfl] at hds
      cases hds

/-- A number is not one of the literals, so the reader of scalars comes to it. -/
theorem parseScalar_number {d : Char} (cs : List Char) (hd : d = '-' ∨ d.isDigit = true) :
    parseScalar (d :: cs) = parseNumber (d :: cs) := by
  have notLetter : d ≠ 'n' ∧ d ≠ 't' ∧ d ≠ 'f' ∧ d ≠ '"' := by
    refine ⟨?_, ?_, ?_, ?_⟩ <;> rintro rfl <;> revert hd <;> decide
  obtain ⟨hn, ht, hf, hq⟩ := notLetter
  rw [parseScalar]
  · rintro _ ⟨⟩
    exact hn rfl
  · rintro _ ⟨⟩
    exact ht rfl
  · rintro _ ⟨⟩
    exact hf rfl
  · rintro _ ⟨⟩
    exact hq rfl

/-- So is a scalar, which may be a number. -/
theorem parseScalar_append {cs r : List Char} {c : Content} (h : parseScalar cs = some (c, r))
    (hr : r ≠ []) (s : List Char) : parseScalar (cs ++ s) = some (c, r ++ s) := by
  unfold parseScalar at h
  split at h
  · cases h
    rfl
  · cases h
    rfl
  · cases h
    rfl
  · next cs =>
    obtain ⟨⟨xs, rest⟩, hxs, h⟩ := Option.bind_eq_some_iff.mp h
    cases h
    have le : cs.length ≤ (cs ++ s).length := by
      rw [List.length_append]
      exact Nat.le_add_right _ _
    simp only [List.cons_append, parseScalar, parseStr_append le hxs s, Option.bind_eq_bind,
      Option.bind_some]
  · cases cs with
    | nil => cases h
    | cons d cs =>
      rw [List.cons_append, parseScalar_number _ (parseNumber_head h), ← List.cons_append]
      exact parseNumber_append h hr s

/-! ## Extension laws of the containers -/

/-- The value ends with a bracket or a brace of its own. -/
def Closed : Content → Prop
  | .seq _ => True
  | .map _ => True
  | _ => False

/-- A reader of values that reads nothing from nothing, and reads from a longer text what it reads
from a text that ends after the value or is followed by something. -/
structure Extends (value : List Char → Option (Content × List Char)) : Prop where
  nil : value [] = none
  append : ∀ {cs c r}, value cs = some (c, r) → r ≠ [] ∨ Closed c →
    ∀ s, value (cs ++ s) = some (c, r ++ s)

section Containers

variable {value : List Char → Option (Content × List Char)} (ext : Extends value)

include ext

/-- Where a value is read there is something besides space. -/
theorem Extends.skipSpace_ne_nil {cs : List Char} {p : Content × List Char}
    (h : value (skipSpace cs) = some p) : skipSpace cs ≠ [] := by
  intro hs
  rw [hs, ext.nil] at h
  cases h

/-- What the reader of values does before a bracket, a comma or a brace. -/
theorem Extends.item_append {cs r r' : List Char} {c : Content} {d : Char}
    (h : value (skipSpace cs) = some (c, r)) (hr : skipSpace r = d :: r') (s : List Char) :
    value (skipSpace (cs ++ s)) = some (c, r ++ s) := by
  rw [skipSpace_append (ext.skipSpace_ne_nil h)]
  exact ext.append h (Or.inl (ne_nil_of_skipSpace hr)) s

/-- Items are read the same whatever follows their bracket, with no less fuel. -/
theorem parseItems_append {n m : Nat} (le : n ≤ m) {cs r : List Char} {items : List Content}
    (h : parseItems value n cs = some (items, r)) (s : List Char) :
    parseItems value m (cs ++ s) = some (items, r ++ s) := by
  induction n generalizing m cs items r with
  | zero => cases h
  | succ n ih =>
    obtain ⟨m, rfl⟩ := Nat.exists_eq_add_of_le' (Nat.le_trans (Nat.succ_le_succ n.zero_le) le)
    rw [parseItems] at h ⊢
    obtain ⟨⟨item, rest⟩, hitem, h⟩ := Option.bind_eq_some_iff.mp h
    simp only at h
    split at h
    · next rest' hclose =>
      cases h
      simp only [ext.item_append hitem hclose s, skipSpace_append_of_cons hclose s,
        Option.bind_eq_bind, Option.bind_some]
    · next rest' hcomma =>
      obtain ⟨⟨more, rest''⟩, hmore, h⟩ := Option.bind_eq_some_iff.mp h
      cases h
      simp only [ext.item_append hitem hcomma s, skipSpace_append_of_cons hcomma s,
        ih (Nat.le_of_succ_le_succ le) hmore, Option.bind_eq_bind, Option.bind_some]
    · cases h

/-- An entry is read the same whatever follows, if something follows it in the text already. -/
theorem parseEntry_append {cs r r' : List Char} {entry : String × Content} {d : Char}
    (h : parseEntry value cs = some (entry, r)) (hr : skipSpace r = d :: r') (s : List Char) :
    parseEntry value (cs ++ s) = some (entry, r ++ s) := by
  unfold parseEntry at h
  split at h
  · next rest hquote =>
    obtain ⟨⟨key, afterKey⟩, hkey, h⟩ := Option.bind_eq_some_iff.mp h
    simp only at h
    split at h
    · next afterColon hcolon =>
      obtain ⟨⟨item, afterItem⟩, hitem, h⟩ := Option.bind_eq_some_iff.mp h
      cases h
      have le : rest.length ≤ (rest ++ s).length := by
        rw [List.length_append]
        exact Nat.le_add_right _ _
      simp only [parseEntry, skipSpace_append_of_cons hquote s, parseStr_append le hkey s,
        skipSpace_append_of_cons hcolon s, ext.item_append hitem hr s, Option.bind_eq_bind,
        Option.bind_some]
    · cases h
  · cases h

/-- Entries are read the same whatever follows their brace, with no less fuel. -/
theorem parseEntries_append {n m : Nat} (le : n ≤ m) {cs r : List Char}
    {entries : List (String × Content)} (h : parseEntries value n cs = some (entries, r))
    (s : List Char) : parseEntries value m (cs ++ s) = some (entries, r ++ s) := by
  induction n generalizing m cs entries r with
  | zero => cases h
  | succ n ih =>
    obtain ⟨m, rfl⟩ := Nat.exists_eq_add_of_le' (Nat.le_trans (Nat.succ_le_succ n.zero_le) le)
    rw [parseEntries] at h ⊢
    obtain ⟨⟨entry, rest⟩, hentry, h⟩ := Option.bind_eq_some_iff.mp h
    simp only at h
    split at h
    · next rest' hclose =>
      cases h
      simp only [parseEntry_append ext hentry hclose s, skipSpace_append_of_cons hclose s,
        Option.bind_eq_bind, Option.bind_some]
    · next rest' hcomma =>
      obtain ⟨⟨more, rest''⟩, hmore, h⟩ := Option.bind_eq_some_iff.mp h
      cases h
      simp only [parseEntry_append ext hentry hcomma s, skipSpace_append_of_cons hcomma s,
        ih (Nat.le_of_succ_le_succ le) hmore, Option.bind_eq_bind, Option.bind_some]
    · cases h

/-- Where items are read there is something besides space. -/
theorem parseItems_skipSpace_ne_nil {n : Nat} {cs : List Char} {p : List Content × List Char}
    (h : parseItems value n cs = some p) : skipSpace cs ≠ [] := by
  cases n with
  | zero => cases h
  | succ n =>
    obtain ⟨q, hq, -⟩ := Option.bind_eq_some_iff.mp h
    exact ext.skipSpace_ne_nil hq

omit ext in
/-- Where entries are read there is something besides space. -/
theorem parseEntries_skipSpace_ne_nil {n : Nat} {cs : List Char}
    {p : List (String × Content) × List Char} (h : parseEntries value n cs = some p) :
    skipSpace cs ≠ [] := by
  cases n with
  | zero => cases h
  | succ n =>
    obtain ⟨q, hq, -⟩ := Option.bind_eq_some_iff.mp h
    intro hs
    rw [parseEntry, hs] at hq
    cases hq

/-- An array is read the same whatever follows. -/
theorem parseSeq_append {cs r : List Char} {c : Content} (h : parseSeq value cs = some (c, r))
    (s : List Char) : parseSeq value (cs ++ s) = some (c, r ++ s) := by
  unfold parseSeq at h
  split at h
  · next rest hclose =>
    cases h
    simp only [parseSeq, skipSpace_append_of_cons hclose s]
  · next hopen =>
    obtain ⟨⟨items, rest⟩, hitems, h⟩ := Option.map_eq_some_iff.mp h
    cases h
    have le : cs.length ≤ (cs ++ s).length := by
      rw [List.length_append]
      exact Nat.le_add_right _ _
    have again : ∀ rest, skipSpace (cs ++ s) ≠ ']' :: rest := by
      intro rest heq
      obtain ⟨d, ds, hd⟩ := List.exists_cons_of_ne_nil (parseItems_skipSpace_ne_nil ext hitems)
      rw [skipSpace_append_of_cons hd] at heq
      cases heq
      exact hopen ds hd
    rw [parseSeq, parseItems_append ext le hitems s, Option.map_some]
    split
    next heq => exact absurd heq (again _)
    next => rfl

/-- So is an object. -/
theorem parseMap_append {cs r : List Char} {c : Content} (h : parseMap value cs = some (c, r))
    (s : List Char) : parseMap value (cs ++ s) = some (c, r ++ s) := by
  unfold parseMap at h
  split at h
  · next rest hclose =>
    cases h
    simp only [parseMap, skipSpace_append_of_cons hclose s]
  · next hopen =>
    obtain ⟨⟨entries, rest⟩, hentries, h⟩ := Option.map_eq_some_iff.mp h
    cases h
    have le : cs.length ≤ (cs ++ s).length := by
      rw [List.length_append]
      exact Nat.le_add_right _ _
    have again : ∀ rest, skipSpace (cs ++ s) ≠ '}' :: rest := by
      intro rest heq
      obtain ⟨d, ds, hd⟩ := List.exists_cons_of_ne_nil (parseEntries_skipSpace_ne_nil hentries)
      rw [skipSpace_append_of_cons hd] at heq
      cases heq
      exact hopen ds hd
    rw [parseMap, parseEntries_append ext le hentries s, Option.map_some]
    split
    next heq => exact absurd heq (again _)
    next => rfl

end Containers

/-- A scalar is not closed. -/
theorem not_closed_of_parseScalar {cs r : List Char} {c : Content}
    (h : parseScalar cs = some (c, r)) : ¬ Closed c := by
  have numbers : ∀ negative ds tail, ¬ Closed (number negative ds tail) := by
    intro negative ds tail
    unfold number
    simp only
    split
    · exact id
    · split
      · split <;> exact id
      · split <;> exact id
  have unsigned : ∀ {negative : Bool} {cs r : List Char} {c : Content},
      parseUnsigned negative cs = some (c, r) → ¬ Closed c := by
    intro negative cs r c h
    unfold parseUnsigned at h
    obtain ⟨⟨ds, rest⟩, -, h⟩ := Option.bind_eq_some_iff.mp h
    simp only [Option.bind_eq_bind] at h
    split at h
    · cases h
    · obtain ⟨p, -, h⟩ := Option.bind_eq_some_iff.mp h
      obtain ⟨q, -, h⟩ := Option.bind_eq_some_iff.mp h
      cases h
      exact numbers _ _ _
  unfold parseScalar at h
  split at h
  · cases h
    exact id
  · cases h
    exact id
  · cases h
    exact id
  · obtain ⟨p, -, h⟩ := Option.bind_eq_some_iff.mp h
    cases h
    exact id
  · cases cs with
    | nil => cases h
    | cons d cs =>
      rw [parseNumber] at h
      split at h
      · exact unsigned h
      · exact unsigned h

/-- **The extension law**: the reader reads from a longer text what it reads from a text that ends
with a bracket or a brace, or goes on after the value. -/
theorem parseValue_extends (depth : Nat) : Extends (parseValue depth) := by
  induction depth with
  | zero =>
    refine ⟨rfl, ?_⟩
    intro cs c r h hr s
    cases cs with
    | nil => cases h
    | cons d cs =>
      simp only [parseValue, List.cons_append] at h ⊢
      split at h
      · cases h
      · next hd =>
        rw [if_neg hd, ← List.cons_append]
        exact parseScalar_append h (hr.resolve_right (not_closed_of_parseScalar h)) s
  | succ depth ih =>
    refine ⟨rfl, ?_⟩
    intro cs c r h hr s
    cases cs with
    | nil => cases h
    | cons d cs =>
      simp only [parseValue, List.cons_append] at h ⊢
      split at h
      · next hseq =>
        rw [if_pos hseq]
        exact parseSeq_append ih h s
      · next hseq =>
        rw [if_neg hseq]
        split at h
        · next hmap =>
          rw [if_pos hmap]
          exact parseMap_append ih h s
        · next hmap =>
          rw [if_neg hmap, ← List.cons_append]
          exact parseScalar_append h (hr.resolve_right (not_closed_of_parseScalar h)) s

/-- **A value is read the same whatever follows**, unless it is a number at the end of the text,
which may go on. -/
theorem parseValue_append {depth : Nat} {cs r : List Char} {c : Content}
    (h : parseValue depth cs = some (c, r)) (hr : r ≠ [] ∨ Closed c) (s : List Char) :
    parseValue depth (cs ++ s) = some (c, r ++ s) :=
  (parseValue_extends depth).append h hr s

/-- What starts with an opening bracket or brace reads as an array or an object, if at all. -/
theorem closed_of_parseValue {depth : Nat} {d : Char} {cs r : List Char} {c : Content}
    (hd : d = '[' ∨ d = '{') (h : parseValue depth (d :: cs) = some (c, r)) : Closed c := by
  cases depth with
  | zero =>
    rw [parseValue, if_pos hd] at h
    cases h
  | succ depth =>
    rw [parseValue] at h
    split at h
    · unfold parseSeq at h
      split at h
      · cases h
        trivial
      · obtain ⟨p, -, h⟩ := Option.map_eq_some_iff.mp h
        cases h
        trivial
    · next hseq =>
      rw [if_pos (hd.resolve_left hseq)] at h
      unfold parseMap at h
      split at h
      · cases h
        trivial
      · obtain ⟨p, -, h⟩ := Option.map_eq_some_iff.mp h
        cases h
        trivial

/-- **A text cut short is refused.** If a text that starts with a bracket or a brace reads to its
very end, no proper prefix of it reads as anything. -/
theorem parseText_none_of_prefix {whole part : String} {d : Char} {cs : List Char} {c : Content}
    (starts : whole.toList = d :: cs) (hd : d = '[' ∨ d = '{')
    (reads : parseValue depthLimit whole.toList = some (c, []))
    (cut : part.toList <+: whole.toList) (ne : part ≠ whole) : parseText part = none := by
  obtain ⟨rest, hrest⟩ := cut
  have hne : rest ≠ [] := by
    rintro rfl
    rw [List.append_nil] at hrest
    exact ne (String.toList_inj.mp hrest)
  cases hp : part.toList with
  | nil => rw [parseText, hp]; rfl
  | cons e es =>
    -- The cut-off text starts as the whole does, so neither has leading white space.
    have head : e = d := by
      rw [hp, starts] at hrest
      cases hrest
      rfl
    subst head
    have noSpace : skipSpace (e :: es) = e :: es := by
      rcases hd with rfl | rfl <;> rfl
    rw [parseText, hp, noSpace]
    cases hv : parseValue depthLimit (e :: es) with
    | none => rfl
    | some p =>
      obtain ⟨c', r⟩ := p
      have longer := parseValue_append hv (Or.inr (closed_of_parseValue hd hv)) rest
      rw [← hp, hrest, reads] at longer
      cases r with
      | nil =>
        cases rest with
        | nil => exact absurd rfl hne
        | cons f fs => cases longer
      | cons f fs => cases longer

end Json
