import Talia.Lib.Text

/-!
# Splitting texts

`str::lines`, `str::split_once`, `str::split` and `str::split_whitespace` of Rust's standard
library, and how each splits what was put together with its separator. `cut`, `fields` and `chomp` are
what they do to lists.

`split_once` has the one trap: it splits at the first occurrence of its pattern, which has to be the
one that was put there. Between parts joined by spaces, `" - "` occurs only where a part is a dash
(`cut_dash`).
-/

namespace Text

/-! ## Fields -/

section Fields

variable {α : Type*} {p : α → Bool}

/-- The parts between separators, without the empty ones. -/
def fields (p : α → Bool) (l : List α) : List (List α) := (l.splitOnP p).filter (· ≠ [])

/-- An empty list has no fields. -/
theorem fields_nil : fields p [] = [] := by
  simp [fields]

/-- A separator splits the fields before it from those after it. -/
theorem fields_append_cons (l l' : List α) {a : α} (separates : p a = true) :
    fields p (l ++ a :: l') = fields p l ++ fields p l' := by
  rw [fields, List.splitOnP_append_cons l l' separates, List.filter_append]
  rfl

/-- What has no separator is one field. -/
theorem fields_eq_singleton {l : List α} (nonempty : l ≠ []) (whole : ∀ a ∈ l, p a = false) :
    fields p l = [l] := by
  rw [fields, List.splitOnP_eq_singleton whole]
  simp [nonempty]

/-- The fields of parts joined by a separator are the fields of the parts. -/
theorem fields_intercalate {a : α} (separates : p a = true) (parts : List (List α)) :
    fields p ([a].intercalate parts) = parts.flatMap (fields p) := by
  induction parts with
  | nil => exact fields_nil
  | cons part parts ih =>
    cases parts with
    | nil => simp
    | cons next parts =>
      rw [List.intercalate_cons_cons, List.append_assoc, List.singleton_append,
        fields_append_cons part _ separates, ih]
      rfl

/-- What has no separator stays together with what follows. -/
theorem splitOnP_append_of_forall {l : List α} (whole : ∀ a ∈ l, p a = false) (l' : List α) :
    (l ++ l').splitOnP p = (l'.splitOnP p).modifyHead (l ++ ·) := by
  induction l with
  | nil =>
    cases parts : l'.splitOnP p with
    | nil => exact absurd parts (List.splitOnP_ne_nil p l')
    | cons first rest => rw [List.nil_append, parts, List.modifyHead_cons, List.nil_append]
  | cons a l ih =>
    have visible : ¬ p a = true := by simp [whole a List.mem_cons_self]
    rw [List.cons_append, List.splitOnP_cons_eq_if_modifyHead, if_neg visible,
      ih fun b mem => whole b (List.mem_cons_of_mem a mem), List.modifyHead_modifyHead]
    rfl

/-- What is joined is the separator or inside a part. -/
theorem mem_intercalate {a b : α} {parts : List (List α)} (mem : b ∈ [a].intercalate parts) :
    b = a ∨ ∃ part ∈ parts, b ∈ part := by
  induction parts with
  | nil => cases mem
  | cons part parts ih =>
    cases parts with
    | nil =>
      rw [List.intercalate_singleton] at mem
      exact .inr ⟨part, List.mem_cons_self, mem⟩
    | cons next parts =>
      rw [List.intercalate_cons_cons, List.mem_append, List.mem_append] at mem
      rcases mem with (inside | separator) | later
      · exact .inr ⟨part, List.mem_cons_self, inside⟩
      · exact .inl (List.mem_singleton.mp separator)
      · refine (ih later).imp_right fun found => ?_
        obtain ⟨part', listed, inside⟩ := found
        exact ⟨part', List.mem_cons_of_mem part listed, inside⟩

/-- What is inside a part is in the list, and is no separator. -/
theorem mem_of_mem_splitOnP {l part : List α} (mem : part ∈ l.splitOnP p) {a : α}
    (inside : a ∈ part) : a ∈ l ∧ p a = false := by
  induction l generalizing part a with
  | nil =>
    rw [List.splitOnP_nil, List.mem_singleton] at mem
    rw [mem] at inside
    cases inside
  | cons b l ih =>
    rw [List.splitOnP_cons_eq_if_modifyHead] at mem
    split at mem
    next =>
      rcases List.mem_cons.mp mem with rfl | mem
      · cases inside
      · exact ⟨List.mem_cons_of_mem b (ih mem inside).1, (ih mem inside).2⟩
    next visible =>
      cases parts : l.splitOnP p with
      | nil => exact absurd parts (List.splitOnP_ne_nil p l)
      | cons first rest =>
        rw [parts, List.modifyHead_cons] at mem
        rw [parts] at ih
        rcases List.mem_cons.mp mem with rfl | mem
        · rcases List.mem_cons.mp inside with rfl | inside
          · exact ⟨List.mem_cons_self, by simpa using visible⟩
          · obtain ⟨found, apart⟩ := ih List.mem_cons_self inside
            exact ⟨List.mem_cons_of_mem b found, apart⟩
        · obtain ⟨found, apart⟩ := ih (List.mem_cons_of_mem first mem) inside
          exact ⟨List.mem_cons_of_mem b found, apart⟩

/-- A field has no separator in it. -/
theorem not_separator_of_mem_fields {l part : List α} (mem : part ∈ fields p l) {a : α}
    (inside : a ∈ part) : p a = false :=
  (mem_of_mem_splitOnP (List.mem_filter.mp mem).1 inside).2

/-- What is not a separator is in some field. -/
theorem fields_ne_nil {l : List α} {a : α} (mem : a ∈ l) (visible : p a = false) :
    fields p l ≠ [] := by
  have found : ∃ part ∈ l.splitOnP p, a ∈ part := by
    induction l with
    | nil => cases mem
    | cons b l ih =>
      rw [List.splitOnP_cons_eq_if_modifyHead]
      split
      next separates =>
        have other : a ≠ b := by
          rintro rfl
          rw [visible] at separates
          cases separates
        obtain ⟨part, found, inside⟩ := ih ((List.mem_cons.mp mem).resolve_left other)
        exact ⟨part, List.mem_cons_of_mem _ found, inside⟩
      next =>
        cases parts : l.splitOnP p with
        | nil => exact absurd parts (List.splitOnP_ne_nil p l)
        | cons first rest =>
          rw [parts] at ih
          rw [List.modifyHead_cons]
          rcases List.mem_cons.mp mem with rfl | mem
          · exact ⟨_, List.mem_cons_self, List.mem_cons_self⟩
          · obtain ⟨part, found, inside⟩ := ih mem
            rcases List.mem_cons.mp found with rfl | found
            · exact ⟨_, List.mem_cons_self, List.mem_cons_of_mem b inside⟩
            · exact ⟨part, List.mem_cons_of_mem _ found, inside⟩
  obtain ⟨part, found, inside⟩ := found
  exact List.ne_nil_of_mem (List.mem_filter.mpr ⟨found, by simpa using List.ne_nil_of_mem inside⟩)

end Fields

/-! ## Cutting -/

section Cut

variable {α : Type*} [DecidableEq α]

/-- What is before and after the first occurrence of a pattern. -/
def cut (pattern : List α) : List α → Option (List α × List α)
  | [] => if pattern = [] then some ([], []) else none
  | a :: l =>
    if pattern <+: a :: l then some ([], (a :: l).drop pattern.length)
    else (cut pattern l).map fun parts => (a :: parts.1, parts.2)

/-- At the pattern itself the list is cut there. -/
theorem cut_append_self (pattern l : List α) : cut pattern (pattern ++ l) = some ([], l) := by
  cases pattern with
  | nil =>
    cases l with
    | nil => rfl
    | cons a l => simp [cut]
  | cons b pattern => simp [cut]

/-- Elsewhere the cut is further on. -/
theorem cut_cons_of_not_prefix {pattern : List α} {a : α} {l : List α}
    (other : ¬ pattern <+: a :: l) :
    cut pattern (a :: l) = (cut pattern l).map fun parts => (a :: parts.1, parts.2) :=
  if_neg other

/-- A part in which the pattern does not start is passed over. -/
theorem cut_append {first : α} {pattern part : List α} (absent : first ∉ part) (l : List α) :
    cut (first :: pattern) (part ++ l) =
      (cut (first :: pattern) l).map fun parts => (part ++ parts.1, parts.2) := by
  induction part with
  | nil => simp
  | cons a part ih =>
    have other : ¬ first :: pattern <+: a :: (part ++ l) := by
      intro starts
      obtain ⟨same, -⟩ := List.cons_prefix_cons.mp starts
      exact absent (same ▸ List.mem_cons_self)
    rw [List.cons_append, cut_cons_of_not_prefix other,
      ih fun mem => absent (List.mem_cons_of_mem a mem), Option.map_map]
    rfl

/-- **The first dash that stands alone**: parts joined by a separator, none but the first of which
is the dash, are cut off before it. -/
theorem cut_dash {space dash : α} (differ : space ≠ dash) {parts : List (List α)}
    (nonempty : parts ≠ []) (whole : ∀ part ∈ parts, space ∉ part)
    (other : ∀ part ∈ parts.tail, part ≠ [dash]) (l : List α) :
    cut [space, dash, space] ([space].intercalate parts ++ [space, dash, space] ++ l) =
      some ([space].intercalate parts, l) := by
  induction parts with
  | nil => exact absurd rfl nonempty
  | cons part parts ih =>
    have absent := whole part List.mem_cons_self
    cases parts with
    | nil =>
      rw [List.intercalate_singleton, List.append_assoc, cut_append absent, cut_append_self,
        Option.map_some, List.append_nil]
    | cons next parts =>
      have rest := ih (List.cons_ne_nil _ _) (fun part mem => whole part (List.mem_cons_of_mem _ mem))
        fun part mem => other part (List.mem_cons_of_mem _ mem)
      have tail : ¬ [space, dash, space] <+:
          space :: ([space].intercalate (next :: parts) ++ [space, dash, space] ++ l) := by
        intro starts
        obtain ⟨-, starts⟩ := List.cons_prefix_cons.mp starts
        have apart := other next List.mem_cons_self
        have absent := whole next (List.mem_cons_of_mem _ List.mem_cons_self)
        -- after the space comes the next part, and then a space again
        obtain ⟨after, split⟩ : ∃ after,
            [space].intercalate (next :: parts) ++ [space, dash, space] ++ l =
              next ++ space :: after := by
          cases parts with
          | nil => exact ⟨dash :: space :: l, by simp⟩
          | cons third parts => exact ⟨_, by rw [List.intercalate_cons_cons]; simp; rfl⟩
        rw [split] at starts
        cases next with
        | nil =>
          obtain ⟨same, -⟩ := List.cons_prefix_cons.mp starts
          exact differ same.symm
        | cons a next =>
          obtain ⟨same, rest⟩ := List.cons_prefix_cons.mp starts
          cases next with
          | nil => exact apart (by rw [same])
          | cons b next =>
            have same : space = b := (List.cons_prefix_cons.mp rest).1
            exact absent (same ▸ List.mem_cons_of_mem _ List.mem_cons_self)
      rw [List.intercalate_cons_cons, List.append_assoc, List.append_assoc, List.append_assoc,
        cut_append absent, List.singleton_append, ← List.append_assoc, cut_cons_of_not_prefix tail,
        rest]
      simp

end Cut

/-! ## Lines -/

/-- The end of a line may have a carriage return. -/
def chomp (line : List Char) : List Char :=
  if line.getLast? = some '\r' then line.dropLast else line

/-- A carriage return at the end is dropped, nothing else. -/
theorem chomp_concat (l : List Char) (c : Char) :
    chomp (l ++ [c]) = if c = '\r' then l else l ++ [c] := by
  simp [chomp]

/-- The end is after the last other character. -/
theorem chomp_append_cons (l l' : List Char) {c : Char} (other : c ≠ '\r') :
    chomp (l ++ c :: l') = l ++ c :: chomp l' := by
  cases l' using List.reverseRecOn with
  | nil => exact (chomp_concat l c).trans (if_neg other)
  | append_singleton l' d =>
    rw [← List.cons_append, ← List.append_assoc, chomp_concat, chomp_concat]
    split
    next => rfl
    next => rw [List.append_assoc, List.cons_append]

/-- `str::lines`. -/
def lines (s : String) : List String :=
  let pieces := s.toList.splitOn '\n'
  let unended := pieces.getLast?.filter (· ≠ [])
  (pieces.dropLast.map chomp ++ unended.toList).map String.ofList

/-- Lines that are all ended. -/
theorem lines_of_ended {ls : List (List Char)} (whole : ∀ l ∈ ls, '\n' ∉ l) :
    lines (String.ofList (ls.flatMap (· ++ ['\n']))) = ls.map fun l => String.ofList (chomp l) := by
  have pieces : (ls.flatMap (· ++ ['\n'])).splitOn '\n' = ls ++ [[]] := by
    induction ls with
    | nil => simp
    | cons l ls ih =>
      rw [List.flatMap_cons, List.append_assoc, List.singleton_append,
        List.splitOn_append_cons_self_of_not_mem (whole l List.mem_cons_self),
        ih fun l mem => whole l (List.mem_cons_of_mem _ mem), List.cons_append]
  rw [lines, String.toList_ofList, pieces, List.dropLast_concat, List.getLast?_concat,
    Option.filter_some, List.map_append, List.map_map]
  exact List.append_nil _

/-- What has no carriage return is kept. -/
theorem chomp_append_of_notMem {l : List Char} (absent : '\r' ∉ l) (l' : List Char) :
    chomp (l ++ l') = l ++ chomp l' := by
  cases l' using List.reverseRecOn with
  | nil =>
    have kept : l.getLast? ≠ some '\r' := fun ends => absent (List.mem_of_getLast? ends)
    rw [List.append_nil, chomp, if_neg kept]
    exact (List.append_nil l).symm
  | append_singleton l' c =>
    rw [← List.append_assoc, chomp_concat, chomp_concat]
    split
    next => rfl
    next => rw [List.append_assoc]

/-- Only something at the end is dropped. -/
theorem chomp_prefix (l : List Char) : chomp l <+: l := by
  unfold chomp
  split
  next => exact List.dropLast_prefix l
  next => exact List.prefix_refl l

/-- The end of a line is not part of a field. -/
theorem fields_chomp (l : List Char) : fields isWhitespace (chomp l) = fields isWhitespace l := by
  cases l using List.reverseRecOn with
  | nil => rfl
  | append_singleton l c =>
    rw [chomp_concat]
    split
    next ends =>
      rw [ends, fields_append_cons l [] (by decide), fields_nil, List.append_nil]
    next => rfl

/-! ## Texts -/

/-- The lines of a text are what newlines separate, with their ends taken off, less an empty one at
the end. -/
theorem filterMap_lines {β : Type*} (f : String → Option β) (blank : f "" = none)
    (chomped : ∀ l, f (.ofList (chomp l)) = f (.ofList l)) (s : String) :
    (lines s).filterMap f = (s.toList.splitOn '\n').filterMap fun l => f (.ofList l) := by
  have some_piece : s.toList.splitOn '\n' ≠ [] := List.splitOnP_ne_nil _ _
  rw [lines]
  generalize s.toList.splitOn '\n' = pieces at some_piece ⊢
  cases pieces using List.reverseRecOn with
  | nil => exact absurd rfl some_piece
  | append_singleton front last =>
    have ended : (front.map chomp).filterMap (fun l => f (.ofList l)) =
        front.filterMap fun l => f (.ofList l) := by
      rw [List.filterMap_map]
      exact List.filterMap_congr fun l _ => chomped l
    rw [List.dropLast_concat, List.getLast?_concat, List.filterMap_map, List.filterMap_append,
      List.filterMap_append]
    refine congrArg₂ (· ++ ·) ended ?_
    by_cases empty : last = []
    · subst empty
      have skipped : [[]].filterMap (fun l => f (.ofList l)) = [] :=
        List.filterMap_cons_none blank
      rw [skipped]
      rfl
    · rw [Option.filter_some, if_pos (decide_eq_true empty)]
      rfl

/-- `str::split_once`. -/
def splitOnce (pattern s : String) : Option (String × String) :=
  (cut pattern.toList s.toList).map fun parts => (.ofList parts.1, .ofList parts.2)

/-- `str::split` at a character. -/
def split (s : String) (c : Char) : List String := (s.toList.splitOn c).map String.ofList

/-- `str::split_whitespace`. -/
def splitWhitespace (s : String) : List String :=
  (fields isWhitespace s.toList).map String.ofList

/-- Without the separator a text is one part. -/
theorem split_of_notMem {s : String} {c : Char} (whole : c ∉ s.toList) : split s c = [s] := by
  rw [split, List.splitOn_eq_singleton whole, List.map_singleton, String.ofList_toList]

/-- The part before the first separator comes first. -/
theorem split_append {s : String} {c : Char} (whole : c ∉ s.toList) (t : String) :
    split (s ++ String.singleton c ++ t) c = s :: split t c := by
  have chars : (s ++ String.singleton c ++ t).toList = s.toList ++ c :: t.toList := by simp
  rw [split, chars, List.splitOn_append_cons_self_of_not_mem whole, List.map_cons,
    String.ofList_toList, split]

/-- The parts joined are the text. -/
theorem intercalate_split (s : String) (c : Char) :
    (String.singleton c).intercalate (split s c) = s := by
  rw [← String.toList_inj, String.toList_intercalate, split, List.map_map]
  have same : String.toList ∘ String.ofList = id := funext fun l => String.toList_ofList
  rw [same, List.map_id, String.toList_singleton]
  exact List.intercalate_splitOn c

/-- Only spaces at the ends are trimmed. -/
theorem trim_eq_self_of_ends {s : String}
    (first : ∀ c, s.toList.head? = some c → isWhitespace c = false)
    (last : ∀ c, s.toList.getLast? = some c → isWhitespace c = false) : trim s = s := by
  have front : s.toList.dropWhile isWhitespace = s.toList := by
    cases chars : s.toList with
    | nil => rfl
    | cons c cs =>
      have visible : ¬ isWhitespace c = true := by
        rw [first c (by rw [chars]; rfl)]
        exact Bool.false_ne_true
      rw [List.dropWhile_cons_of_neg visible]
  have back : s.toList.rdropWhile isWhitespace = s.toList := by
    refine List.rdropWhile_eq_self_iff.mpr fun nonempty => ?_
    rw [last _ (List.getLast?_eq_some_getLast nonempty)]
    exact Bool.false_ne_true
  rw [trim, front, back, String.ofList_toList]

/-- A text is split at the first occurrence of its separator. -/
theorem splitOnce_append {c : Char} {s : String} (absent : c ∉ s.toList) (t : String) :
    splitOnce (String.singleton c) (s ++ String.singleton c ++ t) = some (s, t) := by
  have chars : (s ++ String.singleton c ++ t).toList = s.toList ++ ([c] ++ t.toList) := by simp
  rw [splitOnce, chars, String.toList_singleton, cut_append absent, cut_append_self]
  simp

end Text
