import Mathlib.Data.List.Nodup

/-!
# Lists with distinct keys

A list whose entries have distinct keys is a finite map: a key finds at most one entry
(`find?_eq_some_iff`), and what has the key is what it finds (`filter_eq`). So the order of the
entries does not matter, nor do entries with other keys (`find?_of_perm_append`).
-/

namespace Keyed

variable {α κ : Type*} [DecidableEq κ] {key : α → κ} {xs : List α}

/-- With distinct keys a search finds whatever has the key. -/
theorem find?_eq_some_iff (distinct : (xs.map key).Nodup) {k : κ} {a : α} :
    xs.find? (key · = k) = some a ↔ a ∈ xs ∧ key a = k := by
  constructor
  · intro found
    exact ⟨List.mem_of_find?_eq_some found, by simpa using List.find?_some found⟩
  · intro h
    obtain ⟨mem, rfl⟩ := h
    cases found : xs.find? (key · = key a) with
    | none => exact absurd (decide_eq_true rfl) (List.find?_eq_none.mp found a mem)
    | some b =>
      have same : key b = key a := by simpa using List.find?_some found
      rw [List.inj_on_of_nodup_map distinct (List.mem_of_find?_eq_some found) mem same]

/-- It finds nothing if no element has the key. -/
theorem find?_eq_none_of_notMem {k : κ} (fresh : k ∉ xs.map key) :
    xs.find? (key · = k) = none := by
  rw [List.find?_eq_none]
  intro a mem same
  exact fresh (List.mem_map.mpr ⟨a, mem, of_decide_eq_true same⟩)

/-- So no more than one element has it. -/
theorem filter_eq (distinct : (xs.map key).Nodup) (k : κ) :
    xs.filter (key · = k) = (xs.find? (key · = k)).toList := by
  induction xs with
  | nil => rfl
  | cons a xs ih =>
    obtain ⟨fresh, tail⟩ := List.nodup_cons.mp distinct
    by_cases own : key a = k
    · have others : xs.filter (key · = k) = [] := by
        rw [List.filter_eq_nil_iff]
        intro b mem same
        have same : key b = key a := (of_decide_eq_true same).trans own.symm
        exact fresh (same ▸ List.mem_map_of_mem mem)
      rw [List.filter_cons, List.find?_cons, decide_eq_true own, others]
      rfl
    · rw [List.filter_cons, List.find?_cons, decide_eq_false own, ← ih tail]
      rfl

/-- Elements with other keys, and their order, do not bear on the search. -/
theorem find?_of_perm_append (distinct : (xs.map key).Nodup) {ys extra : List α}
    (perm : ys.Perm (xs ++ extra)) {k : κ} (others : ∀ a ∈ extra, key a ≠ k) :
    ys.find? (key · = k) = xs.find? (key · = k) := by
  have unseen : extra.filter (key · = k) = [] := by
    rw [List.filter_eq_nil_iff]
    intro a mem same
    exact others a mem (of_decide_eq_true same)
  have kept : (ys.filter (key · = k)).Perm (xs.find? (key · = k)).toList := by
    rw [← filter_eq distinct, ← List.append_nil (xs.filter _), ← unseen, ← List.filter_append]
    exact perm.filter _
  rw [← List.head?_filter]
  cases found : xs.find? (key · = k) with
  | none =>
    rw [found, Option.toList_none, List.perm_nil] at kept
    rw [kept, List.head?_nil]
  | some a =>
    rw [found, Option.toList_some, List.perm_singleton] at kept
    rw [kept, List.head?_cons]

end Keyed
