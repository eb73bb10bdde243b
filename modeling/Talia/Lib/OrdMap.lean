import Std.Data.ExtTreeMap
import Std.Data.ExtTreeMap.Lemmas

/-!
# Ordered maps

`BTreeMap K V` is the standard library's extensional tree map over the order of its keys. The
lemmas restate its lookups with an equation between keys in place of a comparison, which is the
form every proof above uses.
-/

/-- An ordered map. -/
abbrev BTreeMap (K V : Type) [Ord K] : Type := Std.ExtTreeMap K V compare

namespace BTreeMap

open Std

variable {K V : Type} [Ord K] [TransOrd K]

/-- Looking a key up after an insertion. -/
theorem get_insert [LawfulEqOrd K] [DecidableEq K] (m : BTreeMap K V) (k a : K) (v : V) :
    (m.insert k v)[a]? = if k = a then some v else m[a]? := by
  rw [ExtTreeMap.getElem?_insert]
  simp only [Std.compare_eq_iff_eq]

/-- Looking a key up after a removal. -/
theorem get_erase [LawfulEqOrd K] [DecidableEq K] (m : BTreeMap K V) (k a : K) :
    (m.erase k)[a]? = if k = a then none else m[a]? := by
  rw [ExtTreeMap.getElem?_erase]
  simp only [Std.compare_eq_iff_eq]

theorem get_empty (a : K) : (∅ : BTreeMap K V)[a]? = none := ExtTreeMap.getElem?_empty

/-- A key is listed exactly when looking it up finds a value. -/
theorem mem_keys_iff [LawfulEqOrd K] {m : BTreeMap K V} {k : K} : k ∈ m.keys ↔ ∃ v, m[k]? = some v := by
  rw [ExtTreeMap.mem_keys, ExtTreeMap.mem_iff_isSome_getElem?, Option.isSome_iff_exists]

end BTreeMap
