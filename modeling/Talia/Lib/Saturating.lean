import Mathlib.Algebra.Order.BigOperators.Group.List
import Mathlib.Tactic.Ring

/-!
# Saturating arithmetic

Machine integers whose operations stop at the bounds of their type. The value of a result is the
exact one, clamped: `toNat_add`, `toNat_sub` and `toNat_mul` for words, `toInt_signedAdd` for signed
words. A saturating sum of words is the exact sum clamped (`toNat_foldl_add`); one of signed words
is exact when no partial sum leaves the type (`toInt_foldl_signedAdd`), and need not be otherwise.
-/

namespace Saturating

/-! ## Words -/

def add (a b : UInt64) : UInt64 := .ofNat (min (a.toNat + b.toNat) (2 ^ 64 - 1))

def sub (a b : UInt64) : UInt64 := .ofNat (a.toNat - b.toNat)

def mul (a b : UInt64) : UInt64 := .ofNat (min (a.toNat * b.toNat) (2 ^ 64 - 1))

@[simp] theorem toNat_add (a b : UInt64) :
    (add a b).toNat = min (a.toNat + b.toNat) (2 ^ 64 - 1) := by
  rw [add, UInt64.toNat_ofNat_of_lt']
  show min _ _ < 2 ^ 64
  omega

@[simp] theorem toNat_sub (a b : UInt64) : (sub a b).toNat = a.toNat - b.toNat := by
  have bound := a.toNat_lt
  rw [sub, UInt64.toNat_ofNat_of_lt']
  show _ < 2 ^ 64
  omega

@[simp] theorem toNat_mul (a b : UInt64) :
    (mul a b).toNat = min (a.toNat * b.toNat) (2 ^ 64 - 1) := by
  rw [mul, UInt64.toNat_ofNat_of_lt']
  show min _ _ < 2 ^ 64
  omega

/-- A sum with saturation is the sum, or the largest value if that is less. -/
theorem toNat_foldl_add (values : List UInt64) (total : UInt64) :
    (values.foldl add total).toNat =
      min (total.toNat + (values.map UInt64.toNat).sum) (2 ^ 64 - 1) := by
  induction values generalizing total with
  | nil =>
    have bound := total.toNat_lt
    simp only [List.foldl_nil, List.map_nil, List.sum_nil]
    omega
  | cons value values ih =>
    simp only [List.foldl_cons, List.map_cons, List.sum_cons, ih, toNat_add]
    omega

/-- A saturating sum grows with its terms. -/
theorem foldl_add_le {values values' : List UInt64}
    (le : List.Forall₂ (· ≤ ·) values values') :
    values.foldl add 0 ≤ values'.foldl add 0 := by
  have sums : (values.map UInt64.toNat).sum ≤ (values'.map UInt64.toNat).sum := by
    refine List.Forall₂.sum_le_sum ?_
    rw [List.forall₂_map_left_iff, List.forall₂_map_right_iff]
    exact le.imp fun _ _ h => UInt64.le_iff_toNat_le.mp h
  rw [UInt64.le_iff_toNat_le, toNat_foldl_add, toNat_foldl_add]
  omega

/-! ## Signed words -/

/-- The integers a signed word has. -/
def Signed (n : Int) : Prop := -2 ^ 63 ≤ n ∧ n < 2 ^ 63

def signedAdd (a b : Int64) : Int64 :=
  .ofInt (max (-2 ^ 63) (min (a.toInt + b.toInt) (2 ^ 63 - 1)))

/-- What is in the signed range is kept. -/
theorem toInt_ofInt {n : Int} (signed : Signed n) : (Int64.ofInt n).toInt = n :=
  Int64.toInt_ofInt_of_le signed.1 signed.2

/-- A sum in the signed range is not saturated. -/
theorem toInt_signedAdd {a b : Int64} (signed : Signed (a.toInt + b.toInt)) :
    (signedAdd a b).toInt = a.toInt + b.toInt := by
  obtain ⟨lower, upper⟩ := signed
  have clamped : max (-2 ^ 63) (min (a.toInt + b.toInt) (2 ^ 63 - 1)) = a.toInt + b.toInt := by
    omega
  rw [signedAdd, clamped]
  exact toInt_ofInt ⟨lower, upper⟩

/-- A sum no partial sum of which saturates is exact. -/
theorem toInt_foldl_signedAdd {values : List Int64} {total : Int64}
    (signed : ∀ part, part <+: values → Signed (total.toInt + (part.map Int64.toInt).sum)) :
    (values.foldl signedAdd total).toInt = total.toInt + (values.map Int64.toInt).sum := by
  induction values generalizing total with
  | nil => simp
  | cons value values ih =>
    have first : (signedAdd total value).toInt = total.toInt + value.toInt := by
      refine toInt_signedAdd ?_
      simpa using signed [value] (List.prefix_append [value] values)
    rw [List.foldl_cons, ih, first, List.map_cons, List.sum_cons, Int.add_assoc]
    intro part starts
    rw [first, Int.add_assoc, ← List.sum_cons, ← List.map_cons]
    exact signed (value :: part) (List.cons_prefix_cons.mpr ⟨rfl, starts⟩)

end Saturating
