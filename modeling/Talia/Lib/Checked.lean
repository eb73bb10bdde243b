import Mathlib.Algebra.Group.Nat.Defs

/-!
# Checked arithmetic

Machine words whose operations give nothing when the exact result is no word. What they give has
the exact value, and they give it exactly when that value is in range: `add_eq_some_iff`,
`sub_eq_some_iff` and `mul_eq_some_iff`.
-/

namespace Checked

/-- The word of a value, if it has one. -/
def ofNat (n : ℕ) : Option UInt64 := if n < 2 ^ 64 then some (.ofNat n) else none

def add (a b : UInt64) : Option UInt64 := ofNat (a.toNat + b.toNat)

def sub (a b : UInt64) : Option UInt64 := if b ≤ a then some (a - b) else none

def mul (a b : UInt64) : Option UInt64 := ofNat (a.toNat * b.toNat)

/-- A number is in range if it is that of some value. -/
theorem ofNat_eq_some_iff {n : ℕ} {c : UInt64} : ofNat n = some c ↔ c.toNat = n := by
  unfold ofNat
  constructor
  · intro h
    split at h
    next small =>
      cases h
      exact UInt64.toNat_ofNat_of_lt' small
    next => cases h
  · intro value
    have small := c.toNat_lt
    rw [value] at small
    rw [if_pos small, ← value, UInt64.ofNat_toNat]

/-- A sum is checked to be exact, -/
theorem add_eq_some_iff {a b c : UInt64} : add a b = some c ↔ c.toNat = a.toNat + b.toNat :=
  ofNat_eq_some_iff

/-- so is a product, -/
theorem mul_eq_some_iff {a b c : UInt64} : mul a b = some c ↔ c.toNat = a.toNat * b.toNat :=
  ofNat_eq_some_iff

/-- and so is a difference. -/
theorem sub_eq_some_iff {a b c : UInt64} : sub a b = some c ↔ c.toNat + b.toNat = a.toNat := by
  unfold sub
  constructor
  · intro h
    split at h
    next le =>
      cases h
      have le' := UInt64.le_iff_toNat_le.mp le
      rw [UInt64.toNat_sub_of_le _ _ le]
      omega
    next => cases h
  · intro value
    have le : b ≤ a := UInt64.le_iff_toNat_le.mpr (by omega)
    have same : (a - b).toNat = c.toNat := by
      rw [UInt64.toNat_sub_of_le _ _ le]
      omega
    rw [if_pos le, UInt64.toNat_inj.mp same]

end Checked
