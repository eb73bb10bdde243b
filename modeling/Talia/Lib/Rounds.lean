import Mathlib.Algebra.Group.Nat.Defs
import Mathlib.Data.Nat.GCD.Basic
import Mathlib.Data.Nat.ModEq
import Mathlib.Logic.Function.Basic

/-!
# Hashing in rounds

A hash that takes a word in letter by letter, one round for each. When no round loses anything,
neither of the state nor of the letter (`Lossless`), two words that differ in one letter are hashed
apart from any state on, whatever stands around that letter (`foldl_ne_of_edited`).

Mixing a letter in by exclusive or and multiplying by an odd number is such a round
(`lossless_xor_mul`): modulo a power of two an odd number can be cancelled.
-/

namespace Rounds

variable {σ α β : Type}

/-! ## Edits -/

/-- Two words that differ in one letter. -/
def Edited (xs ys : List α) : Prop :=
  ∃ (p s : List α) (a b : α), a ≠ b ∧ xs = p ++ [a] ++ s ∧ ys = p ++ [b] ++ s

/-- What comes before an edit does not bear on it. -/
theorem Edited.append_left {xs ys : List α} (edited : Edited xs ys) (before : List α) :
    Edited (before ++ xs) (before ++ ys) := by
  obtain ⟨p, s, a, b, apart, rfl, rfl⟩ := edited
  exact ⟨before ++ p, s, a, b, apart, by simp, by simp⟩

/-- Nor does what comes after it. -/
theorem Edited.append_right {xs ys : List α} (edited : Edited xs ys) (after : List α) :
    Edited (xs ++ after) (ys ++ after) := by
  obtain ⟨p, s, a, b, apart, rfl, rfl⟩ := edited
  exact ⟨p, s ++ after, a, b, apart, by simp, by simp⟩

/-- Spelling each letter out keeps an edit, where the two letters in question are spelled by one
letter each and not by the same. -/
theorem Edited.flatMap {f : α → List β} {xs ys : List α} (edited : Edited xs ys)
    (spelled : ∀ a b, a ∈ xs → b ∈ ys → a ≠ b → ∃ c d, f a = [c] ∧ f b = [d] ∧ c ≠ d) :
    Edited (xs.flatMap f) (ys.flatMap f) := by
  obtain ⟨p, s, a, b, apart, rfl, rfl⟩ := edited
  obtain ⟨c, d, first, second, apart⟩ := spelled a b (by simp) (by simp) apart
  exact ⟨p.flatMap f, s.flatMap f, c, d, apart, by simp [first], by simp [second]⟩

/-! ## Rounds that lose nothing -/

/-- A round gives back the state, for a known letter, and the letter, for a known state. -/
structure Lossless (round : σ → α → σ) : Prop where
  state : ∀ letter, Function.Injective fun state => round state letter
  letter : ∀ state, Function.Injective (round state)

/-- Nothing of the state is lost over a word. -/
theorem Lossless.foldl_injective {round : σ → α → σ} (lossless : Lossless round) (word : List α) :
    Function.Injective fun state => word.foldl round state := by
  induction word with
  | nil => exact Function.injective_id
  | cons letter word ih => exact ih.comp (lossless.state letter)

/-- **One letter changes the hash.** -/
theorem Lossless.foldl_ne_of_edited {round : σ → α → σ} (lossless : Lossless round) (start : σ)
    {xs ys : List α} (edited : Edited xs ys) : xs.foldl round start ≠ ys.foldl round start := by
  obtain ⟨p, s, a, b, apart, rfl, rfl⟩ := edited
  intro collide
  rw [List.foldl_append, List.foldl_append, List.foldl_append, List.foldl_append] at collide
  have before := lossless.foldl_injective s collide
  exact apart (lossless.letter (p.foldl round start) before)

/-! ## Exclusive or and an odd multiplier -/

/-- An odd factor can be cancelled. -/
theorem mul_right_injective_of_odd {factor : UInt64} (odd : factor.toNat % 2 = 1) :
    Function.Injective (· * factor) := by
  intro x y same
  have coprime : Nat.Coprime (2 ^ 64) factor.toNat := by
    apply Nat.Coprime.pow_left
    rw [Nat.Coprime, Nat.gcd_rec, odd, Nat.gcd_one_left]
  have congruent : x.toNat * factor.toNat ≡ y.toNat * factor.toNat [MOD 2 ^ 64] := by
    have products := congrArg UInt64.toNat same
    simpa only [UInt64.toNat_mul, Nat.ModEq] using products
  have small := Nat.ModEq.cancel_right_of_coprime coprime congruent
  rw [Nat.ModEq, Nat.mod_eq_of_lt x.toNat_lt, Nat.mod_eq_of_lt y.toNat_lt] at small
  exact UInt64.toNat_inj.mp small

/-- Flipping bits of the state loses nothing, -/
theorem xor_left_injective (mask : UInt64) : Function.Injective (· ^^^ mask) := by
  intro x y same
  have bits := congrArg UInt64.toBitVec same
  exact UInt64.toBitVec_inj.mp ((BitVec.xor_left_inj mask.toBitVec).mp bits)

/-- and neither does flipping those of the letter. -/
theorem xor_right_injective (mask : UInt64) : Function.Injective (mask ^^^ ·) := by
  intro x y same
  have bits := congrArg UInt64.toBitVec same
  exact UInt64.toBitVec_inj.mp ((BitVec.xor_right_inj mask.toBitVec).mp bits)

/-- So a round that flips and multiplies with an odd factor is lossless. -/
theorem lossless_xor_mul {factor : UInt64} (odd : factor.toNat % 2 = 1) {widen : α → UInt64}
    (distinct : Function.Injective widen) :
    Lossless fun hash letter => (hash ^^^ widen letter) * factor where
  state letter := (mul_right_injective_of_odd odd).comp (xor_left_injective (widen letter))
  letter hash :=
    (mul_right_injective_of_odd odd).comp ((xor_right_injective hash).comp distinct)

end Rounds
