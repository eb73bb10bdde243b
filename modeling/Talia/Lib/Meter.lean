import Mathlib.Algebra.GroupWithZero.Nat
import Talia.Lib.Runs

/-!
# Meters

A source counts up, and is read from time to time. A meter keeps the last reading as its
*baseline*; a reading that follows the baseline is *measured* against it, and becomes the baseline
in any case. A reading need not follow the one before it, when the source was restarted in between.
A source that is gone loses its baseline, one that is silent keeps it.

What a meter knows is the last reading since the source was gone (`baseline_eq_some_iff`), and what
it measured adds up (`telescope`): over a stretch in which the source is not gone and every reading
follows the one before it, the differences sum to the last reading less the first, whatever was
silent in between.
-/

namespace Meter

open Transition

variable {α : Type*}

/-- What an observation finds of a source. -/
inductive Observation (α : Type*) where
  | gone
  | silent
  | read (reading : α)
  deriving DecidableEq

/-- The baseline after an observation. -/
def observe (baseline : Option α) : Observation α → Option α
  | .gone => none
  | .silent => baseline
  | .read reading => some reading

/-! ## What a meter knows -/

/-- The last thing read of the source is this reading: since then it was silent. -/
def LastRead (os : List (Observation α)) (reading : α) : Prop :=
  ∃ before after, os = before ++ .read reading :: after ∧ ∀ o ∈ after, o = .silent

/-- One more observation: it is the last reading, or it is silent and the last reading stays. -/
theorem lastRead_concat_iff {os : List (Observation α)} {o : Observation α} {reading : α} :
    LastRead (os ++ [o]) reading ↔ o = .read reading ∨ o = .silent ∧ LastRead os reading := by
  constructor
  · intro h
    obtain ⟨before, after, split, silent⟩ := h
    cases after using List.reverseRecOn with
    | nil =>
      obtain ⟨-, last⟩ := List.append_inj' split rfl
      exact .inl (List.singleton_inj.mp last)
    | append_singleton after o' =>
      rw [← List.cons_append, ← List.append_assoc] at split
      obtain ⟨front, last⟩ := List.append_inj' split rfl
      rw [List.singleton_inj.mp last]
      refine .inr ⟨silent o' (List.mem_append_right _ List.mem_cons_self), before, after, front, ?_⟩
      intro o mem
      exact silent o (List.mem_append_left _ mem)
  · intro h
    rcases h with rfl | ⟨rfl, before, after, rfl, silent⟩
    · exact ⟨os, [], rfl, fun o mem => nomatch mem⟩
    · refine ⟨before, after ++ [.silent], by simp, ?_⟩
      intro o mem
      rcases List.mem_append.mp mem with mem | mem
      · exact silent o mem
      · exact List.mem_singleton.mp mem

/-- **The baseline is the last reading since the source was gone.** -/
theorem baseline_eq_some_iff {os : List (Observation α)} {reading : α} :
    run observe none os = some reading ↔ LastRead os reading := by
  induction os using List.reverseRecOn with
  | nil =>
    constructor
    · intro h
      cases h
    · intro h
      obtain ⟨before, after, split, -⟩ := h
      cases before <;> cases split
  | append_singleton os o ih =>
    rw [run_append, run_cons, run_nil, lastRead_concat_iff]
    cases o with
    | gone => simp [observe]
    | silent => simpa [observe] using ih
    | read reading' => simp [observe]

/-! ## Stretches -/

/-- The source is there, and what is read of it follows the baseline. -/
def Steady (follows : α → α → Prop) (baseline : Option α) : Observation α → Prop
  | .gone => False
  | .silent => True
  | .read reading => ∀ first, baseline = some first → follows first reading

/-- Over a steady stretch the baseline is not lost. -/
theorem exists_baseline {follows : α → α → Prop} {first : α} {os : List (Observation α)}
    (steady : StepsMeet observe (Steady follows) (some first) os) :
    ∃ last, run observe (some first) os = some last := by
  induction os generalizing first with
  | nil => exact ⟨first, rfl⟩
  | cons o os ih =>
    obtain ⟨head, tail⟩ := stepsMeet_cons.mp steady
    cases o with
    | gone => cases head
    | silent => exact ih tail
    | read reading => exact ih tail

/-- A silent source keeps its baseline. -/
theorem run_silent {os : List (Observation α)} (silent : ∀ o ∈ os, o = .silent)
    (baseline : Option α) : run observe baseline os = baseline := by
  induction os with
  | nil => rfl
  | cons o os ih =>
    rw [run_cons, silent o List.mem_cons_self]
    exact ih fun o mem => silent o (List.mem_cons_of_mem _ mem)

/-! ## What a meter measures -/

section Measured

variable (follows : α → α → Prop) [DecidableRel follows]

/-- The two readings an observation measures: the baseline and a reading that follows it. -/
def measured (baseline : Option α) : Observation α → Option (α × α)
  | .read reading => (baseline.filter (follows · reading)).map fun first => (first, reading)
  | _ => none

@[simp] theorem measured_none (o : Observation α) : measured follows none o = none := by
  cases o <;> rfl

@[simp] theorem measured_some_read (first reading : α) :
    measured follows (some first) (.read reading) =
      if follows first reading then some (first, reading) else none := by
  rw [measured, Option.filter_some]
  by_cases follow : follows first reading
  · rw [if_pos (decide_eq_true follow), if_pos follow, Option.map_some]
  · rw [if_neg (by simpa using follow), if_neg follow, Option.map_none]

/-- A reading is measured against a baseline that it follows. -/
theorem measured_read_eq_some_iff {baseline : Option α} {reading : α} {pair : α × α} :
    measured follows baseline (.read reading) = some pair ↔
      baseline = some pair.1 ∧ follows pair.1 reading ∧ pair.2 = reading := by
  obtain ⟨first, last⟩ := pair
  rw [measured, Option.map_eq_some_iff]
  constructor
  · intro h
    obtain ⟨a, kept, same⟩ := h
    cases same
    obtain ⟨found, follow⟩ := Option.filter_eq_some_iff.mp kept
    exact ⟨found, of_decide_eq_true follow, rfl⟩
  · intro h
    obtain ⟨found, follow, same⟩ := h
    cases same
    exact ⟨first, Option.filter_eq_some_iff.mpr ⟨found, decide_eq_true follow⟩, rfl⟩

variable {follows}

/-- A silent source is not measured. -/
theorem outputs_silent {os : List (Observation α)} (silent : ∀ o ∈ os, o = .silent)
    (baseline : Option α) : outputs observe (measured follows) baseline os = [] := by
  induction os with
  | nil => rfl
  | cons o os ih =>
    rw [outputs, silent o List.mem_cons_self]
    exact ih fun o mem => silent o (List.mem_cons_of_mem _ mem)

/-- **What is measured adds up**: over a steady stretch the differences sum to the last reading
less the first. -/
theorem telescope {value : α → ℕ} (grows : ∀ a b, follows a b → value a ≤ value b)
    {first last : α} {os : List (Observation α)}
    (steady : StepsMeet observe (Steady follows) (some first) os)
    (ends : run observe (some first) os = some last) :
    ((outputs observe (measured follows) (some first) os).map
      fun pair => value pair.2 - value pair.1).sum + value first = value last := by
  induction os generalizing first with
  | nil =>
    cases ends
    exact Nat.zero_add _
  | cons o os ih =>
    obtain ⟨head, tail⟩ := stepsMeet_cons.mp steady
    cases o with
    | gone => cases head
    | silent => exact ih tail ends
    | read reading =>
      have follow : follows first reading := head first rfl
      have step := grows first reading follow
      have rest := ih tail ends
      rw [outputs, measured_some_read, if_pos follow, Option.toList_some, List.singleton_append,
        List.map_cons, List.sum_cons]
      dsimp only [observe] at rest ⊢
      omega

end Measured

end Meter
