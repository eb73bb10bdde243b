import Mathlib.Logic.Function.Basic
import Talia.Lib.Runs

/-!
# Caching a source that changes

Readers copy what a source resolves to into one cache: a reader takes the value, holds it for a
while, then writes it to the cache. Meanwhile the source changes and other readers do the same. A
value is stamped with the number of changes before it was taken.

Nothing orders the readers, so the cache can go back to an older value: a reader that was overtaken
by another, which took its value after a later change, writes its own over the newer one. Where no
write overtakes (`InOrder`), the cache never goes back (`cached_step`), and what is taken after the
last change is what the cache ends up with (`current_of_fresh`).
-/

namespace Freshness

variable {P σ α : Type*}

/-- A value, and how many changes of the source there had been when it was taken. -/
structure Stamped (α : Type*) where
  stamp : Nat
  value : α

structure State (P σ α : Type*) where
  changes : Nat
  source : σ
  held : P → Option (Stamped α)
  cached : Option (Stamped α)

inductive Event (P σ : Type*) where
  | change (source : σ)
  | take (p : P)
  | drop (p : P)
  | write (p : P)

variable [DecidableEq P] (resolve : σ → Option α)

def step (s : State P σ α) : Event P σ → State P σ α
  | .change source => { s with changes := s.changes + 1, source := source }
  | .take p =>
    match s.held p, resolve s.source with
    | none, some a => { s with held := Function.update s.held p (some ⟨s.changes, a⟩) }
    | _, _ => s
  | .drop p => { s with held := Function.update s.held p none }
  | .write p =>
    match s.held p with
    | some x => { s with held := Function.update s.held p none, cached := some x }
    | none => s

section Step

variable {resolve} {s : State P σ α} {p : P}

/-- A free party resolves the source, and notes when. -/
theorem step_take (free : s.held p = none) {a : α} (resolved : resolve s.source = some a) :
    step resolve s (.take p) =
      { s with held := Function.update s.held p (some ⟨s.changes, a⟩) } := by
  rw [step, free, resolved]

/-- What a party holds is written with its time. -/
theorem step_write {x : Stamped α} (held : s.held p = some x) :
    step resolve s (.write p) =
      { s with held := Function.update s.held p none, cached := some x } := by
  rw [step, held]

end Step

/-- The value was taken from the source, from the present one if there was no change since. -/
structure Taken (changes : Nat) (source : σ) (x : Stamped α) : Prop where
  past : x.stamp ≤ changes
  current : x.stamp = changes → resolve source = some x.value

/-- What is held and cached was taken from the source, what is held not before what is cached. -/
structure Ordered (s : State P σ α) : Prop where
  held : ∀ p x, s.held p = some x → Taken resolve s.changes s.source x
  cached : ∀ x, s.cached = some x → Taken resolve s.changes s.source x
  after : ∀ p x y, s.held p = some x → s.cached = some y → y.stamp ≤ x.stamp

/-- A step is not a write while somebody holds a value taken before the one written. -/
def InOrder (s : State P σ α) (e : Event P σ) : Prop :=
  ∀ p x, e = .write p → s.held p = some x → ∀ q z, s.held q = some z → x.stamp ≤ z.stamp

variable {resolve}

/-- What a party holds it held before, or it is the one that moved. -/
theorem held_update {s : State P σ α} {p q : P} {x : Option (Stamped α)} {z : Stamped α}
    (h : Function.update s.held p x q = some z) :
    q = p ∧ x = some z ∨ q ≠ p ∧ s.held q = some z := by
  by_cases same : q = p
  · subst same
    rw [Function.update_self] at h
    exact .inl ⟨rfl, h⟩
  · rw [Function.update_of_ne same] at h
    exact .inr ⟨same, h⟩

omit [DecidableEq P] in
/-- What was taken stays so when the source changes. -/
theorem Taken.change {changes : Nat} {source : σ} {x : Stamped α}
    (taken : Taken resolve changes source x) (source' : σ) :
    Taken resolve (changes + 1) source' x where
  past := Nat.le_succ_of_le taken.past
  current := fun h => absurd (h ▸ taken.past) (Nat.not_succ_le_self _)

/-- **Each step keeps the order**, unless it is a write that overtakes. -/
theorem ordered_step (s : State P σ α) (e : Event P σ) (inv : Ordered resolve s)
    (inOrder : InOrder s e) : Ordered resolve (step resolve s e) := by
  cases e with
  | change source =>
    exact ⟨fun p x h => (inv.held p x h).change source, fun x h => (inv.cached x h).change source,
      inv.after⟩
  | take p =>
    rw [step]
    split
    next a free resolved =>
      refine ⟨fun q x h => ?_, inv.cached, fun q x y h hy => ?_⟩
      · rcases held_update h with ⟨-, h⟩ | ⟨-, h⟩
        · cases h
          exact ⟨Nat.le_refl _, fun _ => resolved⟩
        · exact inv.held q x h
      · rcases held_update h with ⟨-, h⟩ | ⟨-, h⟩
        · cases h
          exact (inv.cached y hy).past
        · exact inv.after q x y h hy
    next => exact inv
  | drop p =>
    refine ⟨fun q x h => ?_, inv.cached, fun q x y h hy => ?_⟩
    · rcases held_update h with ⟨-, h⟩ | ⟨-, h⟩
      · cases h
      · exact inv.held q x h
    · rcases held_update h with ⟨-, h⟩ | ⟨-, h⟩
      · cases h
      · exact inv.after q x y h hy
  | write p =>
    rw [step]
    split
    next x found =>
      refine ⟨fun q y h => ?_, fun y h => ?_, fun q y z h hz => ?_⟩
      · rcases held_update h with ⟨-, h⟩ | ⟨-, h⟩
        · cases h
        · exact inv.held q y h
      · cases h
        exact inv.held p x found
      · cases hz
        rcases held_update h with ⟨-, h⟩ | ⟨-, h⟩
        · cases h
        · exact inOrder p x rfl found q y h
    next => exact inv

/-- **The cache never goes back.** -/
theorem cached_step (s : State P σ α) (e : Event P σ) (inv : Ordered resolve s) {x : Stamped α}
    (cached : s.cached = some x) :
    ∃ y, (step resolve s e).cached = some y ∧ x.stamp ≤ y.stamp := by
  cases e with
  | change source => exact ⟨x, cached, Nat.le_refl _⟩
  | take p =>
    rw [step]
    split
    · exact ⟨x, cached, Nat.le_refl _⟩
    · exact ⟨x, cached, Nat.le_refl _⟩
  | drop p => exact ⟨x, cached, Nat.le_refl _⟩
  | write p =>
    rw [step]
    split
    next y found => exact ⟨y, rfl, inv.after p y x found cached⟩
    next => exact ⟨x, cached, Nat.le_refl _⟩

/-- The reader holds a value of the present source, or the cache does. -/
def Fresh (p : P) (s : State P σ α) : Prop :=
  (∃ x, s.held p = some x ∧ x.stamp = s.changes) ∨ ∃ x, s.cached = some x ∧ x.stamp = s.changes

/-- What is fresh stays so while the source does not change and the reader does not drop it. -/
theorem fresh_step {p : P} (s : State P σ α) (e : Event P σ) (inv : Ordered resolve s)
    (fresh : Fresh p s) (noChange : ∀ source, e ≠ .change source)
    (noDrop : ∀ x, s.held p = some x → x.stamp = s.changes → e ≠ .drop p) :
    Fresh p (step resolve s e) := by
  cases e with
  | change source => exact absurd rfl (noChange source)
  | take q =>
    rw [step]
    split
    next a free resolved =>
      rcases fresh with ⟨x, held, now⟩ | cached
      · have other : p ≠ q := by
          rintro rfl
          rw [free] at held
          cases held
        exact .inl ⟨x, (Function.update_of_ne other ..).trans held, now⟩
      · exact .inr cached
    next => exact fresh
  | drop q =>
    rcases fresh with ⟨x, held, now⟩ | cached
    · have other : p ≠ q := by
        rintro rfl
        exact noDrop x held now rfl
      exact .inl ⟨x, (Function.update_of_ne other ..).trans held, now⟩
    · exact .inr cached
  | write q =>
    rw [step]
    split
    next y found =>
      rcases fresh with ⟨x, held, now⟩ | ⟨x, cached, now⟩
      · by_cases same : p = q
        · subst same
          rw [held] at found
          cases found
          exact .inr ⟨_, rfl, now⟩
        · exact .inl ⟨x, (Function.update_of_ne same ..).trans held, now⟩
      · -- What was held was taken no earlier than what is cached, so it is as fresh.
        refine .inr ⟨y, rfl, Nat.le_antisymm (inv.held q y found).past ?_⟩
        rw [← now]
        exact inv.after q y x found cached
    next => exact fresh

omit [DecidableEq P] in
/-- Once the reader is done, the cache holds what the source resolves to. -/
theorem current_of_fresh {p : P} {s : State P σ α} (inv : Ordered resolve s) (fresh : Fresh p s)
    (done : s.held p = none) : ∃ x, s.cached = some x ∧ resolve s.source = some x.value := by
  rcases fresh with ⟨x, held, -⟩ | ⟨x, cached, now⟩
  · rw [done] at held
    cases held
  · exact ⟨x, cached, (inv.cached x cached).current now⟩

end Freshness
