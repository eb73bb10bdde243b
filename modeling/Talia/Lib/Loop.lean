import Mathlib.Order.Basic

/-!
# Loops that end

A loop takes turns: after each it goes on with another state, ends with a result, or faults. A loop
that keeps an invariant and lowers a rank with every turn that goes on (`Rule`) reaches only states
with the invariant (`Rule.of_reaches`), never faults, and ends with a result of which what the last
turn established is true (`Rule.ends`).
-/

namespace Loop

variable {σ ρ : Type}

/-- What a turn of a loop comes to. -/
inductive Turn (σ ρ : Type) where
  | next (state : σ)
  | done (result : ρ)
  | fault

/-- The states that a loop comes through. -/
inductive Reaches (turn : σ → Turn σ ρ) (start : σ) : σ → Prop
  | start : Reaches turn start start
  | turn {s s' : σ} (reached : Reaches turn start s) (next : turn s = .next s') :
    Reaches turn start s'

/-- The result of a loop, if it ends within so many turns. -/
def run (turn : σ → Turn σ ρ) : ℕ → σ → Option ρ
  | 0, _ => none
  | turns + 1, s =>
    match turn s with
    | .next s' => run turn turns s'
    | .done result => some result
    | .fault => none

/-- The state may go on, the result may end the loop. -/
def Turn.Keeps (inv : σ → Prop) (post : ρ → Prop) : Turn σ ρ → Prop
  | .next s => inv s
  | .done result => post result
  | .fault => False

section Keeps

variable {inv : σ → Prop} {post : ρ → Prop}

@[simp] theorem Turn.keeps_next {s : σ} : (Turn.next s).Keeps inv post ↔ inv s := Iff.rfl

@[simp] theorem Turn.keeps_done {result : ρ} :
    (Turn.done result : Turn σ ρ).Keeps inv post ↔ post result := Iff.rfl

@[simp] theorem Turn.not_keeps_fault : ¬ (Turn.fault : Turn σ ρ).Keeps inv post := id

end Keeps

section Partial

variable {turn : σ → Turn σ ρ} {inv : σ → Prop} {post : ρ → Prop}
  (kept : ∀ s, inv s → (turn s).Keeps inv post)

include kept

/-- **An invariant without a rank** holds in every state that the loop comes through, whether it ends
or not. -/
theorem Reaches.keeps {start s : σ} (reached : Reaches turn start s) (holds : inv start) :
    inv s := by
  induction reached with
  | start => exact holds
  | @turn s s' _ next ih =>
    have goes := kept s ih
    rw [next, Turn.keeps_next] at goes
    exact goes

/-- What the last turn establishes is true of the result of a loop that ends. -/
theorem keeps_of_run {turns : ℕ} {s : σ} {result : ρ} (holds : inv s)
    (ended : run turn turns s = some result) : post result := by
  induction turns generalizing s with
  | zero => cases ended
  | succ turns ih =>
    have goes := kept s holds
    rw [run] at ended
    cases came : turn s with
    | next s' =>
      rw [came] at ended goes
      exact ih goes ended
    | done result' =>
      rw [came] at ended goes
      cases ended
      exact goes
    | fault =>
      rw [came] at ended
      cases ended

end Partial

/-- An invariant of a loop, and a rank that each turn lowers. -/
structure Rule (turn : σ → Turn σ ρ) (inv : σ → Prop) (rank : σ → ℕ) (post : ρ → Prop) : Prop where
  keeps : ∀ s, inv s → (turn s).Keeps (fun s' => inv s' ∧ rank s' < rank s) post

namespace Rule

variable {turn : σ → Turn σ ρ} {inv : σ → Prop} {rank : σ → ℕ} {post : ρ → Prop}
  (rule : Rule turn inv rank post)

include rule

/-- **The invariant** holds in every state that the loop comes through. -/
theorem of_reaches {start s : σ} (holds : inv start) (reached : Reaches turn start s) : inv s := by
  induction reached with
  | start => exact holds
  | @turn s s' _ next ih =>
    have kept := rule.keeps s ih
    rw [next, Turn.keeps_next] at kept
    exact kept.1

/-- No turn of a loop whose invariant holds faults. -/
theorem not_fault {start s : σ} (holds : inv start) (reached : Reaches turn start s) :
    turn s ≠ .fault := by
  intro fault
  have kept := rule.keeps s (rule.of_reaches holds reached)
  rw [fault] at kept
  exact Turn.not_keeps_fault kept

/-- **The loop ends**, within as many turns as the rank is high, and with the same result whatever
number of turns more it is given. -/
theorem ends {s : σ} (holds : inv s) :
    ∃ result, post result ∧ ∀ turns, rank s < turns → run turn turns s = some result := by
  induction high : rank s using Nat.strongRecOn generalizing s with
  | ind n ih =>
    have kept := rule.keeps s holds
    cases came : turn s with
    | next s' =>
      rw [came, Turn.keeps_next] at kept
      obtain ⟨result, holds', ends⟩ := ih (rank s') (high ▸ kept.2) kept.1 rfl
      refine ⟨result, holds', fun turns enough => ?_⟩
      cases turns with
      | zero => omega
      | succ turns =>
        have lower := kept.2
        simp only [run, came]
        exact ends turns (by omega)
    | done result =>
      rw [came, Turn.keeps_done] at kept
      refine ⟨result, kept, fun turns enough => ?_⟩
      cases turns with
      | zero => omega
      | succ turns => simp only [run, came]
    | fault =>
      rw [came] at kept
      exact (Turn.not_keeps_fault kept).elim

end Rule

end Loop
