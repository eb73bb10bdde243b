import Mathlib.Logic.Function.Basic
import Talia.Lib.Runs

/-!
# Publishing a value in two cells

Processes publish values. Each obtains a value, writes what the first cell keeps of it (`enc`),
then what the second cell keeps (`view`); these are three steps, and the steps of several
processes interleave. Nothing orders the processes, so in general the cells end up with what
whoever wrote them last had obtained, which need not be the same process, nor the one that
obtained last.

Two conditions restore the order:

- where no process starts writing while another is between its writes, the cells agree whenever
  nobody is between writes (`agree_of_alone`);
- where a process obtains its value while nobody else is at work, and nobody obtains one later,
  both cells end up with that value (`latest_of_alone`).
-/

namespace Publication

open Transition

variable {P α β γ : Type*}

/-- Where a process stands: nothing to publish, a value to write, the second write to do. -/
inductive Phase (α β : Type*) where
  | idle
  | holding (a : α)
  | entered (b : β)

/-- The cells and the processes. The second cell is empty until somebody has published. -/
structure State (P α β γ : Type*) where
  phase : P → Phase α β
  first : γ
  second : Option β

inductive Event (P α : Type*) where
  | obtain (p : P) (a : α)
  | first (p : P)
  | second (p : P)

variable [DecidableEq P] (enc : α → γ) (view : α → β)

def step (s : State P α β γ) : Event P α → State P α β γ
  | .obtain p a =>
    match s.phase p with
    | .idle => { s with phase := Function.update s.phase p (.holding a) }
    | _ => s
  | .first p =>
    match s.phase p with
    | .holding a =>
      { s with phase := Function.update s.phase p (.entered (view a)), first := enc a }
    | _ => s
  | .second p =>
    match s.phase p with
    | .entered b => { s with phase := Function.update s.phase p .idle, second := some b }
    | _ => s

section Step

variable {enc view} {s : State P α β γ} {p : P} {a : α} {b : β}

/-- An idle party takes a value. -/
theorem step_obtain (idle : s.phase p = .idle) :
    step enc view s (.obtain p a) =
      { s with phase := Function.update s.phase p (.holding a) } := by
  rw [step, idle]

/-- A busy one does not. -/
theorem step_obtain_busy (busy : s.phase p ≠ .idle) : step enc view s (.obtain p a) = s := by
  rw [step]
  split
  next idle => exact absurd idle busy
  next => rfl

/-- A party that holds a value publishes it to the first place. -/
theorem step_first (holding : s.phase p = .holding a) :
    step enc view s (.first p) =
      { s with phase := Function.update s.phase p (.entered (view a)), first := enc a } := by
  rw [step, holding]

/-- Another one has nothing to publish. -/
theorem step_first_other (other : ∀ a, s.phase p ≠ .holding a) :
    step enc view s (.first p) = s := by
  rw [step]
  split
  next holding => exact absurd holding (other _)
  next => rfl

/-- Then it publishes the value's view to the second place. -/
theorem step_second (entered : s.phase p = .entered b) :
    step enc view s (.second p) =
      { s with phase := Function.update s.phase p .idle, second := some b } := by
  rw [step, entered]

end Step

/-- What an event publishes: writes to the second cell. -/
def published (s : State P α β γ) : Event P α → Option β
  | .second p =>
    match s.phase p with
    | .entered b => some b
    | _ => none
  | _ => none

/-- The second cell is not empty once something was published. -/
theorem second_run (s : State P α β γ) {es : List (Event P α)}
    (some_published : outputs (step enc view) published s es ≠ []) :
    (run (step enc view) s es).second ≠ none := by
  have written : ∀ (s : State P α β γ) (e : Event P α), True →
      (step enc view s e).second = ((published s e).map some).getD s.second := by
    intro s e _
    cases e with
    | obtain p a => rw [step]; split <;> rfl
    | first p => rw [step]; split <;> rfl
    | second p => rw [step, published]; split <;> rfl
  rw [run_latest State.second written (stepsMeet_true _ s es), List.getLast?_eq_some_getLast some_published]
  rintro ⟨⟩

/-- Nobody is between its two writes. -/
def Settled (s : State P α β γ) : Prop := ∀ p b, s.phase p ≠ .entered b

/-! ## Writing one at a time -/

/-- A process starts writing only when nobody is between writes. -/
def StartsAlone (s : State P α β γ) (e : Event P α) : Prop := ∀ p, e = .first p → Settled s

/-- The cells hold the same value. -/
def Agree (s : State P α β γ) : Prop := ∃ a, s.first = enc a ∧ s.second = some (view a)

/-- Either one process is between its writes, of the value the first cell holds, or nobody is and
the cells agree, unless nothing was published yet. -/
inductive OneWriter (s : State P α β γ) : Prop where
  | writing (p : P) (a : α) (entered : s.phase p = .entered (view a)) (first : s.first = enc a)
      (alone : ∀ q b, s.phase q = .entered b → q = p)
  | settled (settled : Settled s) (agree : s.second = none ∨ Agree enc view s)

variable {enc view}

/-- A party that has entered did so before, or is the one that moved. -/
theorem update_entered {s : State P α β γ} {p q : P} {x : Phase α β} {b : β}
    (h : Function.update s.phase p x q = .entered b) :
    q = p ∧ x = .entered b ∨ q ≠ p ∧ s.phase q = .entered b := by
  by_cases same : q = p
  · subst same
    rw [Function.update_self] at h
    exact .inl ⟨rfl, h⟩
  · rw [Function.update_of_ne same] at h
    exact .inr ⟨same, h⟩

/-- A process that comes to hold a value, or to be idle, is not one between writes. -/
theorem settled_update {s : State P α β γ} (settled : Settled s) {p : P} {x : Phase α β}
    (hx : ∀ b, x ≠ .entered b) : ∀ q b, Function.update s.phase p x q ≠ .entered b := by
  intro q b h
  rcases update_entered h with ⟨-, h⟩ | ⟨-, h⟩
  · exact hx b h
  · exact settled q b h

/-- As long as one party starts at a time, there is one writer. -/
theorem oneWriter_step (s : State P α β γ) (e : Event P α) (inv : OneWriter enc view s)
    (alone : StartsAlone s e) : OneWriter enc view (step enc view s e) := by
  cases e with
  | obtain p a =>
    rw [step]
    split
    next idle =>
      have other : ∀ q b, s.phase q = .entered b → q ≠ p := by
        rintro q b h rfl
        rw [idle] at h
        cases h
      cases inv with
      | writing q a' entered first unique =>
        refine .writing q a' ?_ first fun r b h => ?_
        · exact (Function.update_of_ne (other q _ entered) ..).trans entered
        · rcases update_entered h with ⟨-, h⟩ | ⟨-, h⟩
          · cases h
          · exact unique r b h
      | settled settled agree => exact .settled (settled_update settled (by rintro b ⟨⟩)) agree
    next => exact inv
  | first p =>
    rw [step]
    split
    next a holding =>
      refine .writing p a (Function.update_self ..) rfl fun q b h => ?_
      rcases update_entered h with ⟨same, -⟩ | ⟨-, h⟩
      · exact same
      · exact absurd h (alone p rfl q b)
    next => exact inv
  | second p =>
    rw [step]
    split
    next b entered =>
      cases inv with
      | writing q a entered' first unique =>
        cases unique p b entered
        rw [entered] at entered'
        cases entered'
        refine .settled (fun r b h => ?_) (.inr ⟨a, first, rfl⟩)
        rcases update_entered h with ⟨-, h⟩ | ⟨other, h⟩
        · cases h
        · exact other (unique r b h)
      | settled settled agree => exact absurd entered (settled p b)
    next => exact inv

/-- **Where writes do not overlap, the cells agree** whenever nobody is between its writes, once
something was published. -/
theorem agree_of_alone {s : State P α β γ} (settled : Settled s) (empty : s.second = none)
    {es : List (Event P α)} (alone : StepsMeet (step enc view) StartsAlone s es)
    (done : Settled (run (step enc view) s es))
    (published : (run (step enc view) s es).second ≠ none) :
    Agree enc view (run (step enc view) s es) := by
  have inv : OneWriter enc view (run (step enc view) s es) :=
    run_invariant_of_steps oneWriter_step (.settled settled (.inl empty)) alone
  cases inv with
  | writing p a entered => exact absurd entered (done p _)
  | settled _ agree => exact agree.resolve_left published

/-! ## The last to obtain a value -/

/-- Everybody else is idle, and the process is on its way to publish the value, or done. -/
inductive Publishing (enc : α → γ) (view : α → β) (p : P) (a : α) (s : State P α β γ) : Prop where
  | holding (phase : s.phase p = .holding a) (alone : ∀ q, q ≠ p → s.phase q = .idle)
  | entered (phase : s.phase p = .entered (view a)) (alone : ∀ q, q ≠ p → s.phase q = .idle)
      (first : s.first = enc a)
  | done (idle : ∀ q, s.phase q = .idle) (first : s.first = enc a)
      (second : s.second = some (view a))

/-- While one party moves the others stay idle. -/
theorem update_alone {s : State P α β γ} {p : P} (alone : ∀ q, q ≠ p → s.phase q = .idle)
    (x : Phase α β) : ∀ q, q ≠ p → Function.update s.phase p x q = .idle := by
  intro q other
  rw [Function.update_of_ne other]
  exact alone q other

/-- A party that publishes alone goes on doing so. -/
theorem publishing_step {p : P} {a : α} (s : State P α β γ) (e : Event P α)
    (inv : Publishing enc view p a s) (noObtain : ∀ q b, e ≠ .obtain q b) :
    Publishing enc view p a (step enc view s e) := by
  cases e with
  | obtain q b => exact absurd rfl (noObtain q b)
  | first q =>
    rw [step]
    split
    next b found =>
      cases inv with
      | holding phase alone =>
        by_cases same : q = p
        · subst same
          rw [phase] at found
          cases found
          exact .entered (Function.update_self ..) (update_alone alone _) rfl
        · rw [alone q same] at found
          cases found
      | entered phase alone first =>
        by_cases same : q = p
        · subst same
          rw [phase] at found
          cases found
        · rw [alone q same] at found
          cases found
      | done idle =>
        rw [idle q] at found
        cases found
    next => exact inv
  | second q =>
    rw [step]
    split
    next b found =>
      cases inv with
      | holding phase alone =>
        by_cases same : q = p
        · subst same
          rw [phase] at found
          cases found
        · rw [alone q same] at found
          cases found
      | entered phase alone first =>
        by_cases same : q = p
        · subst same
          rw [phase] at found
          cases found
          refine .done (fun r => ?_) first rfl
          by_cases same : r = q
          · subst same
            exact Function.update_self ..
          · exact update_alone alone _ r same
        · rw [alone q same] at found
          cases found
      | done idle =>
        rw [idle q] at found
        cases found
    next => exact inv

/-- **The last to obtain a value publishes it**, where nobody else is at work when it does: once
everybody is idle again, both cells hold the value. -/
theorem latest_of_alone {s : State P α β γ} {p : P} {a : α} (holding : s.phase p = .holding a)
    (alone : ∀ q, q ≠ p → s.phase q = .idle) {es : List (Event P α)}
    (last : ∀ q b, .obtain q b ∉ es)
    (done : ∀ q, (run (step enc view) s es).phase q = .idle) :
    (run (step enc view) s es).first = enc a ∧
      (run (step enc view) s es).second = some (view a) := by
  have meets : StepsMeet (step enc view) (fun _ e => ∀ q b, e ≠ .obtain q b) s es := by
    rintro pre e post rfl q b rfl
    exact last q b (List.mem_append_right _ List.mem_cons_self)
  have inv : Publishing enc view p a (run (step enc view) s es) :=
    run_invariant_of_steps publishing_step (.holding holding alone) meets
  cases inv with
  | holding phase => rw [done p] at phase; cases phase
  | entered phase => rw [done p] at phase; cases phase
  | done _ first second => exact ⟨first, second⟩

end Publication
