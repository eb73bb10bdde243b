import Mathlib.Data.List.Forall2
import Mathlib.Data.List.Induction
import Mathlib.Data.List.Infix

/-!
# Runs of a deterministic machine

A machine is a total step function `step : σ → ε → σ`. An event that is not enabled in a state
leaves the state as it is, so a run is any list of events and a theorem about all runs is a
theorem about all interleavings of the parties that produce the events.

Nine rules carry the developments above this module:

- the **invariant rule** (`run_invariant`, and `run_invariant_of_steps` for runs whose steps all
  meet a condition);
- the **origin rule** (`exists_established`): what was not so at first and is so at the end was
  made so by some step and stayed so;
- the **register rule** (`run_latest`): a cell holds what was written to it last;
- the **log rule** (`run_log`): a log holds what was added to it, in order;
- the **history rule** (`run_history`): an invariant may speak of all that a run has shown;
- the **projection rule** (`run_project`): when what a step does to one part of the state depends on
  that part alone, so does what a run does to it;
- the **refinement rule** (`run_refines`): a machine that simulates another one step by step
  simulates it over every run;
- the **unwinding rule** (`run_purge`, `outputs_purge`): when the kept events act alike on related
  states and a dropped event cannot be seen, a run and its purge end in related states and show
  the same outputs;
- the **lockstep rule** (`outputs_lockstep`): related events show the same from related states.
-/

namespace Transition

variable {σ τ ε δ ω : Type*}

/-- The state a run ends in, its events oldest first. -/
def run (step : σ → ε → σ) (s : σ) (es : List ε) : σ := es.foldl step s

section Basic

variable (step : σ → ε → σ) (s : σ)

@[simp] theorem run_nil : run step s [] = s := rfl

@[simp] theorem run_cons (e : ε) (es : List ε) :
    run step s (e :: es) = run step (step s e) es := rfl

@[simp] theorem run_append (es fs : List ε) :
    run step s (es ++ fs) = run step (run step s es) fs :=
  List.foldl_append

end Basic

/-! ## Invariants -/

/-- **The invariant rule**: what every step preserves, every run preserves. -/
theorem run_invariant {step : σ → ε → σ} {Inv : σ → Prop}
    (preserved : ∀ s e, Inv s → Inv (step s e)) {s : σ} (start : Inv s) (es : List ε) :
    Inv (run step s es) := by
  induction es generalizing s with
  | nil => exact start
  | cons e es ih => exact ih (preserved s e start)

/-- Every step of the run meets `C`, a condition on the state before the step and its event. -/
def StepsMeet (step : σ → ε → σ) (C : σ → ε → Prop) (s : σ) (es : List ε) : Prop :=
  ∀ pre e post, es = pre ++ e :: post → C (run step s pre) e

/-- A run without steps meets every condition. -/
theorem stepsMeet_nil (step : σ → ε → σ) (C : σ → ε → Prop) (s : σ) :
    StepsMeet step C s [] := by
  intro pre e post h
  cases pre <;> cases h

/-- A run meets a condition if its first step does and the rest does. -/
theorem stepsMeet_cons {step : σ → ε → σ} {C : σ → ε → Prop} {s : σ} {e : ε} {es : List ε} :
    StepsMeet step C s (e :: es) ↔ C s e ∧ StepsMeet step C (step s e) es := by
  constructor
  · intro h
    refine ⟨h [] e es rfl, fun pre f post heq => ?_⟩
    exact h (e :: pre) f post (by rw [heq]; rfl)
  · rintro ⟨head, tail⟩ pre f post heq
    cases pre with
    | nil =>
      cases heq
      exact head
    | cons g pre =>
      cases heq
      exact tail pre f post rfl

/-- Every run meets the condition that is always true. -/
theorem stepsMeet_true (step : σ → ε → σ) (s : σ) (es : List ε) :
    StepsMeet step (fun _ _ => True) s es := fun _ _ _ _ => trivial

/-- A run that meets two conditions meets both in each step. -/
theorem StepsMeet.and {step : σ → ε → σ} {C D : σ → ε → Prop} {s : σ} {es : List ε}
    (c : StepsMeet step C s es) (d : StepsMeet step D s es) :
    StepsMeet step (fun s e => C s e ∧ D s e) s es :=
  fun pre e post h => ⟨c pre e post h, d pre e post h⟩

/-- A condition met along a run is met along each of its prefixes. -/
theorem StepsMeet.left {step : σ → ε → σ} {C : σ → ε → Prop} {s : σ} {es fs : List ε}
    (h : StepsMeet step C s (es ++ fs)) : StepsMeet step C s es := by
  intro pre e post heq
  exact h pre e (post ++ fs) (by rw [heq, List.append_assoc]; rfl)

/-- And along the rest of it. -/
theorem StepsMeet.right {step : σ → ε → σ} {C : σ → ε → Prop} {s : σ} {es fs : List ε}
    (h : StepsMeet step C s (es ++ fs)) : StepsMeet step C (run step s es) fs := by
  intro pre e post heq
  rw [← run_append]
  exact h (es ++ pre) e post (by rw [heq, List.append_assoc])

/-- Runs that meet a condition one after the other meet it together. -/
theorem StepsMeet.append {step : σ → ε → σ} {C : σ → ε → Prop} {s : σ} {es fs : List ε}
    (first : StepsMeet step C s es) (second : StepsMeet step C (run step s es) fs) :
    StepsMeet step C s (es ++ fs) := by
  induction es generalizing s with
  | nil => exact second
  | cons e es ih =>
    obtain ⟨head, tail⟩ := stepsMeet_cons.mp first
    exact stepsMeet_cons.mpr ⟨head, ih tail second⟩

/-- The invariant rule for runs whose steps all meet a condition. -/
theorem run_invariant_of_steps {step : σ → ε → σ} {Inv : σ → Prop} {C : σ → ε → Prop}
    (preserved : ∀ s e, Inv s → C s e → Inv (step s e)) {s : σ} (start : Inv s) {es : List ε}
    (meets : StepsMeet step C s es) : Inv (run step s es) := by
  induction es generalizing s with
  | nil => exact start
  | cons e es ih =>
    obtain ⟨head, tail⟩ := stepsMeet_cons.mp meets
    exact ih (preserved s e start head) tail

/-- What every step preserves is so before each step of a run. -/
theorem stepsMeet_invariant {step : σ → ε → σ} {Inv : σ → Prop}
    (preserved : ∀ s e, Inv s → Inv (step s e)) {s : σ} (start : Inv s) (es : List ε) :
    StepsMeet step (fun s _ => Inv s) s es :=
  fun pre _ _ _ => run_invariant preserved start pre

/-- What only some events change, a run without them leaves as it was. -/
theorem run_frame {κ : Type*} {step : σ → ε → σ} {f : σ → κ} {C : ε → Prop}
    (frame : ∀ s e, ¬ C e → f (step s e) = f s) {s : σ} {es : List ε}
    (none : ∀ e ∈ es, ¬ C e) : f (run step s es) = f s := by
  induction es generalizing s with
  | nil => rfl
  | cons e es ih =>
    rw [run_cons, ih fun e' h => none e' (List.mem_cons_of_mem e h),
      frame s e (none e List.mem_cons_self)]

/-! ## Origins -/

/-- **The origin rule**: a property that is false at the start of a run and true at its end was
established by a step of the run, and held from then on. -/
theorem exists_established {step : σ → ε → σ} {P : σ → Prop} {s : σ} {es : List ε}
    (before : ¬ P s) (after : P (run step s es)) :
    ∃ pre e post, es = pre ++ e :: post ∧ ¬ P (run step s pre) ∧
      ∀ mid, mid <+: post → P (run step s (pre ++ e :: mid)) := by
  induction es using List.reverseRecOn with
  | nil => exact absurd after before
  | append_singleton es last ih =>
    by_cases held : P (run step s es)
    · obtain ⟨pre, e, post, rfl, start, holds⟩ := ih held
      refine ⟨pre, e, post ++ [last], by rw [List.append_assoc, List.cons_append], start, ?_⟩
      intro mid hmid
      rcases List.prefix_concat_iff.mp hmid with rfl | hmid
      · rw [List.append_assoc, List.cons_append] at after
        exact after
      · exact holds mid hmid
    · refine ⟨es, last, [], rfl, held, fun mid hmid => ?_⟩
      rw [List.prefix_nil.mp hmid]
      exact after

/-! ## Outputs -/

/-- What a run shows, oldest first, when `out` says what each step shows. -/
def outputs (step : σ → ε → σ) (out : σ → ε → Option ω) : σ → List ε → List ω
  | _, [] => []
  | s, e :: es => (out s e).toList ++ outputs step out (step s e) es

/-- A run shows what its first part shows, then what the rest does from there. -/
theorem outputs_append (step : σ → ε → σ) (out : σ → ε → Option ω) (s : σ) (es fs : List ε) :
    outputs step out s (es ++ fs) =
      outputs step out s es ++ outputs step out (run step s es) fs := by
  induction es generalizing s with
  | nil => rfl
  | cons e es ih => simp only [List.cons_append, outputs, ih, run_cons, List.append_assoc]

/-- What a run shows is shown by one of its steps. -/
theorem mem_outputs {step : σ → ε → σ} {out : σ → ε → Option ω} {s : σ} {es : List ε} {x : ω}
    (h : x ∈ outputs step out s es) :
    ∃ pre e post, es = pre ++ e :: post ∧ out (run step s pre) e = some x := by
  induction es generalizing s with
  | nil => cases h
  | cons e es ih =>
    rw [outputs, List.mem_append, Option.mem_toList] at h
    rcases h with h | h
    · exact ⟨[], e, es, rfl, h⟩
    · obtain ⟨pre, f, post, rfl, shown⟩ := ih h
      exact ⟨e :: pre, f, post, rfl, shown⟩

/-- A run that shows the events it keeps shows them in order. -/
theorem outputs_filter (step : σ → ε → σ) (keep : ε → Bool) (s : σ) (es : List ε) :
    outputs step (fun _ e => if keep e then some e else none) s es = es.filter keep := by
  induction es generalizing s with
  | nil => rfl
  | cons e es ih =>
    rw [outputs, ih, List.filter_cons]
    cases keep e <;> rfl

/-- **The register rule**: a cell that each step writes what it shows to, if it shows anything,
holds what the run showed last. -/
theorem run_latest {κ : Type*} {step : σ → ε → σ} (cell : σ → κ) {out : σ → ε → Option ω}
    {write : ω → κ} {C : σ → ε → Prop}
    (written : ∀ s e, C s e → cell (step s e) = ((out s e).map write).getD (cell s))
    {s : σ} {es : List ε} (meets : StepsMeet step C s es) :
    cell (run step s es) = ((outputs step out s es).getLast?.map write).getD (cell s) := by
  induction es using List.reverseRecOn with
  | nil => rfl
  | append_singleton es e ih =>
    rw [run_append, run_cons, run_nil, written _ e (meets es e [] rfl), outputs_append, outputs,
      outputs, List.append_nil, ih meets.left]
    cases out (run step s es) e with
    | none => rw [Option.toList_none, List.append_nil, Option.map_none, Option.getD_none]
    | some x =>
      rw [Option.toList_some, List.getLast?_concat, Option.map_some, Option.getD_some,
        Option.getD_some]

/-- **The log rule**: a list that each step adds what it shows to holds what the run showed. -/
theorem run_log {step : σ → ε → σ} (log : σ → List ω) {out : σ → ε → Option ω}
    {C : σ → ε → Prop} (added : ∀ s e, C s e → log (step s e) = log s ++ (out s e).toList)
    {s : σ} {es : List ε} (meets : StepsMeet step C s es) :
    log (run step s es) = log s ++ outputs step out s es := by
  induction es generalizing s with
  | nil => exact (List.append_nil _).symm
  | cons e es ih =>
    obtain ⟨head, tail⟩ := stepsMeet_cons.mp meets
    rw [run_cons, ih tail, added s e head, outputs, List.append_assoc]

/-- **The history rule**: what every step preserves of a state and all that was shown before, every
run preserves. -/
theorem run_history {step : σ → ε → σ} {out : σ → ε → Option ω} {P : List ω → σ → Prop}
    {C : σ → ε → Prop}
    (preserved : ∀ shown s e, P shown s → C s e →
      P (shown ++ (out s e).toList) (step s e))
    {s : σ} (start : P [] s) {es : List ε} (meets : StepsMeet step C s es) :
    P (outputs step out s es) (run step s es) := by
  induction es using List.reverseRecOn with
  | nil => exact start
  | append_singleton es e ih =>
    rw [outputs_append, outputs, outputs, List.append_nil, run_append, run_cons, run_nil]
    exact preserved _ _ e (ih meets.left) (meets es e [] rfl)

/-! ## Projection -/

section Projection

variable {step : σ → ε → σ} {astep : τ → δ → τ} {f : σ → τ} {label : ε → δ}
  (projected : ∀ s e, f (step s e) = astep (f s) (label e))

include projected

/-- **The projection rule**: a part of the state that steps by itself runs by itself. -/
theorem run_project (s : σ) (es : List ε) :
    f (run step s es) = run astep (f s) (es.map label) := by
  induction es generalizing s with
  | nil => rfl
  | cons e es ih => rw [run_cons, ih, projected, List.map_cons, run_cons]

end Projection

/-! ## Refinement -/

section Refinement

variable {step : σ → ε → σ} {astep : τ → δ → τ} {R : σ → τ → Prop} {label : σ → ε → Option δ}
  {C : σ → ε → Prop}
  (matched : ∀ s t e, R s t → C s e → R (step s e) ((label s e).elim t (astep t)))

include matched

/-- **The refinement rule**: if each step of the concrete machine is the abstract step of the
event that `label` gives it, or is not seen, each concrete run is the abstract run of its
labels. -/
theorem run_refines {s : σ} {t : τ} (start : R s t) {es : List ε} (meets : StepsMeet step C s es) :
    R (run step s es) (run astep t (outputs step label s es)) := by
  induction es generalizing s t with
  | nil => exact start
  | cons e es ih =>
    obtain ⟨head, tail⟩ := stepsMeet_cons.mp meets
    have rest := ih (matched s t e start head) tail
    rw [outputs]
    cases labelled : label s e with
    | none =>
      rw [labelled] at rest
      exact rest
    | some d =>
      rw [labelled] at rest
      exact rest

/-- A condition on abstract steps is met along the labels of a concrete run whose steps meet a
condition that implies it. -/
theorem stepsMeet_refines {D : τ → δ → Prop}
    (implied : ∀ s t e d, R s t → C s e → label s e = some d → D t d)
    {s : σ} {t : τ} (start : R s t) {es : List ε} (meets : StepsMeet step C s es) :
    StepsMeet astep D t (outputs step label s es) := by
  induction es generalizing s t with
  | nil => exact stepsMeet_nil astep D t
  | cons e es ih =>
    obtain ⟨head, tail⟩ := stepsMeet_cons.mp meets
    have rest := ih (matched s t e start head) tail
    rw [outputs]
    cases labelled : label s e with
    | none =>
      rw [labelled] at rest
      exact rest
    | some d =>
      rw [labelled] at rest
      exact stepsMeet_cons.mpr ⟨implied s t e d start head labelled, rest⟩

/-- What the concrete run shows, the abstract one shows, if each step does. -/
theorem outputs_refines {out : σ → ε → Option ω} {aout : τ → δ → Option ω}
    (shown : ∀ s t e, R s t → C s e → out s e = (label s e).bind (aout t))
    {s : σ} {t : τ} (start : R s t) {es : List ε} (meets : StepsMeet step C s es) :
    outputs step out s es = outputs astep aout t (outputs step label s es) := by
  induction es generalizing s t with
  | nil => rfl
  | cons e es ih =>
    obtain ⟨head, tail⟩ := stepsMeet_cons.mp meets
    have rest := ih (matched s t e start head) tail
    rw [outputs, outputs, rest, shown s t e start head]
    cases label s e with
    | none => rfl
    | some d => rfl

end Refinement

/-! ## Unwinding -/

/-- The run with the events that `keep` drops deleted. Whether an event is kept is read off the
state of the original run. -/
def purge (step : σ → ε → σ) (keep : σ → ε → Bool) : σ → List ε → List ε
  | _, [] => []
  | s, e :: es =>
    if keep s e then e :: purge step keep (step s e) es else purge step keep (step s e) es

section Unwinding

variable {step : σ → ε → σ} {keep : σ → ε → Bool} {R : σ → σ → Prop} {C : σ → ε → Prop}
  {out : σ → ε → Option ω}
  (kept : ∀ s s' e, R s s' → C s e → keep s e = true → R (step s e) (step s' e))
  (dropped : ∀ s s' e, R s s' → C s e → keep s e = false → R (step s e) s')

include kept dropped

/-- **The unwinding rule for states**: a run and its purge end in related states. -/
theorem run_purge {s s' : σ} (h : R s s') {es : List ε} (meets : StepsMeet step C s es) :
    R (run step s es) (run step s' (purge step keep s es)) := by
  induction es generalizing s s' with
  | nil => exact h
  | cons e es ih =>
    obtain ⟨head, tail⟩ := stepsMeet_cons.mp meets
    cases hk : keep s e with
    | true =>
      rw [purge, if_pos hk]
      exact ih (kept s s' e h head hk) tail
    | false =>
      rw [purge, if_neg (by rw [hk]; exact Bool.false_ne_true)]
      exact ih (dropped s s' e h head hk) tail

/-- **The unwinding rule for outputs**: the purge shows what the kept events of the original run
show. -/
theorem outputs_purge (same : ∀ s s' e, R s s' → C s e → keep s e = true → out s e = out s' e)
    {s s' : σ} (h : R s s') {es : List ε} (meets : StepsMeet step C s es) :
    outputs step out s' (purge step keep s es) =
      outputs step (fun s e => if keep s e then out s e else none) s es := by
  induction es generalizing s s' with
  | nil => rfl
  | cons e es ih =>
    obtain ⟨head, tail⟩ := stepsMeet_cons.mp meets
    cases hk : keep s e with
    | true =>
      rw [purge, if_pos hk, outputs, outputs, ih (kept s s' e h head hk) tail]
      simp only [hk, if_true, same s s' e h head hk]
    | false =>
      rw [purge, if_neg (by rw [hk]; exact Bool.false_ne_true), outputs,
        ih (dropped s s' e h head hk) tail]
      simp only [hk, Bool.false_eq_true, if_false, Option.toList_none, List.nil_append]

end Unwinding

/-! ## Two runs in step -/

section Lockstep

variable {step : σ → ε → σ} {R : σ → σ → Prop} {E : ε → ε → Prop} {C : σ → ε → Prop}
  {out : σ → ε → Option ω}
  (stepped : ∀ s s' e e', R s s' → E e e' → C s e → C s' e' → R (step s e) (step s' e'))

include stepped

/-- **The lockstep rule**: runs of related events from related states show the same outputs. -/
theorem outputs_lockstep
    (same : ∀ s s' e e', R s s' → E e e' → C s e → C s' e' → out s e = out s' e')
    {s s' : σ} (h : R s s') {es es' : List ε} (hes : List.Forall₂ E es es')
    (meets : StepsMeet step C s es) (meets' : StepsMeet step C s' es') :
    outputs step out s es = outputs step out s' es' := by
  induction hes generalizing s s' with
  | nil => rfl
  | cons he _ ih =>
    obtain ⟨head, tail⟩ := stepsMeet_cons.mp meets
    obtain ⟨head', tail'⟩ := stepsMeet_cons.mp meets'
    simp only [outputs, same _ _ _ _ h he head head',
      ih (stepped _ _ _ _ h he head head') tail tail']

end Lockstep

end Transition
