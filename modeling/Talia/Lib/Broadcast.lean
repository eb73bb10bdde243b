import Talia.Lib.Runs

/-!
# A broadcast channel that keeps its last values

Whatever is sent on the channel, every receiver reads, each from a cursor of its own. The channel is
a parameter: `recv sent next` is what a receiver is given whose cursor is at `next` when `sent` has
been sent. `Lawful` is what such channels promise: the values in order, and no more than the last
`kept` of them, so that a receiver which has fallen further behind is told so once, and goes on with
the oldest value kept. `Channel` is the channel as one receiver sees it, with what it has taken;
sends and takes come in any order.

A receiver takes what is sent from its subscription on, in order and no value twice, and what it
skips it never needs to have seen: once it has caught up, it has taken each of the last `kept`
values (`Follows`, kept by every step). If it never falls behind them it takes everything
(`takes_all`), and it catches up in `kept + 1` turns (`caughtUp_of_turns`).

A receiver whose channel has no sender left is not looked at: it would be told that the channel is
closed.
-/

namespace Broadcast

open Transition

variable {α : Type*}

/-- What a receiver is given. -/
inductive Received (α : Type*) where
  /-- Everything sent is taken. -/
  | empty
  | lagged (skipped : ℕ)
  | value (a : α)

structure Channel (α : Type*) where
  /-- Everything sent, oldest first. -/
  sent : List α
  /-- The first value the receiver has not passed. -/
  next : ℕ
  taken : List α

inductive Event (α : Type*) where
  | send (a : α)
  | recv

/-- A receiver subscribes: it starts after what was sent before. -/
def subscribe (sent : List α) : Channel α := ⟨sent, sent.length, []⟩

/-- The channel after the receiver has taken what it is given. -/
def Channel.take (c : Channel α) : Received α → Channel α
  | .empty => c
  | .lagged skipped => { c with next := c.next + skipped }
  | .value a => { c with next := c.next + 1, taken := c.taken ++ [a] }

def step (recv : List α → ℕ → Received α) (c : Channel α) : Event α → Channel α
  | .send a => { c with sent := c.sent ++ [a] }
  | .recv => c.take (recv c.sent c.next)

/-! ## What a receiver is given -/

/-- The channel keeps the last `kept` values. A receiver that is not further behind is given the
next value, one that has passed all is given nothing, and any other is told how many it has missed
and set to the oldest value kept. -/
structure Lawful (kept : ℕ) (recv : List α → ℕ → Received α) : Prop where
  empty : ∀ sent next, sent.length ≤ next → recv sent next = .empty
  value : ∀ sent next (more : next < sent.length), sent.length ≤ next + kept →
    recv sent next = .value sent[next]
  lagged : ∀ sent next, next + kept < sent.length →
    recv sent next = .lagged (sent.length - kept - next)

/-- A channel that keeps so many values in a buffer. -/
def bounded (kept : ℕ) (sent : List α) (next : ℕ) : Received α :=
  if next + kept < sent.length then .lagged (sent.length - kept - next)
  else
    match sent[next]? with
    | some a => .value a
    | none => .empty

theorem lawful_bounded (kept : ℕ) : Lawful kept (bounded kept : List α → ℕ → Received α) where
  empty sent next caughtUp := by
    rw [bounded, if_neg (by omega), List.getElem?_eq_none caughtUp]
  value sent next more near := by
    rw [bounded, if_neg (by omega), List.getElem?_eq_getElem more]
  lagged _ _ behind := if_pos behind

/-- What a receiver takes was sent. -/
theorem Lawful.mem {kept : ℕ} {recv : List α → ℕ → Received α} (lawful : Lawful kept recv)
    {sent : List α} {next : ℕ} {a : α} (taken : recv sent next = .value a) : a ∈ sent := by
  by_cases behind : next + kept < sent.length
  · rw [lawful.lagged sent next behind] at taken
    cases taken
  · by_cases more : next < sent.length
    · rw [lawful.value sent next more (by omega)] at taken
      cases taken
      exact List.getElem_mem more
    · rw [lawful.empty sent next (by omega)] at taken
      cases taken

/-! ## What a receiver has taken -/

/-- The values from the first position up to the second. -/
def between (sent : List α) (first last : ℕ) : List α := (sent.take last).drop first

@[simp] theorem between_length (sent : List α) (first : ℕ) :
    between sent first sent.length = sent.drop first := by
  rw [between, List.take_length]

theorem between_self (sent : List α) {first last : ℕ} (h : last ≤ first) :
    between sent first last = [] := by
  rw [between, List.drop_eq_nil_iff, List.length_take]
  omega

theorem between_succ {sent : List α} {first last : ℕ} (h : first ≤ last)
    (more : last < sent.length) :
    between sent first (last + 1) = between sent first last ++ [sent[last]] := by
  rw [between, List.take_succ_eq_append_getElem more, List.drop_append_of_le_length, between]
  rw [List.length_take]
  omega

/-- What is sent later does not change what was sent. -/
theorem between_append {sent : List α} {first last : ℕ} (within : last ≤ sent.length) (a : α) :
    between (sent ++ [a]) first last = between sent first last := by
  rw [between, List.take_append_of_le_length within, between]

theorem between_suffix (sent : List α) {first first' : ℕ} (last : ℕ) (h : first ≤ first') :
    between sent first' last <:+ between sent first last := by
  obtain ⟨n, rfl⟩ := Nat.exists_eq_add_of_le h
  rw [between, ← List.drop_drop]
  exact List.drop_suffix ..

/-- The last few values are the end of the last ones. -/
theorem recent_suffix (sent : List α) (start : ℕ) {few kept : ℕ} (enough : few ≤ kept) :
    sent.drop (max start (sent.length - few)) <:+ sent.drop (max start (sent.length - kept)) := by
  have further : max start (sent.length - kept) ≤ max start (sent.length - few) := by omega
  have suffix := between_suffix sent sent.length further
  rw [between_length, between_length] at suffix
  exact suffix

theorem between_initial (sent : List α) (first : ℕ) {last last' : ℕ} (h : last ≤ last') :
    between sent first last <+: between sent first last' := by
  rw [between, between, ← min_eq_left h, ← List.take_take]
  exact (List.take_prefix ..).drop first

/-- A receiver that subscribed when `start` values had been sent: what it has taken was sent since,
in order, and holds all of the values it has passed that are among the last `kept`. -/
structure Follows (kept start : ℕ) (c : Channel α) : Prop where
  started : start ≤ c.next
  within : c.next ≤ c.sent.length
  inOrder : c.taken.Sublist (between c.sent start c.next)
  recent : between c.sent (max start (c.sent.length - kept)) c.next <:+ c.taken

theorem follows_subscribe (kept : ℕ) (sent : List α) :
    Follows kept sent.length (subscribe sent) where
  started := le_rfl
  within := le_rfl
  inOrder := List.nil_sublist _
  recent := by
    show between sent (max sent.length (sent.length - kept)) sent.length <:+ []
    rw [between_self _ (le_max_left ..)]

section Rules

variable {kept : ℕ} {recv : List α → ℕ → Received α}

/-- **Every step keeps what a receiver is owed.** -/
theorem follows_step (lawful : Lawful kept recv) {start : ℕ} (c : Channel α) (e : Event α)
    (follows : Follows kept start c) : Follows kept start (step recv c e) := by
  obtain ⟨started, within, inOrder, recent⟩ := follows
  cases e with
  | send a =>
    refine ⟨started, ?_, ?_, ?_⟩
    · exact within.trans (by simp [step])
    · exact (between_append within a).symm ▸ inOrder
    · refine List.IsSuffix.trans ?_ recent
      show between (c.sent ++ [a]) _ c.next <:+ _
      rw [between_append within]
      refine between_suffix _ _ ?_
      show _ ≤ max start ((c.sent ++ [a]).length - kept)
      rw [List.length_append]
      omega
  | recv =>
    rw [step]
    by_cases behind : c.next + kept < c.sent.length
    · -- The receiver skips to the oldest value kept, and owes nothing that was skipped.
      rw [lawful.lagged _ _ behind]
      have there : c.next + (c.sent.length - kept - c.next) = c.sent.length - kept := by
        omega
      refine ⟨?_, ?_, ?_, ?_⟩
      · exact started.trans (Nat.le_add_right ..)
      · show c.next + _ ≤ c.sent.length
        omega
      · exact inOrder.trans (between_initial c.sent start (Nat.le_add_right ..)).sublist
      · show between c.sent (max start (c.sent.length - kept)) (c.next + _) <:+ c.taken
        rw [there, between_self _ (le_max_right ..)]
        exact List.nil_suffix
    · by_cases more : c.next < c.sent.length
      · rw [lawful.value _ _ more (by omega)]
        refine ⟨started.trans (Nat.le_succ _), more, ?_, ?_⟩
        · show (c.taken ++ [_]).Sublist (between c.sent start (c.next + 1))
          rw [between_succ started more]
          exact inOrder.append (List.Sublist.refl _)
        · show between c.sent (max start (c.sent.length - kept)) (c.next + 1) <:+ _ ++ [_]
          rw [between_succ (by omega) more]
          exact (List.suffix_append_inj_of_length_eq rfl).mpr ⟨recent, rfl⟩
      · rw [lawful.empty _ _ (by omega)]
        exact ⟨started, within, inOrder, recent⟩

/-- So does every run. -/
theorem follows_run (lawful : Lawful kept recv) {start : ℕ} {c : Channel α}
    (follows : Follows kept start c) (es : List (Event α)) :
    Follows kept start (run (step recv) c es) :=
  run_invariant (follows_step lawful) follows es

/-- Once caught up, a receiver has taken each of the last `kept` values. -/
theorem Follows.caughtUp {start : ℕ} {c : Channel α} (follows : Follows kept start c)
    (caughtUp : c.next = c.sent.length) :
    c.sent.drop (max start (c.sent.length - kept)) <:+ c.taken := by
  have recent := follows.recent
  rw [caughtUp, between_length] at recent
  exact recent

/-! ## A receiver that keeps up -/

/-- The receiver is not further behind than the channel keeps when it looks. -/
def KeepsUp (kept : ℕ) (c : Channel α) (e : Event α) : Prop :=
  e = .recv → c.sent.length ≤ c.next + kept

/-- A receiver that keeps up takes the next value, or has taken them all. -/
theorem takes_all_step (lawful : Lawful kept recv) {start : ℕ} {c : Channel α}
    (follows : Follows kept start c) (all : c.taken = between c.sent start c.next) {e : Event α}
    (keepsUp : KeepsUp kept c e) :
    Follows kept start (step recv c e) ∧ (step recv c e).taken =
      between (step recv c e).sent start (step recv c e).next := by
  refine ⟨follows_step lawful c e follows, ?_⟩
  obtain ⟨started, within, -, -⟩ := follows
  cases e with
  | send a => exact all.trans (between_append within a).symm
  | recv =>
    rw [step]
    by_cases more : c.next < c.sent.length
    · rw [lawful.value _ _ more (keepsUp rfl)]
      show c.taken ++ [_] = between c.sent start (c.next + 1)
      rw [between_succ started more, all]
    · rw [lawful.empty _ _ (by omega)]
      exact all

/-- **A receiver that keeps up takes everything.** -/
theorem takes_all (lawful : Lawful kept recv) {start : ℕ} {c : Channel α}
    (follows : Follows kept start c) (all : c.taken = between c.sent start c.next)
    {es : List (Event α)} (keepsUp : StepsMeet (step recv) (KeepsUp kept) c es) :
    (run (step recv) c es).taken =
      between (run (step recv) c es).sent start (run (step recv) c es).next := by
  let Inv : Channel α → Prop := fun c =>
    Follows kept start c ∧ c.taken = between c.sent start c.next
  have inv : Inv (run (step recv) c es) := by
    refine run_invariant_of_steps ?_ ⟨follows, all⟩ keepsUp
    exact fun c e inv keepsUp => takes_all_step lawful inv.1 inv.2 keepsUp
  exact inv.2

/-! ## Catching up -/

/-- A receiver that is not further behind than the channel keeps catches up value by value. -/
theorem caughtUp_of_near (lawful : Lawful kept recv) (n : ℕ) {c : Channel α}
    (near : c.sent.length ≤ c.next + kept) (enough : c.sent.length ≤ c.next + n)
    (within : c.next ≤ c.sent.length) :
    (run (step recv) c (List.replicate n .recv)).next = c.sent.length := by
  induction n generalizing c with
  | zero =>
    show c.next = c.sent.length
    omega
  | succ n ih =>
    rw [List.replicate_succ, run_cons, step]
    by_cases more : c.next < c.sent.length
    · rw [lawful.value _ _ more near]
      refine ih ?_ ?_ ?_
      · show c.sent.length ≤ c.next + 1 + kept
        omega
      · show c.sent.length ≤ c.next + 1 + n
        omega
      · exact more
    · rw [lawful.empty _ _ (by omega)]
      refine ih near ?_ within
      show c.sent.length ≤ c.next + n
      omega

/-- **A receiver catches up in `kept + 1` turns**, if nothing is sent meanwhile. -/
theorem caughtUp_of_turns (lawful : Lawful kept recv) {c : Channel α}
    (within : c.next ≤ c.sent.length) :
    (run (step recv) c (List.replicate (kept + 1) .recv)).next = c.sent.length := by
  by_cases behind : c.next + kept < c.sent.length
  · -- One turn to be told, the rest for the values kept.
    rw [List.replicate_succ, run_cons, step, lawful.lagged _ _ behind]
    refine caughtUp_of_near lawful kept ?_ ?_ ?_
    · show c.sent.length ≤ c.next + _ + kept
      omega
    · show c.sent.length ≤ c.next + _ + kept
      omega
    · show c.next + _ ≤ c.sent.length
      omega
  · exact caughtUp_of_near lawful (kept + 1) (by omega) (by omega) within

end Rules

end Broadcast
