import Mathlib.Algebra.Order.BigOperators.Group.List
import Talia.Core.Pipeline
import Talia.Lib.Runs
import Talia.Lib.Saturating

/-!
# CPU time

A hook at every switch of tasks keeps a ledger for each CPU: how long the idle task ran, and by how
much the user and system times of the other tasks grew while they ran (`schedSwitch`). For that it
remembers the times of the task it switches to. The collector reads the ledgers and reports what was
added since the collection before.

A slot is the time between two switches, in which one task runs. `cpu_ledger_partition` says that
the ledger is the sum of what the slots are worth, each to the task that ran in it. The slot that is
running is not in the ledger yet. So a collection accounts for the slots that ended since the one
before (`cpu_window_attribution`), of which the first may have begun long before that
(`cpu_window_exceeded`).

A switch that the hook misses, and a clock that goes back, are not covered (`ValidSwitches`).
-/

namespace Talia

open Transition

/-! ## The ledger -/

/-- A CPU's ledger. -/
structure CpuCounters where
  lastSwitchNs : UInt64 := 0
  activeTaskUserNs : UInt64 := 0
  activeTaskSystemNs : UInt64 := 0
  idleNs : UInt64 := 0
  userNs : UInt64 := 0
  systemNs : UInt64 := 0
  deriving DecidableEq

/-- What the hook reads of a task. -/
structure TaskRead (τ : Type) where
  task : τ
  flags : UInt32
  utime : UInt64
  stime : UInt64

/-- A switch of a CPU from one task to the next. -/
structure SwitchEvent (τ : Type) where
  now : UInt64
  prev : TaskRead τ
  next : TaskRead τ

/-- The flag of the idle task. -/
def pfIdle : UInt32 := 0x00000002

section Ledger

variable {τ : Type}

/-- The task that a CPU switches to is remembered with its times so far. -/
def rememberActiveTask (counters : CpuCounters) (task : TaskRead τ) : CpuCounters :=
  { counters with activeTaskUserNs := task.utime, activeTaskSystemNs := task.stime }

/-- The hook, at a switch. -/
def schedSwitch (counters : CpuCounters) (event : SwitchEvent τ) : CpuCounters :=
  if counters.lastSwitchNs = 0 then
    rememberActiveTask { counters with lastSwitchNs := event.now } event.next
  else
    let deltaNs := event.now - counters.lastSwitchNs
    let counters := { counters with lastSwitchNs := event.now }
    if event.prev.flags &&& pfIdle ≠ 0 then
      rememberActiveTask { counters with idleNs := counters.idleNs + deltaNs } event.next
    else
      let counters :=
        if counters.activeTaskUserNs ≤ event.prev.utime then
          { counters with
            userNs := counters.userNs + (event.prev.utime - counters.activeTaskUserNs) }
        else counters
      let counters :=
        if counters.activeTaskSystemNs ≤ event.prev.stime then
          { counters with
            systemNs := counters.systemNs + (event.prev.stime - counters.activeTaskSystemNs) }
        else counters
      rememberActiveTask counters event.next

/-- What a ledger accounts for. -/
def CpuCounters.total (counters : CpuCounters) : ℕ :=
  counters.idleNs.toNat + counters.userNs.toNat + counters.systemNs.toNat

/-! ## Slots -/

/-- A slot: the time between a switch to a task and the switch from it. -/
structure Slot (τ : Type) where
  switchIn : SwitchEvent τ
  switchOut : SwitchEvent τ

namespace Slot

variable (slot : Slot τ)

/-- How long the slot is. -/
def length : ℕ := slot.switchOut.now.toNat - slot.switchIn.now.toNat

/-- The idle task ran in the slot. -/
def idle : Bool := slot.switchOut.prev.flags &&& pfIdle ≠ 0

/-- The growth of the user time between the two switches. -/
def userGrowth : ℕ := slot.switchOut.prev.utime.toNat - slot.switchIn.next.utime.toNat

/-- The time that the task spent in the kernel. -/
def systemGrowth : ℕ := slot.switchOut.prev.stime.toNat - slot.switchIn.next.stime.toNat

/-- What the slot is worth to each counter. -/
def idleNs : ℕ := if slot.idle then slot.length else 0

/-- What the slot counts for users. -/
def userNs : ℕ := if slot.idle then 0 else slot.userGrowth

/-- What it counts for the system. -/
def systemNs : ℕ := if slot.idle then 0 else slot.systemGrowth

/-- What it counts altogether. -/
def total : ℕ := slot.idleNs + slot.userNs + slot.systemNs

/-- The times of a slot, as the kernel keeps them: the task switched from is the one switched to,
and unless it is the idle one its times grew, by no more than the time that passed. -/
structure Valid : Prop where
  forward : slot.switchIn.now ≤ slot.switchOut.now
  own : slot.switchOut.prev.task = slot.switchIn.next.task
  user : slot.idle = false → slot.switchIn.next.utime ≤ slot.switchOut.prev.utime
  system : slot.idle = false → slot.switchIn.next.stime ≤ slot.switchOut.prev.stime
  bounded : slot.idle = false → slot.userGrowth + slot.systemGrowth ≤ slot.length

end Slot

/-- The slots of a CPU's switches. -/
def slots : List (SwitchEvent τ) → List (Slot τ)
  | e :: e' :: es => ⟨e, e'⟩ :: slots (e' :: es)
  | _ => []

/-- The slots of a longer run are those of its parts, which share an event. -/
theorem slots_append (es : List (SwitchEvent τ)) (e : SwitchEvent τ) (fs : List (SwitchEvent τ)) :
    slots (es ++ e :: fs) = slots (es ++ [e]) ++ slots (e :: fs) := by
  induction es with
  | nil => simp [slots]
  | cons a es ih =>
    cases es with
    | nil => simp [slots]
    | cons b es =>
      show ⟨a, b⟩ :: slots (b :: es ++ e :: fs) = ⟨a, b⟩ :: slots (b :: es ++ [e]) ++ _
      rw [ih]
      rfl

/-- The time between the first switch and the last. -/
def elapsed : List (SwitchEvent τ) → ℕ
  | [] => 0
  | e :: es => ((e :: es).getLast (List.cons_ne_nil e es)).now.toNat - e.now.toNat

/-- The switches of a CPU: positive times, and slots the kernel can produce. -/
structure ValidSwitches (events : List (SwitchEvent τ)) : Prop where
  positive : ∀ event ∈ events, 0 < event.now
  slots : ∀ slot ∈ slots events, slot.Valid

/-! ## What the ledger holds -/

/-- The ledger is up to date with the switch: it remembers its time and the times of the task
switched to, and accounts for no more than the time up to it. -/
structure CpuCounters.Current (counters : CpuCounters) (event : SwitchEvent τ) : Prop where
  last : counters.lastSwitchNs = event.now
  user : counters.activeTaskUserNs = event.next.utime
  system : counters.activeTaskSystemNs = event.next.stime
  fits : counters.total ≤ event.now.toNat

/-- The first switch counts nothing, and remembers the task it switched to. -/
theorem schedSwitch_first (event : SwitchEvent τ) :
    (schedSwitch {} event).Current event ∧ (schedSwitch {} event).total = 0 := by
  have step : schedSwitch {} event =
      { lastSwitchNs := event.now, activeTaskUserNs := event.next.utime,
        activeTaskSystemNs := event.next.stime } := rfl
  rw [step]
  exact ⟨⟨rfl, rfl, rfl, Nat.zero_le _⟩, rfl⟩

/-- **The end of a slot** adds what the slot is worth, and leaves the ledger up to date. -/
theorem schedSwitch_slot {counters : CpuCounters} {e e' : SwitchEvent τ}
    (current : counters.Current e) (started : 0 < e.now) (valid : Slot.Valid ⟨e, e'⟩) :
    (schedSwitch counters e').Current e' ∧
      (schedSwitch counters e').idleNs.toNat = counters.idleNs.toNat + Slot.idleNs ⟨e, e'⟩ ∧
      (schedSwitch counters e').userNs.toNat = counters.userNs.toNat + Slot.userNs ⟨e, e'⟩ ∧
      (schedSwitch counters e').systemNs.toNat =
        counters.systemNs.toNat + Slot.systemNs ⟨e, e'⟩ := by
  obtain ⟨last, activeUser, activeSystem, fits⟩ := current
  have running : counters.lastSwitchNs ≠ 0 := by
    rw [last]
    exact fun zero => absurd started (by rw [zero]; exact UInt64.lt_irrefl 0)
  have now := e'.now.toNat_lt
  have forward : e.now.toNat ≤ e'.now.toNat := UInt64.le_iff_toNat_le.mp valid.forward
  have delta : (e'.now - counters.lastSwitchNs).toNat = Slot.length ⟨e, e'⟩ := by
    rw [last, UInt64.toNat_sub_of_le _ _ valid.forward, Slot.length]
  have length : Slot.length ⟨e, e'⟩ = e'.now.toNat - e.now.toNat := rfl
  unfold CpuCounters.total at fits
  cases idle : Slot.idle ⟨e, e'⟩ with
  | true =>
    have flag : e'.prev.flags &&& pfIdle ≠ 0 := of_decide_eq_true idle
    have step : schedSwitch counters e' =
        { lastSwitchNs := e'.now, activeTaskUserNs := e'.next.utime,
          activeTaskSystemNs := e'.next.stime,
          idleNs := counters.idleNs + (e'.now - counters.lastSwitchNs),
          userNs := counters.userNs, systemNs := counters.systemNs } := by
      rw [schedSwitch, if_neg running, if_pos flag]
      rfl
    have added : (counters.idleNs + (e'.now - counters.lastSwitchNs)).toNat =
        counters.idleNs.toNat + Slot.length ⟨e, e'⟩ := by
      rw [UInt64.toNat_add, delta, Nat.mod_eq_of_lt]
      omega
    rw [step, Slot.idleNs, Slot.userNs, Slot.systemNs, idle]
    refine ⟨⟨rfl, rfl, rfl, ?_⟩, added, rfl, rfl⟩
    show (counters.idleNs + (e'.now - counters.lastSwitchNs)).toNat + counters.userNs.toNat +
      counters.systemNs.toNat ≤ e'.now.toNat
    omega
  | false =>
    have flag : ¬ (e'.prev.flags &&& pfIdle ≠ 0) := of_decide_eq_false idle
    have user := valid.user idle
    have system := valid.system idle
    have bounded := valid.bounded idle
    have step : schedSwitch counters e' =
        { lastSwitchNs := e'.now, activeTaskUserNs := e'.next.utime,
          activeTaskSystemNs := e'.next.stime, idleNs := counters.idleNs,
          userNs := counters.userNs + (e'.prev.utime - e.next.utime),
          systemNs := counters.systemNs + (e'.prev.stime - e.next.stime) } := by
      simp only [schedSwitch, if_neg running, if_neg flag, activeUser, activeSystem]
      rw [if_pos user]
      simp only
      rw [if_pos system]
      rfl
    have userGrowth : (e'.prev.utime - e.next.utime).toNat = Slot.userGrowth ⟨e, e'⟩ := by
      rw [UInt64.toNat_sub_of_le _ _ user, Slot.userGrowth]
    have systemGrowth : (e'.prev.stime - e.next.stime).toNat = Slot.systemGrowth ⟨e, e'⟩ := by
      rw [UInt64.toNat_sub_of_le _ _ system, Slot.systemGrowth]
    have userAdded : (counters.userNs + (e'.prev.utime - e.next.utime)).toNat =
        counters.userNs.toNat + Slot.userGrowth ⟨e, e'⟩ := by
      rw [UInt64.toNat_add, userGrowth, Nat.mod_eq_of_lt]
      omega
    have systemAdded : (counters.systemNs + (e'.prev.stime - e.next.stime)).toNat =
        counters.systemNs.toNat + Slot.systemGrowth ⟨e, e'⟩ := by
      rw [UInt64.toNat_add, systemGrowth, Nat.mod_eq_of_lt]
      omega
    rw [step, Slot.idleNs, Slot.userNs, Slot.systemNs, idle]
    refine ⟨⟨rfl, rfl, rfl, ?_⟩, rfl, userAdded, systemAdded⟩
    show counters.idleNs.toNat + (counters.userNs + (e'.prev.utime - e.next.utime)).toNat +
      (counters.systemNs + (e'.prev.stime - e.next.stime)).toNat ≤ e'.now.toNat
    omega

/-- The ledger after a run of switches: each counter is the sum of what the slots are worth. -/
structure Accounts (counters : CpuCounters) (slots : List (Slot τ)) (after : CpuCounters) : Prop where
  idle : after.idleNs.toNat = counters.idleNs.toNat + (slots.map Slot.idleNs).sum
  user : after.userNs.toNat = counters.userNs.toNat + (slots.map Slot.userNs).sum
  system : after.systemNs.toNat = counters.systemNs.toNat + (slots.map Slot.systemNs).sum

/-- Valid switches stay valid without the first. -/
theorem validSwitches_tail {e e' : SwitchEvent τ} {es : List (SwitchEvent τ)}
    (valid : ValidSwitches (e :: e' :: es)) : ValidSwitches (e' :: es) where
  positive event mem := valid.positive event (List.mem_cons_of_mem _ mem)
  slots slot mem := valid.slots slot (List.mem_cons_of_mem _ mem)

/-- **A run accounts for its slots**, each under what the CPU did in it. -/
theorem run_accounts {counters : CpuCounters} {e : SwitchEvent τ} {es : List (SwitchEvent τ)}
    (current : counters.Current e) (valid : ValidSwitches (e :: es)) :
    (run schedSwitch counters es).Current ((e :: es).getLast (List.cons_ne_nil e es)) ∧
      Accounts counters (slots (e :: es)) (run schedSwitch counters es) := by
  induction es generalizing counters e with
  | nil => exact ⟨current, rfl, rfl, rfl⟩
  | cons e' es ih =>
    have slot := valid.slots ⟨e, e'⟩ List.mem_cons_self
    obtain ⟨current', idle, user, system⟩ :=
      schedSwitch_slot current (valid.positive e List.mem_cons_self) slot
    obtain ⟨last, accounts⟩ := ih current' (validSwitches_tail valid)
    refine ⟨last, ?_, ?_, ?_⟩
    · rw [run_cons, accounts.idle, idle, slots, List.map_cons, List.sum_cons, Nat.add_assoc]
    · rw [run_cons, accounts.user, user, slots, List.map_cons, List.sum_cons, Nat.add_assoc]
    · rw [run_cons, accounts.system, system, slots, List.map_cons, List.sum_cons, Nat.add_assoc]

/-- The slots fill the time between the first switch and the last. -/
theorem sum_length {e : SwitchEvent τ} {es : List (SwitchEvent τ)}
    (valid : ValidSwitches (e :: es)) :
    ((slots (e :: es)).map Slot.length).sum + e.now.toNat =
      ((e :: es).getLast (List.cons_ne_nil e es)).now.toNat := by
  induction es generalizing e with
  | nil => exact Nat.zero_add _
  | cons e' es ih =>
    have rest := ih (validSwitches_tail valid)
    have forward : e.now.toNat ≤ e'.now.toNat :=
      UInt64.le_iff_toNat_le.mp (valid.slots ⟨e, e'⟩ List.mem_cons_self).forward
    have length : Slot.length ⟨e, e'⟩ = e'.now.toNat - e.now.toNat := rfl
    rw [slots, List.map_cons, List.sum_cons, List.getLast_cons_cons, ← rest]
    omega

/-- The slots are as long together as the time that passed. -/
theorem sum_length_eq_elapsed {events : List (SwitchEvent τ)} (valid : ValidSwitches events) :
    ((slots events).map Slot.length).sum = elapsed events := by
  cases events with
  | nil => rfl
  | cons e es =>
    have sum := sum_length valid
    show _ = _ - e.now.toNat
    omega

/-- What slots count is what they count idle, for users and for the system. -/
theorem sum_total (slots : List (Slot τ)) :
    (slots.map Slot.total).sum = (slots.map Slot.idleNs).sum + (slots.map Slot.userNs).sum +
      (slots.map Slot.systemNs).sum := by
  unfold Slot.total
  rw [List.sum_map_add, List.sum_map_add]

/-- A slot is worth no more than its length. -/
theorem Slot.Valid.total_le {slot : Slot τ} (valid : slot.Valid) : slot.total ≤ slot.length := by
  unfold Slot.total Slot.idleNs Slot.userNs Slot.systemNs
  cases idle : slot.idle with
  | true => simp
  | false => simpa using valid.bounded idle

/-- Slots count no more than the time that passed. -/
theorem sum_total_le {events : List (SwitchEvent τ)} (valid : ValidSwitches events) :
    ((slots events).map Slot.total).sum ≤ elapsed events := by
  rw [← sum_length_eq_elapsed valid]
  exact List.sum_le_sum fun slot mem => (valid.slots slot mem).total_le

/-- A slot that the idle task ran in, or whose task's times grew by all of its length. -/
def Slot.Full (slot : Slot τ) : Prop :=
  slot.idle = false → slot.userGrowth + slot.systemGrowth = slot.length

/-- A full slot counts all of its time. -/
theorem Slot.Full.total_eq {slot : Slot τ} (full : slot.Full) : slot.total = slot.length := by
  unfold Slot.total Slot.idleNs Slot.userNs Slot.systemNs
  cases idle : slot.idle with
  | true => simp
  | false => simpa using full idle

/-- What is worth something to one kind of slot only is summed over these. -/
theorem sum_filter (slots : List (Slot τ)) (p : Slot τ → Bool) (worth : Slot τ → ℕ) :
    (slots.map fun slot => if p slot then worth slot else 0).sum =
      ((slots.filter p).map worth).sum := by
  induction slots with
  | nil => rfl
  | cons slot slots ih =>
    rw [List.map_cons, List.sum_cons, ih, List.filter_cons]
    cases p slot with
    | true => rw [if_pos rfl, if_pos rfl, List.map_cons, List.sum_cons]
    | false => rw [if_neg Bool.false_ne_true, if_neg Bool.false_ne_true, Nat.zero_add]

/-- The ledger divides the time between the first switch and the last among the slots. -/
structure Partitions (events : List (SwitchEvent τ)) (counters : CpuCounters) : Prop where
  bounded : counters.total ≤ elapsed events
  full : (∀ slot ∈ slots events, slot.Full) → counters.total = elapsed events
  idle : counters.idleNs.toNat = (((slots events).filter Slot.idle).map Slot.length).sum
  user : counters.userNs.toNat =
    (((slots events).filter fun slot => !slot.idle).map Slot.userGrowth).sum
  system : counters.systemNs.toNat =
    (((slots events).filter fun slot => !slot.idle).map Slot.systemGrowth).sum
  /-- The growth of a slot is that of one task, the one that ran in it. -/
  own : ∀ slot ∈ slots events, slot.switchOut.prev.task = slot.switchIn.next.task

/-- Valid switches stay valid without the last. -/
theorem ValidSwitches.left {es fs : List (SwitchEvent τ)} (valid : ValidSwitches (es ++ fs)) :
    ValidSwitches es where
  positive event mem := valid.positive event (List.mem_append_left _ mem)
  slots slot mem := by
    refine valid.slots slot ?_
    cases es using List.reverseRecOn with
    | nil => cases mem
    | append_singleton es e =>
      rw [List.append_assoc, List.singleton_append, slots_append]
      exact List.mem_append_left _ mem

/-- The ledger of a run from the start: the sums of what its slots are worth. -/
theorem run_schedSwitch {events : List (SwitchEvent τ)} (valid : ValidSwitches events) :
    Accounts {} (slots events) (run schedSwitch {} events) := by
  cases events with
  | nil => exact ⟨rfl, rfl, rfl⟩
  | cons e es =>
    obtain ⟨current, nothing⟩ := schedSwitch_first e
    have accounts := (run_accounts current valid).2
    unfold CpuCounters.total at nothing
    refine ⟨?_, ?_, ?_⟩
    · rw [run_cons, accounts.idle]
      show _ = 0 + _
      omega
    · rw [run_cons, accounts.user]
      show _ = 0 + _
      omega
    · rw [run_cons, accounts.system]
      show _ = 0 + _
      omega

/-- Counters that account for slots grow by what the slots count. -/
theorem Accounts.total_eq {counters after : CpuCounters} {slots : List (Slot τ)}
    (accounts : Accounts counters slots after) :
    after.total = counters.total + (slots.map Slot.total).sum := by
  rw [CpuCounters.total, CpuCounters.total, accounts.idle, accounts.user, accounts.system,
    sum_total]
  omega

/-- **In every run the counters partition the time.** -/
theorem partitions_run {events : List (SwitchEvent τ)} (valid : ValidSwitches events) :
    Partitions events (run schedSwitch {} events) := by
  have accounts := run_schedSwitch valid
  have total : (run schedSwitch {} events).total = ((slots events).map Slot.total).sum := by
    rw [accounts.total_eq]
    exact Nat.zero_add _
  have notIdle (slot : Slot τ) (worth : ℕ) :
      (if slot.idle then 0 else worth) = if !slot.idle then worth else 0 := by
    cases slot.idle <;> rfl
  refine ⟨?_, ?_, ?_, ?_, ?_, fun slot mem => (valid.slots slot mem).own⟩
  · rw [total]
    exact sum_total_le valid
  · intro full
    rw [total, ← sum_length_eq_elapsed valid]
    exact congrArg List.sum (List.map_congr_left fun slot mem => (full slot mem).total_eq)
  · rw [accounts.idle, ← sum_filter]
    exact Nat.zero_add _
  · rw [accounts.user, ← sum_filter]
    simp only [← notIdle]
    exact Nat.zero_add _
  · rw [accounts.system, ← sum_filter]
    simp only [← notIdle]
    exact Nat.zero_add _

/-- No counter of the one ledger is above that of the other. -/
structure CpuCounters.AtMost (counters after : CpuCounters) : Prop where
  idle : counters.idleNs ≤ after.idleNs
  user : counters.userNs ≤ after.userNs
  system : counters.systemNs ≤ after.systemNs

/-- Counters that account for slots do not fall. -/
theorem Accounts.atMost {counters after : CpuCounters} {slots : List (Slot τ)}
    (accounts : Accounts counters slots after) : counters.AtMost after where
  idle := UInt64.le_iff_toNat_le.mpr (by rw [accounts.idle]; exact Nat.le_add_right _ _)
  user := UInt64.le_iff_toNat_le.mpr (by rw [accounts.user]; exact Nat.le_add_right _ _)
  system := UInt64.le_iff_toNat_le.mpr (by rw [accounts.system]; exact Nat.le_add_right _ _)

/-- The ledger between two points of a run: what the slots that ended in between are worth. -/
theorem run_append_accounts {es fs : List (SwitchEvent τ)} {e : SwitchEvent τ}
    (valid : ValidSwitches (es ++ e :: fs)) :
    Accounts (run schedSwitch {} (es ++ [e])) (slots (e :: fs))
      (run schedSwitch {} (es ++ e :: fs)) := by
  have whole := run_schedSwitch valid
  have split : es ++ e :: fs = (es ++ [e]) ++ fs := by simp
  have before := run_schedSwitch (ValidSwitches.left (split ▸ valid))
  rw [slots_append] at whole
  refine ⟨?_, ?_, ?_⟩
  · rw [whole.idle, before.idle, List.map_append, List.sum_append, Nat.add_assoc]
  · rw [whole.user, before.user, List.map_append, List.sum_append, Nat.add_assoc]
  · rw [whole.system, before.system, List.map_append, List.sum_append, Nat.add_assoc]

/-- **The ledger of a CPU is a partition of its time**: after every switch it accounts for no more
than the time since the first one, and for all of it if the times of the tasks do; the idle time is
that of the idle slots, each other slot is charged by the growth of the times of the task that ran
in it, and no counter ever decreases. -/
theorem cpu_ledger_partition {events : List (SwitchEvent τ)} (valid : ValidSwitches events) :
    ∀ before event after, events = before ++ event :: after →
      Partitions (before ++ [event]) (run schedSwitch {} (before ++ [event])) ∧
      (run schedSwitch {} before).AtMost (run schedSwitch {} (before ++ [event])) := by
  intro before event after split
  have whole : ValidSwitches ((before ++ [event]) ++ after) := by
    rw [List.append_assoc, List.singleton_append, ← split]
    exact valid
  have upTo := whole.left
  refine ⟨partitions_run upTo, ?_⟩
  cases before using List.reverseRecOn with
  | nil => exact (run_schedSwitch upTo).atMost
  | append_singleton before last =>
    rw [List.append_assoc, List.singleton_append] at upTo ⊢
    exact (run_append_accounts upTo).atMost

/-- Task 1 runs from 10 to 25, ten of it in user mode and four in the kernel, and the idle task
until 40. -/
def twoSlots : List (SwitchEvent ℕ) :=
  [⟨10, ⟨0, 2, 0, 0⟩, ⟨1, 0, 100, 50⟩⟩, ⟨25, ⟨1, 0, 110, 54⟩, ⟨0, 2, 0, 0⟩⟩,
    ⟨40, ⟨0, 2, 0, 0⟩, ⟨1, 0, 110, 54⟩⟩]

/-- The two slots are of valid switches. -/
theorem twoSlots_valid : ValidSwitches twoSlots := by
  refine ⟨by decide, fun slot mem => ?_⟩
  simp only [twoSlots, slots, List.mem_cons, List.not_mem_nil, or_false] at mem
  rcases mem with rfl | rfl
  · exact ⟨by decide, rfl, by decide, by decide, by decide⟩
  · exact ⟨by decide, rfl, by decide, by decide, by decide⟩

theorem cpu_ledger_partition_twoSlots :
    ValidSwitches twoSlots ∧ ∀ before event after, twoSlots = before ++ event :: after →
      Partitions (before ++ [event]) (run schedSwitch {} (before ++ [event])) ∧
      (run schedSwitch {} before).AtMost (run schedSwitch {} (before ++ [event])) :=
  ⟨twoSlots_valid, cpu_ledger_partition twoSlots_valid⟩

end Ledger

/-! ## Collecting -/

/-- What a collection reports of a CPU. -/
structure CpuSnapshot where
  cpu : UInt32
  windowDuration : Duration
  idleNs : UInt64
  userNs : UInt64
  systemNs : UInt64
  deriving DecidableEq

/-- What a snapshot accounts for. -/
def CpuSnapshot.total (snapshot : CpuSnapshot) : ℕ :=
  snapshot.idleNs.toNat + snapshot.userNs.toNat + snapshot.systemNs.toNat

/-- The growth of the counters of a CPU. -/
def cpuSnapshot (windowDuration : Duration) (cpu : ℕ) (previous current : CpuCounters) :
    CpuSnapshot where
  cpu := .ofNat cpu
  windowDuration := windowDuration
  idleNs := Saturating.sub current.idleNs previous.idleNs
  userNs := Saturating.sub current.userNs previous.userNs
  systemNs := Saturating.sub current.systemNs previous.systemNs

/-- The snapshots of the CPUs, and the counters to compare the next ones with. -/
def cpuSnapshots (previousCpuCounters cpuCounters : List CpuCounters) (windowDuration : Duration) :
    List CpuCounters × List CpuSnapshot :=
  let previousCpuCounters := previousCpuCounters ++
    List.replicate (cpuCounters.length - previousCpuCounters.length) ({} : CpuCounters)
  (cpuCounters ++ previousCpuCounters.drop cpuCounters.length,
    cpuCounters.zipIdx.map fun (current, cpu) =>
      cpuSnapshot windowDuration cpu (previousCpuCounters.getD cpu {}) current)

section Collector

variable {n : ℕ} {τ ε : Type}

/-- The ledgers of the CPUs, and what the collector keeps. -/
structure CpuCollector (n : ℕ) where
  cpuCountersMap : Fin n → CpuCounters
  previousCpuCounters : List CpuCounters

/-- No CPU has switched, and nothing was collected. -/
def CpuCollector.new : CpuCollector n where
  cpuCountersMap := fun _ => {}
  previousCpuCounters := []

/-- The switches of all CPUs, and the collections. -/
inductive CpuEvent (n : ℕ) (τ ε : Type) where
  | switch (cpu : Fin n) (event : SwitchEvent τ)
  /-- A collection at a time; reading the map can fail. -/
  | collect (time : ℕ) (windowDuration : Duration) (error : Option ε)

namespace CpuCollector

/-- `CpuCollector::collect`. -/
def collect (s : CpuCollector n) (windowDuration : Duration) (error : Option ε) :
    CpuCollector n × Except ε (List CpuSnapshot) :=
  match error with
  | some e => (s, .error e)
  | none =>
    let (previous, snapshots) :=
      cpuSnapshots s.previousCpuCounters (List.ofFn s.cpuCountersMap) windowDuration
    ({ s with previousCpuCounters := previous }, .ok snapshots)

/-- A switch counts on its own CPU. -/
def step (s : CpuCollector n) : CpuEvent n τ ε → CpuCollector n
  | .switch cpu event =>
    let ledger := schedSwitch (s.cpuCountersMap cpu) event
    { s with cpuCountersMap := Function.update s.cpuCountersMap cpu ledger }
  | .collect _ windowDuration error => (s.collect windowDuration error).1

end CpuCollector

/-- The switches of a CPU. -/
def switches (cpu : Fin n) (events : List (CpuEvent n τ ε)) : List (SwitchEvent τ) :=
  events.filterMap fun
    | .switch own event => if own = cpu then some event else none
    | .collect .. => none

/-- The event is a collection that succeeds. -/
def CpuEvent.succeeds : CpuEvent n τ ε → Bool
  | .collect _ _ none => true
  | _ => false

/-- A CPU's counters are those of its own switches. -/
theorem cpuCountersMap_run (s : CpuCollector n) (cpu : Fin n) (events : List (CpuEvent n τ ε)) :
    (run CpuCollector.step s events).cpuCountersMap cpu =
      run schedSwitch (s.cpuCountersMap cpu) (switches cpu events) := by
  induction events generalizing s with
  | nil => rfl
  | cons event events ih =>
    rw [run_cons, ih]
    cases event with
    | switch own event =>
      by_cases same : own = cpu
      · subst same
        simp [switches, CpuCollector.step]
      · have other : cpu ≠ own := fun h => same h.symm
        simp [switches, CpuCollector.step, same, other]
    | collect time windowDuration error =>
      cases error with
      | none => simp [switches, CpuCollector.step, CpuCollector.collect]
      | some e => simp [switches, CpuCollector.step, CpuCollector.collect]

/-- A collection keeps the counters it has read for the next one. -/
theorem previous_collect (s : CpuCollector n) (time : ℕ) (windowDuration : Duration) (cpu : Fin n) :
    (s.step (.collect time windowDuration none : CpuEvent n τ ε)).previousCpuCounters.getD cpu
      ({} : CpuCounters) = s.cpuCountersMap cpu := by
  have within : cpu.val < (List.ofFn s.cpuCountersMap).length := by simp
  simp only [CpuCollector.step, CpuCollector.collect, cpuSnapshots, List.getD_eq_getElem?_getD]
  rw [List.getElem?_append_left within]
  simp

/-- Collections that fail leave them as they are. -/
theorem previous_run {s : CpuCollector n} {events : List (CpuEvent n τ ε)}
    (none : ∀ event ∈ events, event.succeeds = false) :
    (run CpuCollector.step s events).previousCpuCounters = s.previousCpuCounters := by
  induction events generalizing s with
  | nil => rfl
  | cons event events ih =>
    rw [run_cons, ih fun e mem => none e (List.mem_cons_of_mem _ mem)]
    have fails := none event List.mem_cons_self
    cases event with
    | switch => rfl
    | collect time windowDuration error =>
      cases error with
      | none => cases fails
      | some e => rfl

/-- The snapshot of a CPU compares its ledger with what was kept of it. -/
theorem snapshots_cpu (previous : List CpuCounters) (map : Fin n → CpuCounters)
    (windowDuration : Duration) (cpu : Fin n) :
    (cpuSnapshots previous (List.ofFn map) windowDuration).2[cpu.val]? =
      some (cpuSnapshot windowDuration cpu (previous.getD cpu {}) (map cpu)) := by
  have resized (k : ℕ) :
      (previous ++ List.replicate k ({} : CpuCounters))[cpu.val]?.getD {} =
        previous[cpu.val]?.getD {} := by
    rw [List.getElem?_append]
    split
    next => rfl
    next past =>
      rw [List.getElem?_replicate, List.getElem?_eq_none (Nat.le_of_not_lt past)]
      split <;> rfl
  simp [cpuSnapshots, resized]

/-! ## Windows -/

/-- The switches a collection can account for that follows another one: those in between, and the
last one before. -/
def windowSwitches (cpu : Fin n) (before between : List (CpuEvent n τ ε)) : List (SwitchEvent τ) :=
  (switches cpu before).getLast?.toList ++ switches cpu between

/-- A CPU's switches in a longer run are those in its parts. -/
theorem switches_append (cpu : Fin n) (es fs : List (CpuEvent n τ ε)) :
    switches cpu (es ++ fs) = switches cpu es ++ switches cpu fs := List.filterMap_append

/-- A snapshot's total is what the slots in its window count. -/
theorem Accounts.snapshot_total {counters after : CpuCounters} {slots : List (Slot τ)}
    (accounts : Accounts counters slots after) (windowDuration : Duration) (cpu : ℕ) :
    (cpuSnapshot windowDuration cpu counters after).total = (slots.map Slot.total).sum := by
  simp only [CpuSnapshot.total, cpuSnapshot, Saturating.toNat_sub, accounts.idle, accounts.user,
    accounts.system, sum_total]
  omega

/-- The slots of a window are slots of the run. -/
theorem validSwitches_window {before between : List (SwitchEvent τ)}
    (valid : ValidSwitches (before ++ between)) :
    ValidSwitches (before.getLast?.toList ++ between) := by
  cases before using List.reverseRecOn with
  | nil => exact valid
  | append_singleton before last =>
    rw [List.append_assoc, List.singleton_append] at valid
    rw [List.getLast?_concat]
    refine ⟨fun event mem => valid.positive event ?_, fun slot mem => valid.slots slot ?_⟩
    · exact List.mem_append_right _ mem
    · rw [slots_append]
      exact List.mem_append_right _ mem

/-- The ledger of a CPU between two points of its switches. -/
theorem accounts_window {before between : List (SwitchEvent τ)}
    (valid : ValidSwitches (before ++ between)) :
    Accounts (run schedSwitch {} before) (slots (before.getLast?.toList ++ between))
      (run schedSwitch {} (before ++ between)) := by
  cases before using List.reverseRecOn with
  | nil => exact run_schedSwitch valid
  | append_singleton before last =>
    rw [List.append_assoc, List.singleton_append] at valid ⊢
    rw [List.getLast?_concat]
    exact run_append_accounts valid

/-- **A collection accounts for the slots that ended since the one before**, and so for no more than
the time from the last switch before that one to the last switch before it. -/
theorem cpu_window_attribution (cpu : Fin n) {before between : List (CpuEvent n τ ε)}
    (valid : ValidSwitches (switches cpu (before ++ between)))
    (none : ∀ event ∈ between, event.succeeds = false) (time : ℕ)
    (windowDuration windowDuration' : Duration) :
    ∃ snapshots snapshot,
      ((run CpuCollector.step .new
        (before ++ .collect time windowDuration .none :: between)).collect windowDuration'
          (.none : Option ε)).2 = .ok snapshots ∧
      snapshots[cpu.val]? = some snapshot ∧
      snapshot.total = ((slots (windowSwitches cpu before between)).map Slot.total).sum ∧
      snapshot.total ≤ elapsed (windowSwitches cpu before between) := by
  rw [switches_append] at valid
  have kept : (run CpuCollector.step (.new : CpuCollector n) (before ++ .collect time windowDuration
      .none :: between)).previousCpuCounters.getD cpu {} =
        run schedSwitch {} (switches cpu before) := by
    rw [run_append, run_cons, previous_run none, previous_collect, cpuCountersMap_run]
    rfl
  have ledger : (run CpuCollector.step (.new : CpuCollector n) (before ++ .collect time
      windowDuration .none :: between)).cpuCountersMap cpu =
        run schedSwitch {} (switches cpu before ++ switches cpu between) := by
    rw [cpuCountersMap_run, switches_append]
    rfl
  refine ⟨_, _, rfl, snapshots_cpu _ _ windowDuration' cpu, ?_⟩
  rw [kept, ledger, (accounts_window valid).snapshot_total]
  exact ⟨rfl, sum_total_le (validSwitches_window valid)⟩

end Collector

/-- The time of an event. -/
def CpuEvent.time {n : ℕ} {τ ε : Type} : CpuEvent n τ ε → ℕ
  | .switch _ event => event.now.toNat
  | .collect time _ _ => time

/-- The idle task runs from 1 to 150. -/
def idleBefore : List (CpuEvent 1 ℕ Unit) :=
  [.switch 0 ⟨1, ⟨1, 0, 0, 0⟩, ⟨0, 2, 0, 0⟩⟩, .collect 10 0 none]

def idleBetween : List (CpuEvent 1 ℕ Unit) :=
  [.switch 0 ⟨150, ⟨0, 2, 0, 0⟩, ⟨1, 0, 0, 0⟩⟩]

/-- The switches of the idle CPU are valid. -/
theorem idle_valid : ValidSwitches (switches 0 (idleBefore ++ idleBetween)) := by
  refine ⟨by decide, fun slot mem => ?_⟩
  have only : slot = ⟨⟨1, ⟨1, 0, 0, 0⟩, ⟨0, 2, 0, 0⟩⟩, ⟨150, ⟨0, 2, 0, 0⟩, ⟨1, 0, 0, 0⟩⟩⟩ :=
    List.mem_singleton.mp mem
  rw [only]
  exact ⟨by decide, rfl, by decide, by decide, by decide⟩

theorem cpu_window_attribution_idle :
    ∃ snapshots snapshot,
      ((run CpuCollector.step .new (idleBefore ++ .collect 100 0 none :: idleBetween)).collect 0
          (none : Option Unit)).2 = .ok snapshots ∧
      snapshots[(0 : Fin 1).val]? = some snapshot ∧
      snapshot.total = ((slots (windowSwitches 0 idleBefore idleBetween)).map Slot.total).sum ∧
      snapshot.total ≤ elapsed (windowSwitches 0 idleBefore idleBetween) :=
  cpu_window_attribution 0 idle_valid (by decide) 100 0 0

/-- **A slot that spans windows is accounted for in the last of them**: the collection at 160
reports all of the idle slot, though the one before was at 100. -/
theorem cpu_window_exceeded :
    ∃ (before between : List (CpuEvent 1 ℕ Unit)) (time time' : ℕ) (snapshots : List CpuSnapshot)
      (snapshot : CpuSnapshot),
      ValidSwitches (switches 0 (before ++ between)) ∧
      ((before ++ [CpuEvent.collect time 0 none] ++ between ++
        [CpuEvent.collect time' 0 none]).map CpuEvent.time).Pairwise (· ≤ ·) ∧
      (∀ event ∈ between, event.succeeds = false) ∧
      ((run CpuCollector.step .new (before ++ .collect time 0 none :: between)).collect 0
        (none : Option Unit)).2 = .ok snapshots ∧
      snapshots[0]? = some snapshot ∧ time' - time < snapshot.total :=
  ⟨idleBefore, idleBetween, 100, 160, _, _, idle_valid, by decide, by decide, rfl, rfl, by decide⟩

end Talia
