import Talia.Agent.Pids
import Talia.Lib.Loop

/-!
# One pass over `/proc`

The scan of `/proc` for all pods, turn by turn: a loop over the entries, and for each process a loop
over the pods, with one slot for each pod and a counter of the empty slots. The counter ends the
scan early when it is zero.

The invariant says what the slots hold at each turn (`ScanInvariant`): of each pod the first process
listed so far that shows its network, where in the loop over the pods the process at hand has been
looked at for the pods before the index only. So the counter is the number of empty slots, it is
never taken below zero, and an early end leaves no pod out (`pid_scan_is_search`).
-/

namespace Talia

open Loop

/-! ## The turns -/

/-- Where the loop over the pods is, at one process. -/
structure ScanProcess where
  cgroup : String
  pid : UInt32
  index : ℕ

structure ScanState where
  /-- The entries not yet listed. -/
  entries : List String
  found : List (Option UInt32)
  remaining : ℕ
  /-- The process at hand, if any. -/
  process : Option ScanProcess

namespace Proc

variable (proc : Proc) (uids : List PodUid)

/-- A turn of the loop over the pods. Taking the counter below zero is a fault. -/
def scanPod (s : ScanState) (p : ScanProcess) : Turn ScanState (List (Option UInt32)) :=
  match uids[p.index]? with
  | none => .next { s with process := none }
  | some uid =>
    if s.found[p.index]? = some none &&
        (uidSpellings uid.asStr).any (Text.contains p.cgroup) && proc.netSnmpReadable p.pid then
      match s.remaining with
      | 0 => .fault
      | remaining + 1 =>
        .next { s with
          found := s.found.set p.index (some p.pid)
          remaining
          process := some { p with index := p.index + 1 } }
    else .next { s with process := some { p with index := p.index + 1 } }

/-- A turn of the loop over the entries. -/
def scanEntry (s : ScanState) : Turn ScanState (List (Option UInt32)) :=
  match s.entries with
  | [] => .done s.found
  | entry :: entries =>
    if s.remaining = 0 then .done s.found
    else
      match Text.parseU32 entry with
      | none => .next { s with entries }
      | some pid =>
        match proc.cgroup pid with
        | none => .next { s with entries }
        | some cgroup => .next { s with entries, process := some ⟨cgroup, pid, 0⟩ }

def scanTurn (s : ScanState) : Turn ScanState (List (Option UInt32)) :=
  match s.process with
  | some p => proc.scanPod uids s p
  | none => proc.scanEntry s

def scanStart : ScanState :=
  ⟨proc.entries, List.replicate uids.length none, uids.length, none⟩

/-! ## What the slots hold -/

/-- Of each pod the first of some entries that shows its network. -/
def slotsAfter (visited : List String) : List (Option UInt32) :=
  uids.map (proc.firstShowing visited)

/-- The slots when the last entry has been looked at for the pods before an index. -/
def slotsAt (before : List String) (entry : String) (index : ℕ) : List (Option UInt32) :=
  proc.slotsAfter (uids.take index) (before ++ [entry]) ++
    proc.slotsAfter (uids.drop index) before

/-- What the slots hold, between processes or at one. -/
inductive SlotsHold (s : ScanState) (visited : List String) : Prop
  | between (process : s.process = none) (found : s.found = proc.slotsAfter uids visited)
  | at_ {p : ScanProcess} {before : List String} {entry : String}
    (process : s.process = some p) (split : visited = before ++ [entry])
    (numbered : Text.parseU32 entry = some p.pid) (read : proc.cgroup p.pid = some p.cgroup)
    (bound : p.index ≤ uids.length) (found : s.found = proc.slotsAt uids before entry p.index)

structure ScanInvariant (s : ScanState) (visited : List String) : Prop where
  listed : visited ++ s.entries = proc.entries
  counter : s.remaining = s.found.countP Option.isNone
  slots : proc.SlotsHold uids s visited

/-- What is left to do. -/
def scanRank (s : ScanState) : ℕ :=
  s.entries.length * (uids.length + 2) +
    match s.process with
    | some p => uids.length - p.index + 1
    | none => 0

/-- The first among more processes is the first among the earlier ones, or else among the later. -/
theorem firstShowing_append (before after : List String) (uid : PodUid) :
    proc.firstShowing (before ++ after) uid =
      (proc.firstShowing before uid).or (proc.firstShowing after uid) := by
  rw [firstShowing, List.filterMap_append, List.find?_append]
  rfl

/-- What a process adds to what was found. -/
theorem firstShowing_concat {entry : String} {p : ScanProcess}
    (numbered : Text.parseU32 entry = some p.pid) (read : proc.cgroup p.pid = some p.cgroup)
    (before : List String) (uid : PodUid) :
    proc.firstShowing (before ++ [entry]) uid = (proc.firstShowing before uid).or
      (if (uidSpellings uid.asStr).any (Text.contains p.cgroup) && proc.netSnmpReadable p.pid then
        some p.pid else none) := by
  have matching : proc.shows uid p.pid =
      ((uidSpellings uid.asStr).any (Text.contains p.cgroup) && proc.netSnmpReadable p.pid) := by
    rw [shows, cgroupMatchesUid, read]
  rw [firstShowing_append, ← matching, firstShowing, firstShowing, List.filterMap_cons, numbered]
  congr 1
  cases shown : proc.shows uid p.pid <;> simp [shown]

/-- An entry that is no process, or one whose cgroup cannot be read, adds nothing. -/
theorem firstShowing_concat_of_none {entry : String}
    (unread : ∀ pid, Text.parseU32 entry = some pid → proc.cgroup pid = none)
    (before : List String) (uid : PodUid) :
    proc.firstShowing (before ++ [entry]) uid = proc.firstShowing before uid := by
  have nothing : proc.firstShowing [entry] uid = none := by
    rw [firstShowing, List.find?_eq_none]
    intro pid mem
    rw [List.mem_filterMap] at mem
    obtain ⟨listed, single, numbered⟩ := mem
    rw [List.mem_singleton.mp single] at numbered
    rw [shows, cgroupMatchesUid, unread pid numbered]
    simp
  rw [firstShowing_append, nothing, Option.or_none]

/-- Before its first pod an entry has changed nothing. -/
theorem slotsAt_zero (before : List String) (entry : String) :
    proc.slotsAt uids before entry 0 = proc.slotsAfter uids before := rfl

/-- After its last pod it is done. -/
theorem slotsAt_length (before : List String) (entry : String) :
    proc.slotsAt uids before entry uids.length = proc.slotsAfter uids (before ++ [entry]) := by
  rw [slotsAt, List.take_length, List.drop_length]
  exact List.append_nil _

/-- Going on by one pod changes the slot of that pod alone. -/
theorem slotsAt_split {uids : List PodUid} {index : ℕ} {uid : PodUid}
    (at_ : uids[index]? = some uid) (before : List String) (entry : String) :
    ∃ front back : List (Option UInt32), front.length = index ∧
      proc.slotsAt uids before entry index = front ++ proc.firstShowing before uid :: back ∧
      proc.slotsAt uids before entry (index + 1) =
        front ++ proc.firstShowing (before ++ [entry]) uid :: back := by
  obtain ⟨bound, here⟩ := List.getElem?_eq_some_iff.mp at_
  refine ⟨proc.slotsAfter (uids.take index) (before ++ [entry]),
    proc.slotsAfter (uids.drop (index + 1)) before, ?_, ?_, ?_⟩
  · rw [slotsAfter, List.length_map, List.length_take, Nat.min_eq_left (Nat.le_of_lt bound)]
  · rw [slotsAt, List.drop_eq_getElem_cons bound, here]
    rfl
  · rw [slotsAt, List.take_succ_eq_append_getElem bound, here, slotsAfter, List.map_append,
      List.append_assoc]
    rfl

/-- A turn at a pod goes on with the next one, and fills the slot if it has to be. -/
theorem scanPod_keeps {s : ScanState} {p : ScanProcess} {before : List String} {entry : String}
    (counter : s.remaining = s.found.countP Option.isNone)
    (numbered : Text.parseU32 entry = some p.pid) (read : proc.cgroup p.pid = some p.cgroup)
    (found : s.found = proc.slotsAt uids before entry p.index) {uid : PodUid}
    (at_ : uids[p.index]? = some uid) :
    ∃ slots remaining, proc.scanPod uids s p = .next { s with
        found := slots, remaining, process := some { p with index := p.index + 1 } } ∧
      remaining = slots.countP Option.isNone ∧
      slots = proc.slotsAt uids before entry (p.index + 1) := by
  obtain ⟨front, back, length, now, later⟩ := proc.slotsAt_split at_ before entry
  have adds := proc.firstShowing_concat numbered read before uid
  have slot : s.found[p.index]? = some (proc.firstShowing before uid) := by
    rw [found, now, ← length, List.getElem?_append_right (Nat.le_refl _), Nat.sub_self]
    rfl
  rw [scanPod, at_]
  dsimp only
  rw [slot, Bool.and_assoc]
  generalize matched : ((uidSpellings uid.asStr).any (Text.contains p.cgroup) &&
    proc.netSnmpReadable p.pid) = shown at adds
  rw [found, now, List.countP_append, List.countP_cons] at counter
  cases known : proc.firstShowing before uid with
  | some pid =>
    -- The slot is filled.
    rw [known, Option.some_or] at adds
    refine ⟨s.found, s.remaining, ?_, ?_, ?_⟩
    · simp
    · rw [found, now, counter, List.countP_append, List.countP_cons]
    · rw [found, now, later, adds, known]
  | none =>
    rw [known, Option.none_or] at adds
    cases shown with
    | false =>
      refine ⟨s.found, s.remaining, ?_, ?_, ?_⟩
      · simp
      · rw [found, now, counter, List.countP_append, List.countP_cons]
      · rw [found, now, later, adds, known]
        simp
    | true =>
      have empty : s.remaining = front.countP Option.isNone + back.countP Option.isNone + 1 := by
        rw [counter, known]
        simp [Nat.add_assoc]
      refine ⟨s.found.set p.index (some p.pid), s.remaining - 1, ?_, ?_, ?_⟩
      · rw [empty]
        simp
      · rw [found, now, known, ← length]
        simp [List.countP_append, empty]
      · rw [found, now, later, adds, known, ← length]
        simp

/-- When no slot is empty, no later entry changes any. -/
theorem slotsAfter_of_full {s : ScanState} {visited : List String}
    (listed : visited ++ s.entries = proc.entries) (counter : s.remaining = s.found.countP Option.isNone)
    (found : s.found = proc.slotsAfter uids visited) (full : s.remaining = 0) :
    s.found = proc.slotsAfter uids proc.entries := by
  rw [found, ← listed]
  refine List.map_congr_left fun uid mem => ?_
  rw [full, found, eq_comm, List.countP_eq_zero] at counter
  have settled := counter _ (List.mem_map_of_mem mem)
  rw [firstShowing_append]
  cases known : proc.firstShowing visited uid with
  | none =>
    rw [known] at settled
    exact absurd rfl settled
  | some pid => rfl

/-- A turn at an entry goes on with the process it is of, or with the next entry; or it ends. -/
theorem scanEntry_keeps {s : ScanState} {visited : List String}
    (listed : visited ++ s.entries = proc.entries)
    (counter : s.remaining = s.found.countP Option.isNone) (process : s.process = none)
    (found : s.found = proc.slotsAfter uids visited) :
    (proc.scanEntry s).Keeps
      (fun s' => (∃ visited', proc.ScanInvariant uids s' visited') ∧
        scanRank uids s' < scanRank uids s)
      (· = proc.slotsAfter uids proc.entries) := by
  have rank : scanRank uids s = s.entries.length * (uids.length + 2) := by
    rw [scanRank, process]
    rfl
  cases entries : s.entries with
  | nil =>
    rw [scanEntry, entries]
    show s.found = _
    rw [found, ← listed, entries, List.append_nil]
  | cons entry rest =>
    have advanced : (visited ++ [entry]) ++ rest = proc.entries := by
      rw [← listed, entries, List.append_assoc]
      rfl
    have cost : (rest.length + 1) * (uids.length + 2) =
        rest.length * (uids.length + 2) + uids.length + 2 := by
      rw [Nat.add_mul, Nat.one_mul, Nat.add_assoc]
    rw [entries, List.length_cons, cost] at rank
    rw [scanEntry, entries]
    dsimp only
    split
    next full => exact proc.slotsAfter_of_full uids listed counter found full
    next =>
      have skipped (unread : ∀ pid, Text.parseU32 entry = some pid → proc.cgroup pid = none) :
          proc.ScanInvariant uids { s with entries := rest } (visited ++ [entry]) := by
        refine ⟨advanced, counter, .between process ?_⟩
        show s.found = _
        rw [found]
        exact List.map_congr_left fun uid _ =>
          (proc.firstShowing_concat_of_none unread visited uid).symm
      have lower : scanRank uids { s with entries := rest } < scanRank uids s := by
        rw [rank, scanRank]
        simp only [process]
        omega
      split
      next unnumbered =>
        rw [Turn.keeps_next]
        refine ⟨⟨_, skipped fun pid numbered => ?_⟩, lower⟩
        rw [unnumbered] at numbered
        cases numbered
      next pid numbered =>
        split
        next unread =>
          rw [Turn.keeps_next]
          refine ⟨⟨_, skipped fun pid' numbered' => ?_⟩, lower⟩
          rw [numbered, Option.some.injEq] at numbered'
          rw [← numbered', unread]
        next cgroup read =>
          rw [Turn.keeps_next]
          refine ⟨⟨visited ++ [entry], advanced, counter,
            .at_ rfl rfl numbered read (Nat.zero_le _) ?_⟩, ?_⟩
          · rw [slotsAt_zero]
            exact found
          · rw [rank, scanRank]
            dsimp only
            omega

/-- **Each turn keeps the invariant** and leaves less to do, and the scan ends with what a search
for each pod finds. -/
theorem scan_rule : Rule (proc.scanTurn uids) (fun s => ∃ visited, proc.ScanInvariant uids s visited)
    (scanRank uids) (· = proc.slotsAfter uids proc.entries) := by
  refine ⟨fun s holds => ?_⟩
  obtain ⟨visited, listed, counter, slots⟩ := holds
  cases slots with
  | between process found =>
    simp only [scanTurn, process]
    exact proc.scanEntry_keeps uids listed counter process found
  | @at_ p before entry process split numbered read bound found =>
    have rank : scanRank uids s =
        s.entries.length * (uids.length + 2) + (uids.length - p.index + 1) := by
      rw [scanRank, process]
    simp only [scanTurn, process]
    cases at_ : uids[p.index]? with
    | none =>
      have last : p.index = uids.length :=
        Nat.le_antisymm bound (List.getElem?_eq_none_iff.mp at_)
      rw [scanPod, at_, Turn.keeps_next]
      refine ⟨⟨visited, listed, counter, .between rfl ?_⟩, ?_⟩
      · rw [split, ← slotsAt_length, ← last]
        exact found
      · rw [rank]
        exact Nat.lt_add_of_pos_right (Nat.succ_pos _)
    | some uid =>
      obtain ⟨slots, remaining, turn, counted, filled⟩ :=
        proc.scanPod_keeps uids counter numbered read found at_
      have inside := (List.getElem?_eq_some_iff.mp at_).1
      rw [turn, Turn.keeps_next]
      refine ⟨⟨visited, listed, counted, .at_ rfl split numbered read inside filled⟩, ?_⟩
      rw [rank]
      show s.entries.length * (uids.length + 2) + (uids.length - (p.index + 1) + 1) < _
      omega

/-- At first no slot is filled, and all pods are pending. -/
theorem scanStart_invariant : proc.ScanInvariant uids (proc.scanStart uids) [] := by
  refine ⟨rfl, ?_, .between rfl ?_⟩
  · show uids.length = (List.replicate uids.length (none : Option UInt32)).countP Option.isNone
    rw [List.countP_replicate]
    rfl
  · show List.replicate uids.length none = uids.map (proc.firstShowing [])
    refine (List.eq_replicate_iff.mpr ⟨List.length_map _, fun slot mem => ?_⟩).symm
    obtain ⟨uid, -, rfl⟩ := List.mem_map.mp mem
    rfl

/-- The filled slots are the pods that were found. -/
theorem filterMap_zip_map (g : PodUid → Option UInt32) :
    (uids.zip (uids.map g)).filterMap (fun slot => slot.2.map fun pid => (slot.1, pid)) =
      uids.filterMap fun uid => (g uid).map fun pid => (uid, pid) := by
  induction uids with
  | nil => rfl
  | cons uid uids ih => rw [List.map_cons, List.zip_cons_cons, List.filterMap_cons, ih]; rfl

/-- **One pass is a search for each pod**: the pass gives each pod the first listed process that
shows its network, and no pod without one anything. At each turn the counter is the number of empty
slots, and it is not taken below zero; when it ends the pass early, all slots are filled, and with
what they would be filled with in the end. -/
theorem pid_scan_is_search :
    (∀ uid pid, (uid, pid) ∈ proc.scanProcForUids uids ↔
      uid ∈ uids ∧ proc.firstShowing proc.entries uid = some pid) ∧
    (proc.scanProcForUids uids).map Prod.fst =
      uids.filter (fun uid => (proc.firstShowing proc.entries uid).isSome) ∧
    (∀ s, Reaches (proc.scanTurn uids) (proc.scanStart uids) s →
      s.remaining = s.found.countP Option.isNone ∧
      proc.scanTurn uids s ≠ .fault ∧
      (s.process = none → s.remaining = 0 →
        none ∉ s.found ∧ s.found = uids.map (proc.firstShowing proc.entries))) ∧
    (∃ found, found = uids.map (proc.firstShowing proc.entries) ∧
      (uids.zip found).filterMap (fun slot => slot.2.map fun pid => (slot.1, pid)) =
        proc.scanProcForUids uids ∧
      ∀ turns, proc.entries.length * (uids.length + 2) < turns →
        run (proc.scanTurn uids) turns (proc.scanStart uids) = some found) := by
  have start : ∃ visited, proc.ScanInvariant uids (proc.scanStart uids) visited :=
    ⟨[], proc.scanStart_invariant uids⟩
  refine ⟨?_, ?_, ?_, ?_⟩
  · intro uid pid
    rw [scanProcForUids_eq, List.mem_filterMap]
    constructor
    · intro found
      obtain ⟨asked, mem, found⟩ := found
      obtain ⟨first, known, same⟩ := Option.map_eq_some_iff.mp found
      cases same
      exact ⟨mem, known⟩
    · intro known
      exact ⟨uid, known.1, by rw [known.2]; rfl⟩
  · rw [scanProcForUids_eq, List.map_filterMap, ← List.filterMap_eq_filter]
    refine List.filterMap_congr fun uid _ => ?_
    cases known : proc.firstShowing proc.entries uid with
    | none => simp [Option.guard, known]
    | some pid => simp [Option.guard, known]
  · intro s reached
    obtain ⟨visited, listed, counter, slots⟩ := (proc.scan_rule uids).of_reaches start reached
    refine ⟨counter, (proc.scan_rule uids).not_fault start reached, fun process full => ?_⟩
    cases slots with
    | between _ found =>
      refine ⟨fun empty => ?_, proc.slotsAfter_of_full uids listed counter found full⟩
      rw [full, eq_comm, List.countP_eq_zero] at counter
      exact counter none empty rfl
    | at_ other =>
      rw [process] at other
      cases other
  · obtain ⟨found, known, ends⟩ := (proc.scan_rule uids).ends start
    refine ⟨found, known, ?_, ends⟩
    rw [known, scanProcForUids_eq, slotsAfter, filterMap_zip_map]

/-- What is searched for: a UID as it is, with underscores, with systemd's escapes, and without
dashes. -/
example : uidSpellings "6f-1a" = ["6f-1a", "6f_1a", "6f\\x2d1a", "6f1a"] := by decide

end Proc

end Talia
