import Talia.Lib.Json
import Talia.Lib.Text

/-!
# The process that shows a pod's network

A pod's network namespace is read through a process in it. The runtime hints at one in the verbose
status of the pod's sandbox; a hint that does not check out, or is missing, is replaced by a scan of
`/proc` for a process whose cgroup mentions the pod. One scan serves all pods: it finds for each of
them what a scan for it alone would find (`resolvePids_eq`). `/proc` is as it is for the whole pass
here; a process that ends meanwhile is not covered.
-/

namespace Talia

/-- Kubernetes pod UID. -/
@[ext] structure PodUid where
  asStr : String
  deriving DecidableEq

/-! ## The runtime's hint -/

/-- The value of a key of a decoded JSON object, the last one of that name. -/
def getField (value : Serde.Content) (key : String) : Option Serde.Content :=
  match value with
  | .map entries => (entries.reverse.find? (·.1 = key)).map Prod.snd
  | _ => none

/-- An unsigned integer, as a number or as a string. -/
def asUnsigned : Serde.Content → Option ℕ
  | .int n => if 0 ≤ n ∧ n < 2 ^ 64 then some n.toNat else none
  | .str s => Text.parseUnsigned 64 s
  | _ => none

/-- The sandbox PID in verbose CRI status info. -/
def pidFromStatusInfo (info : String → Option String) : Option UInt32 :=
  let direct := ((info "pid").bind Text.parseU32).filter (0 < ·)
  direct.or do
    let nested ← Json.parseContent (← info "info")
    let pid ← asUnsigned (← getField nested "pid")
    if pid < 2 ^ 32 ∧ 0 < pid then some (UInt32.ofNat pid) else none

/-! ## What `/proc` says -/

/-- What is read of `/proc`: its entries in order, and of each process its cgroup file and whether
its `net/snmp` is a file. -/
structure Proc where
  entries : List String
  cgroup : UInt32 → Option String
  netSnmpReadable : UInt32 → Bool

/-- The spellings of a UID in a cgroup path. -/
def uidSpellings (uid : String) : List String :=
  [uid, String.ofList (uid.toList.map fun c => if c = '-' then '_' else c),
    String.ofList (uid.toList.flatMap fun c => if c = '-' then "\\x2d".toList else [c]),
    String.ofList (uid.toList.filter (· ≠ '-'))]

namespace Proc

variable (proc : Proc)

/-- The process's cgroup mentions the pod UID, in any spelling. -/
def cgroupMatchesUid (pid : UInt32) (uid : PodUid) : Bool :=
  match proc.cgroup pid with
  | some cgroup => (uidSpellings uid.asStr).any (Text.contains cgroup)
  | none => false

/-! ## One scan for all pods -/

/-- The slots of the pods that are still without a PID, at one process. -/
def scanPid (cgroup : String) (pid : UInt32) :
    List (List String) → List (Option UInt32) → ℕ → List (Option UInt32) × ℕ
  | variants :: spellings, slot :: slots, remaining =>
    let (slot, remaining) :=
      if slot.isNone && variants.any (Text.contains cgroup) && proc.netSnmpReadable pid then
        (some pid, remaining - 1)
      else (slot, remaining)
    let (slots, remaining) := scanPid cgroup pid spellings slots remaining
    (slot :: slots, remaining)
  | _, slots, remaining => (slots, remaining)

/-- The pass over the entries, until no pod is left. -/
def scanEntries (spellings : List (List String)) :
    List String → List (Option UInt32) → ℕ → List (Option UInt32)
  | [], found, _ => found
  | entry :: entries, found, remaining =>
    if remaining = 0 then found
    else
      match Text.parseU32 entry with
      | none => scanEntries spellings entries found remaining
      | some pid =>
        match proc.cgroup pid with
        | none => scanEntries spellings entries found remaining
        | some cgroup =>
          let (found, remaining) := proc.scanPid cgroup pid spellings found remaining
          scanEntries spellings entries found remaining

def scanProcForUids (uids : List PodUid) : List (PodUid × UInt32) :=
  let spellings := uids.map fun uid => uidSpellings uid.asStr
  let found := proc.scanEntries spellings proc.entries (List.replicate uids.length none) uids.length
  (uids.zip found).filterMap fun slot => slot.2.map fun pid => (slot.1, pid)

/-- The hint, if its process still shows the pod's network. -/
def hinted (uid : PodUid) (hint : Option UInt32) : Option UInt32 :=
  hint.filter fun pid => proc.netSnmpReadable pid && proc.cgroupMatchesUid pid uid

/-- A pod in the loop over the hints: its hint settles it, or it is left to the scan. -/
def settle (pods : (PodUid → Option UInt32) × List PodUid) (pod : PodUid × Option UInt32) :
    (PodUid → Option UInt32) × List PodUid :=
  match proc.hinted pod.1 pod.2 with
  | some pid => (Function.update pods.1 pod.1 (some pid), pods.2)
  | none => (pods.1, pods.2 ++ [pod.1])

/-- One PID for each pod UID, of those with a hint or without. -/
def resolvePids (infoPids : List (PodUid × Option UInt32)) : PodUid → Option UInt32 :=
  let (resolved, needScan) := infoPids.foldl proc.settle (fun _ => none, [])
  if needScan.isEmpty then resolved
  else (proc.scanProcForUids needScan).foldl
    (fun resolved (uid, pid) => Function.update resolved uid (some pid)) resolved

/-! ## A scan for each pod -/

/-- The process shows the network of the pod. -/
def shows (uid : PodUid) (pid : UInt32) : Bool :=
  proc.cgroupMatchesUid pid uid && proc.netSnmpReadable pid

/-- The first process in these entries that shows the pod's network. -/
def firstShowing (entries : List String) (uid : PodUid) : Option UInt32 :=
  (entries.filterMap Text.parseU32).find? (proc.shows uid)

/-- The PID of a pod by itself: its hint, or the first process that shows its network. -/
def resolvePid (uid : PodUid) (hint : Option UInt32) : Option UInt32 :=
  (proc.hinted uid hint).or (proc.firstShowing proc.entries uid)

/-- At one process, each slot that is empty is filled if the process shows the pod's network. -/
theorem scanPid_eq {cgroup : String} {pid : UInt32} (read : proc.cgroup pid = some cgroup)
    {uids : List PodUid} {slots : List (Option UInt32)} (length : slots.length = uids.length)
    (others : ℕ) :
    proc.scanPid cgroup pid (uids.map fun uid => uidSpellings uid.asStr) slots
        (slots.countP Option.isNone + others) =
      let filled := List.zipWith
        (fun uid slot => slot.or (if proc.shows uid pid then some pid else none)) uids slots
      (filled, filled.countP Option.isNone + others) := by
  induction uids generalizing slots others with
  | nil =>
    rw [List.length_nil, List.length_eq_zero_iff] at length
    subst length
    rfl
  | cons uid uids ih =>
    cases slots with
    | nil => cases length
    | cons slot slots =>
      have rest (others : ℕ) := ih (Nat.succ.inj length : slots.length = uids.length) others
      have matching : proc.shows uid pid =
          ((uidSpellings uid.asStr).any (Text.contains cgroup) && proc.netSnmpReadable pid) := by
        rw [shows, cgroupMatchesUid, read]
      rw [List.map_cons, scanPid, List.zipWith_cons_cons, Bool.and_assoc, ← matching,
        List.countP_cons]
      cases slot with
      | some found =>
        simp [rest others]
      | none =>
        cases proc.shows uid pid with
        | false =>
          have shifted := rest (others + 1)
          simp only [Option.isNone_none, Bool.and_false, Bool.false_eq_true, if_false, if_true,
            Option.or_none, List.countP_cons] at shifted ⊢
          rw [Nat.add_assoc, Nat.add_comm 1, shifted, Nat.add_assoc, Nat.add_comm 1]
        | true =>
          have same := rest others
          simp only [Option.isNone_none, Bool.and_self, if_true, Option.none_or,
            List.countP_cons, Option.isNone_some, Bool.false_eq_true, if_false, Nat.add_zero] at same ⊢
          rw [Nat.add_right_comm, Nat.add_sub_cancel, same]

/-- What no element changes stays. -/
theorem zipWith_eq_right {α β : Type*} {f : α → β → β} {as : List α} {bs : List β}
    (length : bs.length = as.length) (same : ∀ a, ∀ b ∈ bs, f a b = b) :
    List.zipWith f as bs = bs := by
  induction as generalizing bs with
  | nil =>
    rw [List.length_nil, List.length_eq_zero_iff] at length
    rw [length, List.zipWith_nil_right]
  | cons a as ih =>
    cases bs with
    | nil => rfl
    | cons b bs =>
      rw [List.zipWith_cons_cons, same a b List.mem_cons_self,
        ih (Nat.succ.inj length) fun a b mem => same a b (List.mem_cons_of_mem _ mem)]

/-- Two passes are one. -/
theorem zipWith_zipWith {α β : Type*} {f g : α → β → β} {as : List α} {bs : List β} :
    List.zipWith f as (List.zipWith g as bs) = List.zipWith (fun a b => f a (g a b)) as bs := by
  induction as generalizing bs with
  | nil => rfl
  | cons a as ih =>
    cases bs with
    | nil => rfl
    | cons b bs => rw [List.zipWith_cons_cons, List.zipWith_cons_cons, ih, List.zipWith_cons_cons]

/-- **A pass for all is a pass for each.** -/
theorem scanEntries_eq {uids : List PodUid} {slots : List (Option UInt32)}
    (length : slots.length = uids.length) (entries : List String) :
    proc.scanEntries (uids.map fun uid => uidSpellings uid.asStr) entries slots
        (slots.countP Option.isNone) =
      List.zipWith (fun uid slot => slot.or (proc.firstShowing entries uid)) uids slots := by
  induction entries generalizing slots with
  | nil =>
    refine (zipWith_eq_right length fun uid slot _ => ?_).symm
    exact Option.or_none
  | cons entry entries ih =>
    rw [scanEntries]
    split
    next full =>
      -- The pass ends early: no slot is empty.
      refine (zipWith_eq_right length fun uid slot mem => ?_).symm
      cases slot with
      | none => exact absurd rfl (List.countP_eq_zero.mp full none mem)
      | some pid => exact Option.some_or
    next =>
      unfold firstShowing at ih ⊢
      cases entered : Text.parseU32 entry with
      | none => simp only [List.filterMap_cons, entered, ih length]
      | some pid =>
        cases read : proc.cgroup pid with
        | none =>
          have unseen (uid : PodUid) : proc.shows uid pid = false := by
            rw [shows, cgroupMatchesUid, read]
            rfl
          simp only [List.filterMap_cons, entered, List.find?_cons, unseen, read, ih length]
        | some cgroup =>
          have filled := proc.scanPid_eq read length 0
          simp only [Nat.add_zero] at filled
          simp only [List.filterMap_cons, entered, List.find?_cons, read, filled]
          rw [ih (by simp [length]), zipWith_zipWith]
          congr 1
          funext uid slot
          cases proc.shows uid pid with
          | true => simp
          | false => simp

/-- **The scan finds for each pod the first process that shows it.** -/
theorem scanProcForUids_eq (uids : List PodUid) :
    proc.scanProcForUids uids = uids.filterMap fun uid =>
      (proc.firstShowing proc.entries uid).map fun pid => (uid, pid) := by
  have length : (List.replicate uids.length (none : Option UInt32)).length = uids.length :=
    List.length_replicate
  have found := proc.scanEntries_eq length proc.entries
  rw [List.countP_replicate] at found
  simp only [Option.isNone_none, if_true] at found
  rw [scanProcForUids, found]
  clear found length
  induction uids with
  | nil => rfl
  | cons uid uids ih =>
    rw [List.length_cons, List.replicate_succ, List.zipWith_cons_cons, List.zip_cons_cons,
      List.filterMap_cons, List.filterMap_cons, ih, Option.none_or]

/-! ## The PID of each pod -/

/-- Among the pods scanned for, the found ones get their process, the others keep theirs. -/
theorem foldl_update_eq {uids : List PodUid} {g f : PodUid → Option UInt32} (uid : PodUid) :
    (uids.filterMap fun uid => (g uid).map fun pid => (uid, pid)).foldl
        (fun f (uid, pid) => Function.update f uid (some pid)) f uid =
      if uid ∈ uids then (g uid).or (f uid) else f uid := by
  induction uids generalizing f with
  | nil => rfl
  | cons first uids ih =>
    rw [List.filterMap_cons]
    by_cases same : uid = first
    · subst same
      cases found : g uid with
      | none => simp [ih, found]
      | some pid => simp [ih, found]
    · cases g first with
      | none => simp [ih, same]
      | some pid => simp [ih, same]

/-- A pod that is not among them is left as it was. -/
theorem settle_notMem {infoPids : List (PodUid × Option UInt32)} {uid : PodUid}
    (other : uid ∉ infoPids.map Prod.fst) (pods : (PodUid → Option UInt32) × List PodUid) :
    (infoPids.foldl proc.settle pods).1 uid = pods.1 uid ∧
      (uid ∈ (infoPids.foldl proc.settle pods).2 ↔ uid ∈ pods.2) := by
  induction infoPids generalizing pods with
  | nil => exact ⟨rfl, Iff.rfl⟩
  | cons pod infoPids ih =>
    rw [List.map_cons, List.mem_cons, not_or] at other
    rw [List.foldl_cons, (ih other.2 _).1, (ih other.2 _).2, settle]
    cases proc.hinted pod.1 pod.2 with
    | none => simp [other.1]
    | some pid => simp [other.1]

/-- What the hints settle, and whom they leave to the scan. -/
theorem settle_mem {infoPids : List (PodUid × Option UInt32)}
    (distinct : (infoPids.map Prod.fst).Nodup) {uid : PodUid} {hint : Option UInt32}
    (mem : (uid, hint) ∈ infoPids) (pods : (PodUid → Option UInt32) × List PodUid) :
    (infoPids.foldl proc.settle pods).1 uid = (proc.hinted uid hint).or (pods.1 uid) ∧
      (uid ∈ (infoPids.foldl proc.settle pods).2 ↔
        uid ∈ pods.2 ∨ proc.hinted uid hint = none) := by
  induction infoPids generalizing pods with
  | nil => cases mem
  | cons pod infoPids ih =>
    rw [List.map_cons, List.nodup_cons] at distinct
    rw [List.foldl_cons]
    rcases List.mem_cons.mp mem with first | later
    · subst first
      rw [(proc.settle_notMem distinct.1 _).1, (proc.settle_notMem distinct.1 _).2, settle]
      cases proc.hinted uid hint with
      | none => simp
      | some pid => simp
    · have other : uid ≠ pod.1 := by
        intro same
        exact distinct.1 (same ▸ List.mem_map_of_mem (f := Prod.fst) later)
      rw [(ih distinct.2 later _).1, (ih distinct.2 later _).2, settle]
      cases proc.hinted pod.1 pod.2 with
      | none => simp [other]
      | some pid => simp [other]

/-- **Each pod gets the PID it would get by itself.** -/
theorem resolvePids_eq {infoPids : List (PodUid × Option UInt32)}
    (distinct : (infoPids.map Prod.fst).Nodup) {uid : PodUid} {hint : Option UInt32}
    (mem : (uid, hint) ∈ infoPids) :
    proc.resolvePids infoPids uid = proc.resolvePid uid hint := by
  obtain ⟨settled, left⟩ := proc.settle_mem distinct mem (fun _ => none, [])
  rw [resolvePids, resolvePid]
  generalize infoPids.foldl proc.settle _ = pods at settled left
  obtain ⟨resolved, needScan⟩ := pods
  simp only [Option.or_none, List.not_mem_nil, false_or] at settled left
  dsimp only
  split
  next empty =>
    rw [List.isEmpty_iff.mp empty] at left
    cases found : proc.hinted uid hint with
    | none => exact absurd (left.mpr found) List.not_mem_nil
    | some pid => rw [settled, found, Option.some_or]
  next =>
    rw [scanProcForUids_eq, foldl_update_eq, settled]
    cases found : proc.hinted uid hint with
    | none => rw [if_pos (left.mpr found), Option.or_none, Option.none_or]
    | some pid =>
      have settled : uid ∉ needScan := by
        rw [left, found]
        exact Option.some_ne_none pid
      rw [if_neg settled, Option.some_or]

end Proc

end Talia
