import Talia.Agent.Pids

/-!
# Whose process it is

A pod is looked for by its UID as a part of the cgroup file, wherever it stands there and in any
spelling. What is found is a process that mentions the UID, which need not be one of the pod: the
UID of one pod can be a part of another's, and of a container's id.

So a pod gets a process of its own exactly when no process of another shadows it
(`pods_attributed_iff`): neither the one that the runtime hints at, nor one that is listed before
all of the pod's own. `/proc` is one and the same for the whole pass here, and who a process belongs
to is given (`owner`).
-/

namespace Talia

namespace Proc

variable (proc : Proc)

/-- The pods that processes are of, where the cgroup file of a process of a pod has `pod` and the
UID, in some spelling, of that pod and of no other. -/
structure Owns (pods : List PodUid) (owner : UInt32 → Option PodUid) : Prop where
  known : ∀ pid uid, owner pid = some uid → uid ∈ pods
  mentions : ∀ pid uid, owner pid = some uid → ∃ cgroup, proc.cgroup pid = some cgroup ∧
    ∀ pod ∈ pods, (∃ spelling ∈ uidSpellings pod.asStr,
      Text.contains cgroup ("pod" ++ spelling) = true) ↔ pod = uid

variable (owner : UInt32 → Option PodUid)

/-- Each pod with a PID has one of its own, and no two pods have the same. -/
structure Attributed (infoPids : List (PodUid × Option UInt32)) : Prop where
  own : ∀ uid pid, proc.resolvePids infoPids uid = some pid → owner pid = some uid
  apart : ∀ uid uid' pid, proc.resolvePids infoPids uid = some pid →
    proc.resolvePids infoPids uid' = some pid → uid = uid'

/-- No process of another stands for the pod. -/
structure Unshadowed (uid : PodUid) (hint : Option UInt32) : Prop where
  /-- The hint does not, if it shows the pod's UID. -/
  hinted : ∀ pid, hint = some pid → proc.shows uid pid = true → owner pid = some uid
  /-- Without such a hint, each listed process of another that shows the UID comes after one of the
  pod that does. -/
  listed : (∀ pid, hint = some pid → proc.shows uid pid = false) →
    ∀ before pid after, proc.entries.filterMap Text.parseU32 = before ++ pid :: after →
      proc.shows uid pid = true → owner pid ≠ some uid →
        ∃ own ∈ before, proc.shows uid own = true ∧ owner own = some uid

/-- A hint counts if its process shows the pod. -/
theorem hinted_eq_some_iff {uid : PodUid} {hint : Option UInt32} {pid : UInt32} :
    proc.hinted uid hint = some pid ↔ hint = some pid ∧ proc.shows uid pid = true := by
  rw [hinted, Option.filter_eq_some_iff, Bool.and_comm]
  rfl

/-- It does not if there is none, or its process does not show the pod. -/
theorem hinted_eq_none_iff {uid : PodUid} {hint : Option UInt32} :
    proc.hinted uid hint = none ↔ ∀ pid, hint = some pid → proc.shows uid pid = false := by
  rw [Option.eq_none_iff_forall_ne_some]
  constructor
  · intro nothing pid given
    cases shown : proc.shows uid pid with
    | false => rfl
    | true => exact absurd (proc.hinted_eq_some_iff.mpr ⟨given, shown⟩) (nothing pid)
  · intro nothing pid found
    obtain ⟨given, shown⟩ := proc.hinted_eq_some_iff.mp found
    rw [nothing pid given] at shown
    cases shown

/-- The first process that shows a pod's UID is the pod's own when each of another comes after one
of the pod. -/
theorem firstShowing_own_iff {uid : PodUid} :
    (∀ pid, proc.firstShowing proc.entries uid = some pid → owner pid = some uid) ↔
      ∀ before pid after, proc.entries.filterMap Text.parseU32 = before ++ pid :: after →
        proc.shows uid pid = true → owner pid ≠ some uid →
          ∃ own ∈ before, proc.shows uid own = true ∧ owner own = some uid := by
  unfold firstShowing
  constructor
  · intro own before pid after split shown foreign
    cases earlier : before.find? (proc.shows uid) with
    | none =>
      have first : (proc.entries.filterMap Text.parseU32).find? (proc.shows uid) = some pid := by
        rw [split, List.find?_append, earlier, Option.none_or, List.find?_cons_of_pos shown]
      exact absurd (own pid first) foreign
    | some first =>
      refine ⟨first, List.mem_of_find?_eq_some earlier, List.find?_some earlier, own first ?_⟩
      rw [split, List.find?_append, earlier, Option.some_or]
  · intro preceded pid first
    obtain ⟨shown, before, after, split, none⟩ := List.find?_eq_some_iff_append.mp first
    by_contra foreign
    obtain ⟨own, mem, seen, -⟩ := preceded before pid after split shown foreign
    have unseen := none own mem
    rw [seen] at unseen
    cases unseen

/-- A pod by itself gets a process of its own when it is not shadowed. -/
theorem resolvePid_own_iff {uid : PodUid} {hint : Option UInt32} :
    (∀ pid, proc.resolvePid uid hint = some pid → owner pid = some uid) ↔
      proc.Unshadowed owner uid hint := by
  unfold resolvePid
  cases settled : proc.hinted uid hint with
  | some hinted =>
    obtain ⟨given, shown⟩ := proc.hinted_eq_some_iff.mp settled
    rw [Option.some_or]
    constructor
    · intro own
      refine ⟨fun pid given' _ => ?_, fun unseen => ?_⟩
      · exact own pid (given.symm.trans given')
      · rw [unseen hinted given] at shown
        cases shown
    · intro unshadowed pid same
      cases same
      exact unshadowed.hinted hinted given shown
  | none =>
    have unseen := proc.hinted_eq_none_iff.mp settled
    rw [Option.none_or, firstShowing_own_iff]
    constructor
    · intro preceded
      refine ⟨fun pid given shown => ?_, fun _ => preceded⟩
      rw [unseen pid given] at shown
      cases shown
    · intro unshadowed
      exact unshadowed.listed unseen

/-- A pod that is not asked for gets no process. -/
theorem resolvePids_of_notMem {infoPids : List (PodUid × Option UInt32)} {uid : PodUid}
    (other : uid ∉ infoPids.map Prod.fst) : proc.resolvePids infoPids uid = none := by
  obtain ⟨unset, unasked⟩ := proc.settle_notMem other (fun _ => none, [])
  rw [resolvePids]
  generalize infoPids.foldl proc.settle _ = pods at unset unasked
  obtain ⟨resolved, needScan⟩ := pods
  dsimp only at unset unasked ⊢
  split
  next => exact unset
  next =>
    rw [scanProcForUids_eq, foldl_update_eq, if_neg, unset]
    rw [unasked]
    exact List.not_mem_nil

end Proc

/-- **Pods are told apart exactly when none is shadowed.** -/
theorem pods_attributed_iff (proc : Proc) (owner : UInt32 → Option PodUid)
    {infoPids : List (PodUid × Option UInt32)} (distinct : (infoPids.map Prod.fst).Nodup) :
    proc.Attributed owner infoPids ↔
      ∀ uid hint, (uid, hint) ∈ infoPids → proc.Unshadowed owner uid hint := by
  constructor
  · intro attributed uid hint mem
    rw [← proc.resolvePid_own_iff, ← proc.resolvePids_eq distinct mem]
    exact attributed.own uid
  · intro unshadowed
    have own (uid : PodUid) (pid : UInt32) (found : proc.resolvePids infoPids uid = some pid) :
        owner pid = some uid := by
      by_cases asked : uid ∈ infoPids.map Prod.fst
      · obtain ⟨⟨_, hint⟩, mem, rfl⟩ := List.mem_map.mp asked
        rw [proc.resolvePids_eq distinct mem] at found
        exact (proc.resolvePid_own_iff owner).mpr (unshadowed _ hint mem) pid found
      · rw [proc.resolvePids_of_notMem asked] at found
        cases found
    refine ⟨own, fun uid uid' pid found found' => ?_⟩
    have same := (own uid pid found).symm.trans (own uid' pid found')
    exact Option.some.inj same

/-- One process, of the pod `12`. -/
def oneProcess : Proc where
  entries := ["7"]
  cgroup pid := if pid = 7 then some "0::/kubepods/pod12/c1" else none
  netSnmpReadable _ := true

def oneOwner (pid : UInt32) : Option PodUid := if pid = 7 then some ⟨"12"⟩ else none

/-- The process of the example is the second pod's. -/
theorem oneProcess_owns : oneProcess.Owns [⟨"2"⟩, ⟨"12"⟩] oneOwner := by
  constructor
  · intro pid uid owned
    rw [oneOwner] at owned
    split at owned
    next =>
      cases owned
      decide
    next => cases owned
  · intro pid uid owned
    rw [oneOwner] at owned
    split at owned
    next same =>
      cases owned
      subst same
      exact ⟨"0::/kubepods/pod12/c1", rfl, by decide⟩
    next => cases owned

/-- Two pods with a process each, 7 and 9, and two processes of neither: one is listed before them and
mentions the first pod, the other after them and mentions the second. -/
def fourProcesses : Proc where
  entries := ["5", "self", "7", "9", "11"]
  cgroup pid :=
    if pid = 5 then some "0::/backup-of-pod12"
    else if pid = 7 then some "0::/kubepods/pod12/c1"
    else if pid = 9 then some "0::/kubepods/pod34/c1"
    else if pid = 11 then some "0::/system/job34"
    else none
  netSnmpReadable _ := true

def fourOwners (pid : UInt32) : Option PodUid :=
  if pid = 7 then some ⟨"12"⟩ else if pid = 9 then some ⟨"34"⟩ else none

/-- The hint keeps the first pod from the process that mentions it before its own. -/
theorem pods_attributed_iff_one :
    fourProcesses.Attributed fourOwners [(⟨"12"⟩, some 7), (⟨"34"⟩, none)] := by
  refine (pods_attributed_iff fourProcesses fourOwners (by decide)).mpr fun uid hint mem => ?_
  simp only [List.mem_cons, List.not_mem_nil, or_false, Prod.mk.injEq] at mem
  rcases mem with ⟨rfl, rfl⟩ | ⟨rfl, rfl⟩
  · refine ⟨?_, fun unhinted => ?_⟩
    · rintro pid ⟨⟩ -
      rfl
    · exact absurd (unhinted 7 rfl) (by decide)
  · refine ⟨by rintro pid ⟨⟩, fun _ => (fourProcesses.firstShowing_own_iff fourOwners).mp ?_⟩
    have first : fourProcesses.firstShowing fourProcesses.entries ⟨"34"⟩ = some 9 := by decide
    rw [first]
    rintro pid ⟨⟩
    rfl

/-- **The UID of one pod is a part of another's**: both get the process of the other. -/
theorem pods_cross_attributed :
    oneProcess.Owns [⟨"2"⟩, ⟨"12"⟩] oneOwner ∧
      oneProcess.resolvePids [(⟨"2"⟩, none), (⟨"12"⟩, none)] ⟨"2"⟩ = some 7 ∧
      oneProcess.resolvePids [(⟨"2"⟩, none), (⟨"12"⟩, none)] ⟨"12"⟩ = some 7 ∧
      ¬ oneProcess.Attributed oneOwner [(⟨"2"⟩, none), (⟨"12"⟩, none)] := by
  have first : oneProcess.resolvePids [(⟨"2"⟩, none), (⟨"12"⟩, none)] ⟨"2"⟩ = some 7 := by
    rw [oneProcess.resolvePids_eq (by decide) List.mem_cons_self]
    decide
  have second : oneProcess.resolvePids [(⟨"2"⟩, none), (⟨"12"⟩, none)] ⟨"12"⟩ = some 7 := by
    rw [oneProcess.resolvePids_eq (by decide) (List.mem_cons_of_mem _ List.mem_cons_self)]
    decide
  refine ⟨oneProcess_owns, first, second, fun attributed => ?_⟩
  exact absurd (attributed.apart _ _ 7 first second) (by decide)

end Talia
