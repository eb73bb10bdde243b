import Talia.Agent.Tcp
import Talia.Agent.Worker

/-!
# Whether an outage of discovery is taken for a disappearance

The TCP provider over pod discovery: a collection submits a job, waits for its reply, and reads the
pods it lists. What the provider knows of an outage is whether the round failed; a pod that is not
listed in a round that did not fail has disappeared. A pass that loses the pod's listing, its status
or its PID, while another socket lists, is such a round: the pod's baseline is dropped, and what it
counted since is never emitted (`outage_loses`). As long as each pass loses the pod only together
with everything else (`Whole`), what is emitted for the pod adds up (`outage_accounting`).

It is not shown that every other run loses counts: a pass that loses a pod without a baseline loses
nothing.
-/

namespace Talia

open Transition

/-! ## The provider over discovery -/

/-- The provider, and the call of `refresh` its collection waits for. -/
structure TcpCollector where
  discovery : PodDiscovery
  distinct : discovery.Distinct
  waiting : Option ℕ
  provider : TcpProvider

namespace TcpCollector

/-- The provider with its worker, if the worker's runtime was built. -/
def new (runtime : Bool) : TcpCollector where
  discovery := PodDiscovery.new .all runtime
  distinct := fun _ _ replied => nomatch replied
  waiting := none
  provider := TcpProvider.new

inductive Event where
  | reconfigure (criSocket : String)
  /-- A collection begins: its call of `refresh` submits a job. -/
  | start
  /-- The worker serves a job. -/
  | serve (around : Surroundings)
  /-- The call receives its reply, and the pods listed are read. -/
  | finish (read : PodInfo → Option TcpSnapshot) (timestamp : SystemTime)
  /-- The call gives up. -/
  | giveUp

/-- A step of discovery. -/
def advance (s : TcpCollector) (e : PodDiscovery.Event) : TcpCollector :=
  { s with discovery := s.discovery.step e, distinct := PodDiscovery.distinct_step s.distinct e }

/-- The round of a reply. -/
def roundOf (s : TcpCollector) (call : ℕ) (read : PodInfo → Option TcpSnapshot)
    (timestamp : SystemTime) : Option Round :=
  match replied : s.discovery.replies call with
  | none => none
  | some (.error error) => some (.error error)
  | some (.ok pods) =>
    some (.ok ⟨pods.map fun pod => ⟨pod, read pod⟩, timestamp, by
      rw [List.map_map]
      exact s.distinct call pods replied⟩)

/-- The round a step ends. -/
def round (s : TcpCollector) (e : Event) : Option Round :=
  match e, s.waiting with
  | .finish read timestamp, some call => s.roundOf call read timestamp
  | .giveUp, some _ => some (.error .refreshTimeout)
  | _, _ => none

def step (s : TcpCollector) (e : Event) : TcpCollector :=
  match e, s.waiting with
  | .reconfigure criSocket, none => s.advance (.setSelection (.parse criSocket))
  | .start, none => { s.advance .refresh with waiting := some s.discovery.sent }
  | .serve around, _ => s.advance (.serve around)
  | .finish read timestamp, some call =>
    match s.roundOf call read timestamp with
    | some round =>
      { s.advance (.receive call) with waiting := none, provider := s.provider.step round }
    | none => s
  | .giveUp, some call =>
    { s.advance (.giveUp call) with
      waiting := none
      provider := s.provider.step (.error .refreshTimeout) }
  | _, _ => s

/-- The rounds of a run. -/
def rounds (s : TcpCollector) (es : List Event) : List Round := outputs step round s es

/-- The provider makes a step for each round that ends, and no other. -/
theorem provider_step (s : TcpCollector) (e : Event) :
    (s.step e).provider = (s.round e).elim s.provider s.provider.step := by
  unfold step round
  cases e with
  | reconfigure criSocket => cases s.waiting <;> rfl
  | start => cases s.waiting <;> rfl
  | serve around => cases s.waiting <;> rfl
  | giveUp => cases s.waiting <;> rfl
  | finish read timestamp =>
    cases s.waiting with
    | none => rfl
    | some call =>
      dsimp only
      cases s.roundOf call read timestamp <;> rfl

/-- What a step emits: the samples of the round it ends, for the provider as it is then. -/
def samples (s : TcpCollector) (e : Event) : Option (List Sample) :=
  (s.round e).map s.provider.samples

/-- All samples of a run. -/
def emitted (s : TcpCollector) (es : List Event) : List Sample :=
  (outputs step samples s es).flatten

/-- **A run emits what the provider emits on its rounds.** -/
theorem emitted_rounds (s : TcpCollector) (es : List Event) :
    s.emitted es = s.provider.emitted (s.rounds es) := by
  rw [emitted, TcpProvider.emitted]
  congr 1
  refine outputs_refines (R := fun s t => s.provider = t) (C := fun _ _ => True) ?_ ?_ rfl
    (stepsMeet_true step s es)
  · intro s t e same _
    subst same
    exact provider_step s e
  · intro s t e same _
    subst same
    exact Option.map_eq_bind

end TcpCollector

/-! ## A pod that stays -/

section Pod

open Surroundings Meter

variable {uid : PodUid} {socket : PathBuf} {pid : UInt32}

/-- The pod is ready on one socket, has a network of its own and one PID: so the runtime and `/proc`
say, whenever they answer. -/
structure Stays (uid : PodUid) (socket : PathBuf) (pid : UInt32) (around : Surroundings) : Prop where
  listed : ∀ items, around.lists socket = some items → ∃ item ∈ items, item.Lists uid
  elsewhere : ∀ other items, around.lists other = some items →
    ∀ item ∈ items, item.Lists uid → other = socket
  ownNetwork : ∀ response, around.status uid = some response → response.hostNetwork = false
  samePid : ∀ response found, around.status uid = some response →
    around.proc.resolvePid uid (pidFromStatusInfo response.info) = some found → found = pid

/-- A pass finds the pod: its socket is dialed and lists, its status call succeeds and its PID
resolves. -/
structure Finds (uid : PodUid) (socket : PathBuf) (around : Surroundings)
    (clients : List CriClient) : Prop where
  dialed : ∃ client ∈ clients, client.socket = socket
  lists : (around.lists socket).isSome
  resolved : ∃ response, around.status uid = some response ∧
    (around.proc.resolvePid uid (pidFromStatusInfo response.info)).isSome

/-- What is answered under the pod's UID is under its PID. -/
theorem pid_of_answered {around : Surroundings} (stays : Stays uid socket pid around)
    {selection : SocketSelection} {clients : List CriClient} {pods : List PodInfo}
    (answered : (around.refreshAsync selection clients).result = .ok pods) {pod : PodInfo}
    (mem : pod ∈ pods) (own : pod.uid = uid) : pod.pid = pid := by
  have ends := refreshAsync_ends around selection clients
  generalize around.refreshAsync selection clients = pass at answered ends
  cases ends with
  | undialed failed => cases answered
  | outage dialed silent => cases answered
  | listed dialed responding =>
    cases answered
    obtain ⟨entry, -, found⟩ := List.mem_filterMap.mp mem
    obtain ⟨response, admitted, found⟩ := Option.bind_eq_some_iff.mp found
    obtain ⟨pid', resolved, rfl⟩ := Option.map_eq_some_iff.mp found
    obtain ⟨_, -, admitted⟩ := Option.bind_eq_some_iff.mp admitted
    have status := (Option.filter_eq_some_iff.mp admitted).1
    change entry.1 = uid at own
    rw [own] at status resolved
    exact stays.samePid response pid' status resolved

/-- **A pass that finds the pod lists it**, when it answers. -/
theorem listed_of_finds {around : Surroundings} (stays : Stays uid socket pid around)
    {selection : SocketSelection} {clients : List CriClient} {pods : List PodInfo}
    (answered : (around.refreshAsync selection clients).result = .ok pods)
    (finds : Finds uid socket around (around.ensureClients selection clients).clients) :
    ∃ pod ∈ pods, pod.uid = uid := by
  have ends := refreshAsync_ends around selection clients
  generalize around.refreshAsync selection clients = pass at answered ends
  generalize around.ensureClients selection clients = ensured at finds ends
  cases ends with
  | undialed failed => cases answered
  | outage dialed silent => cases answered
  | listed dialed responding =>
    cases answered
    obtain ⟨client, kept, own⟩ := finds.dialed
    obtain ⟨items, lists⟩ := Option.isSome_iff_exists.mp finds.lists
    obtain ⟨response, status, resolves⟩ := finds.resolved
    obtain ⟨found, resolved⟩ := Option.isSome_iff_exists.mp resolves
    obtain ⟨item, mem, itemLists⟩ := stays.listed items lists
    -- The pod is among the sandboxes visited, under its own socket.
    have listed : uid ∈ (around.visits ensured.clients).map Prod.fst := by
      rw [visits, (((around.order _).2).map Prod.fst).mem_iff]
      exact mem_found kept (by rw [own]; exact lists) mem itemLists
    obtain ⟨entry, visited, same⟩ := List.mem_map.mp listed
    obtain ⟨items', lists', item', mem', -, listsUid⟩ :=
      (found_visits ensured.clients).listed entry visited
    rw [same] at listsUid
    have onSocket := stays.elsewhere _ _ lists' _ mem' listsUid
    -- Its client has listed, so its status is asked for.
    have responds : client ∈ around.responding ensured.clients := by
      refine List.mem_filter.mpr ⟨kept, ?_⟩
      rw [own]
      exact finds.lists
    have asked : (clientFor (around.responding ensured.clients) entry.2.socket).isSome := by
      rw [clientFor_eq, List.findIdx?_isSome, List.any_eq_true]
      exact ⟨client, responds, decide_eq_true (own.trans onSocket.symm)⟩
    obtain ⟨index, asked⟩ := Option.isSome_iff_exists.mp asked
    have answers : around.admitted (around.responding ensured.clients) entry = some response := by
      rw [admitted, asked, Option.bind_some, same, status, Option.filter_some,
        stays.ownNetwork response status]
      rfl
    refine ⟨⟨entry.1, entry.2.name, entry.2.namespaceName, found⟩, ?_, same⟩
    refine List.mem_filterMap.mpr ⟨entry, visited, ?_⟩
    rw [podOf, answers, Option.bind_some, same, resolved, Option.map_some]

namespace TcpCollector

/-- A job that answers finds the pod, if the step serves one: either its time is over, or none of its
clients lists, or the pod is found. -/
def Whole (uid : PodUid) (socket : PathBuf) (s : TcpCollector) (e : Event) : Prop :=
  ∀ around job jobs worker, e = .serve around → s.discovery.jobs = job :: jobs →
    s.discovery.worker = some worker →
    let clients := (around.ensureClients job.selection (worker.start job.selection)).clients
    (∃ n, around.timeout = some n ∧ n <
        (around.refreshAsync job.selection (worker.start job.selection)).requests.length) ∨
      (∀ client ∈ clients, around.lists client.socket = none) ∨ Finds uid socket around clients

/-- What is answered lists the pod under its PID. -/
theorem answer_lists {s : TcpCollector} {around : Surroundings} {job : DiscoveryJob}
    {jobs : List DiscoveryJob} (stays : Stays uid socket pid around)
    (whole : Whole uid socket s (.serve around)) (queue : s.discovery.jobs = job :: jobs)
    {pods : List PodInfo} (answered : s.discovery.answer around job = .ok pods) :
    (∃ pod ∈ pods, pod.uid = uid) ∧ ∀ pod ∈ pods, pod.uid = uid → pod.pid = pid := by
  rw [PodDiscovery.answer] at answered
  cases found : s.discovery.worker with
  | none =>
    rw [found] at answered
    cases answered
  | some worker =>
    rw [found] at answered
    dsimp only at answered
    have ends := refreshAsync_ends around job.selection (worker.start job.selection)
    have uncut := Worker.pass_ok answered
    rw [uncut] at answered
    refine ⟨?_, fun pod mem own => pid_of_answered stays answered mem own⟩
    rcases whole around job jobs worker rfl queue found with ⟨n, ends', early⟩ | silent | finds
    · have cut : (worker.pass around job.selection).result = .error .refreshTimeout := by
        rw [Worker.pass, ends']
        dsimp only
        rw [if_pos early]
      rw [uncut, answered] at cut
      cases cut
    · generalize around.refreshAsync job.selection (worker.start job.selection) = pass
        at answered ends
      cases ends with
      | undialed failed => cases answered
      | outage dialed silent => cases answered
      | listed dialed responding =>
        refine absurd (List.filter_eq_nil_iff.mpr fun client mem => ?_) responding
        rw [silent client mem]
        exact Bool.false_ne_true
    · exact listed_of_finds stays answered finds

/-- Every reply that lists pods lists the pod, under its PID. -/
def Lists (uid : PodUid) (pid : UInt32) (s : TcpCollector) : Prop :=
  ∀ call pods, s.discovery.replies call = some (.ok pods) →
    (∃ pod ∈ pods, pod.uid = uid) ∧ ∀ pod ∈ pods, pod.uid = uid → pod.pid = pid

/-- Discovery makes a step or none, and serves a job only when the provider's step does. -/
theorem discovery_step (s : TcpCollector) (e : Event) :
    (s.step e).discovery = s.discovery ∨ ∃ e', (s.step e).discovery = s.discovery.step e' ∧
      ∀ around, e' = .serve around → e = .serve around := by
  unfold step
  cases e with
  | reconfigure criSocket =>
    cases s.waiting with
    | none => exact .inr ⟨.setSelection (.parse criSocket), rfl, fun around h => nomatch h⟩
    | some call => exact .inl rfl
  | start =>
    cases s.waiting with
    | none => exact .inr ⟨.refresh, rfl, fun around h => nomatch h⟩
    | some call => exact .inl rfl
  | serve around =>
    refine .inr ⟨.serve around, by cases s.waiting <;> rfl, fun around' same => ?_⟩
    cases same
    rfl
  | finish read timestamp =>
    cases s.waiting with
    | none => exact .inl rfl
    | some call =>
      dsimp only
      cases s.roundOf call read timestamp with
      | none => exact .inl rfl
      | some round => exact .inr ⟨.receive call, rfl, fun around h => nomatch h⟩
  | giveUp =>
    cases s.waiting with
    | none => exact .inl rfl
    | some call => exact .inr ⟨.giveUp call, rfl, fun around h => nomatch h⟩

/-- A whole step keeps every reply listing the pod. -/
theorem lists_step {s : TcpCollector} {e : Event} (lists : Lists uid pid s)
    (stays : ∀ around, e = .serve around → Stays uid socket pid around)
    (whole : Whole uid socket s e) : Lists uid pid (s.step e) := by
  intro call pods replied
  rcases discovery_step s e with same | ⟨e', stepped, serve⟩
  · rw [same] at replied
    exact lists call pods replied
  · rw [stepped] at replied
    by_cases before : s.discovery.replies call = some (.ok pods)
    · exact lists call pods before
    · obtain ⟨around, job, jobs, rfl, queue, -, answered⟩ :=
        PodDiscovery.replies_step before replied
      have served := serve around rfl
      subst served
      exact answer_lists (stays around rfl) whole queue answered.symm

/-- The step reads this snapshot of the pod. -/
def Event.Reads (uid : PodUid) (e : Event) (snapshot : TcpSnapshot) : Prop :=
  ∃ read timestamp pod, e = .finish read timestamp ∧ pod.uid = uid ∧ read pod = some snapshot

/-- A round ends when its call gives up, or receives its reply. -/
theorem round_eq_some {s : TcpCollector} {e : Event} {round : Round}
    (ended : s.round e = some round) :
    round = .error .refreshTimeout ∨ ∃ read timestamp call,
      e = .finish read timestamp ∧ s.roundOf call read timestamp = some round := by
  unfold TcpCollector.round at ended
  split at ended
  next read timestamp call _ => exact .inr ⟨read, timestamp, call, rfl, ended⟩
  next => exact .inl (Option.some.inj ended).symm
  next => cases ended

/-- **The pod does not disappear**: a round finds it silent, or reads it under its PID. -/
theorem observation_round {s : TcpCollector} {e : Event} {round : Round} (lists : Lists uid pid s)
    (ended : s.round e = some round) :
    observation uid round = .silent ∨ ∃ snapshot, observation uid round = .read ⟨pid, snapshot⟩ ∧
      e.Reads uid snapshot := by
  rcases round_eq_some ended with rfl | ⟨read, timestamp, call, rfl, replied⟩
  · exact .inl rfl
  unfold roundOf at replied
  split at replied
  next => cases replied
  next => exact .inl (by rw [← Option.some.inj replied]; rfl)
  next pods reply =>
    rw [← Option.some.inj replied]
    obtain ⟨⟨pod, mem, own⟩, samePid⟩ := lists call pods reply
    rw [observation]
    dsimp only
    cases found : (pods.map fun pod => (⟨pod, read pod⟩ : PodReading)).find? (·.pod.uid = uid) with
    | none =>
      refine absurd (decide_eq_true own) (List.find?_eq_none.mp found ⟨pod, read pod⟩ ?_)
      exact List.mem_map_of_mem mem
    | some reading =>
      obtain ⟨pod', mem', rfl⟩ := List.mem_map.mp (List.mem_of_find?_eq_some found)
      have own' : pod'.uid = uid := by simpa using List.find?_some found
      dsimp only [PodReading.baseline]
      cases readable : read pod' with
      | none => exact .inl rfl
      | some snapshot =>
        refine .inr ⟨snapshot, ?_, read, timestamp, pod', rfl, own', readable⟩
        rw [← samePid pod' mem' own']
        rfl

/-- In order of the run, what is read of the pod does not decrease. -/
def NonDecreasing (uid : PodUid) (es : List Event) : Prop :=
  es.Pairwise fun e e' => ∀ a b, e.Reads uid a → e'.Reads uid b →
    ∀ counter : TcpCounter, counter.value a ≤ counter.value b

/-- **The rounds of a run are a steady stretch of the pod.** -/
theorem steady_rounds {s : TcpCollector} {es : List Event} {baseline : Option PodBaseline}
    (lists : Lists uid pid s)
    (stays : ∀ around, .serve around ∈ es → Stays uid socket pid around)
    (whole : StepsMeet step (Whole uid socket) s es) (nonDecreasing : NonDecreasing uid es)
    (before : ∀ first, baseline = some first → first.pid = pid ∧ ∀ e ∈ es, ∀ b, e.Reads uid b →
      ∀ counter : TcpCounter, counter.value first.snapshot ≤ counter.value b) :
    StepsMeet observe (Steady PodBaseline.Follows) baseline
      ((s.rounds es).map (observation uid)) := by
  induction es generalizing s baseline with
  | nil => exact stepsMeet_nil _ _ _
  | cons e es ih =>
    obtain ⟨head, tail⟩ := stepsMeet_cons.mp whole
    obtain ⟨later, rest⟩ := List.pairwise_cons.mp nonDecreasing
    have next : Lists uid pid (s.step e) := by
      refine lists_step lists (fun around served => stays around ?_) head
      rw [served]
      exact List.mem_cons_self
    have stays' : ∀ around, .serve around ∈ es → Stays uid socket pid around :=
      fun around mem => stays around (List.mem_cons_of_mem e mem)
    have before' : ∀ first, baseline = some first → first.pid = pid ∧ ∀ e ∈ es, ∀ b,
        e.Reads uid b → ∀ counter : TcpCounter,
          counter.value first.snapshot ≤ counter.value b := by
      intro first known
      obtain ⟨same, grown⟩ := before first known
      exact ⟨same, fun e' mem => grown e' (List.mem_cons_of_mem e mem)⟩
    rw [rounds, outputs]
    cases ended : s.round e with
    | none => exact ih next stays' tail rest before'
    | some round =>
      rw [Option.toList_some, List.singleton_append, List.map_cons, stepsMeet_cons]
      rcases observation_round lists ended with silent | ⟨snapshot, read, reads⟩
      · rw [silent]
        exact ⟨trivial, ih next stays' tail rest before'⟩
      · rw [read]
        constructor
        · intro first known
          obtain ⟨same, grown⟩ := before first known
          exact ⟨same, snapshotReset_eq_false_iff.mpr (grown e List.mem_cons_self snapshot reads)⟩
        · refine ih next stays' tail rest fun first known => ?_
          cases known
          exact ⟨rfl, fun e' mem b reads' => later e' mem snapshot b reads reads'⟩

/-- **An outage is not a disappearance, when it is whole.** In every run in which the pod stays and its
counters do not decrease, and in which each pass that answers finds the pod, what is emitted for it
up to any point adds up to its last readable snapshot less its first. -/
theorem outage_accounting (runtime : Bool) {es : List Event}
    (stays : ∀ around, .serve around ∈ es → Stays uid socket pid around)
    (nonDecreasing : NonDecreasing uid es)
    (whole : StepsMeet step (Whole uid socket) (new runtime) es) {before after : List Round}
    {round : Round} {first : PodBaseline}
    (split : (new runtime).rounds es = before ++ round :: after)
    (read : observation uid round = .read first)
    (unread : ∀ earlier ∈ before, ∀ b, observation uid earlier ≠ .read b) :
    ∃ last, TcpProvider.LastReadable ((new runtime).rounds es) uid last ∧
      ∀ counter : TcpCounter,
        TcpProvider.counterTotal uid counter ((new runtime).emitted es) +
          (counter.value first.snapshot).toNat = (counter.value last.snapshot).toNat := by
  have start : Lists uid pid (new runtime) := fun call pods replied => nomatch replied
  have steady := steady_rounds start stays whole nonDecreasing fun first (h : none = some first) =>
    nomatch h
  rw [split, List.map_append, List.map_cons, read] at steady
  have silent : ∀ o ∈ before.map (observation uid), o = .silent := by
    intro o mem
    obtain ⟨earlier, mem', rfl⟩ := List.mem_map.mp mem
    obtain ⟨pre, post, apart⟩ := List.append_of_mem mem
    cases found : observation uid earlier with
    | silent => rfl
    | read b => exact absurd found (unread earlier mem' b)
    | gone =>
      rw [found] at apart
      exact (steady.left pre .gone post apart).elim
  have unbroken := (stepsMeet_cons.mp steady.right).2
  obtain ⟨last, ends⟩ := exists_baseline unbroken
  rw [emitted_rounds, split]
  refine ⟨last, ?_, fun counter => ?_⟩
  · rw [TcpProvider.LastReadable, ← baseline_eq_some_iff, List.map_append, List.map_cons, read,
      run_append, run_cons]
    exact ends
  · change TcpProvider.counterTotal uid counter (TcpProvider.new.emitted _) + _ = _
    rw [TcpProvider.counterTotal_emitted, List.map_append, List.map_cons, read, outputs_append,
      outputs_silent silent, run_silent silent, outputs]
    exact telescope (fun a b follows => follows.grows counter) unbroken ends

/-! ## Two runtimes -/

def crio : PathBuf := .ofString "/run/crio/crio.sock"
def containerd : PathBuf := .ofString "/run/containerd/containerd.sock"

/-- Two runtimes, each up or not; the one has a pod. -/
def twoRuntimes (crioUp containerdUp : Bool) : Surroundings where
  present := fun path => path = crio ∨ path = containerd
  connects := fun _ => true
  lists := fun path =>
    if path = crio then
      if crioUp then some [⟨"sandbox-1", some ⟨"pod-1", "uid-1", "default"⟩⟩] else none
    else if containerdUp then some [] else none
  order := fun sandboxes => ⟨sandboxes, .refl sandboxes⟩
  status := fun _ => some ⟨none, fun key => if key = "pid" then some "7" else none⟩
  proc := ⟨[], fun _ => some "/kubepods/poduid-1", fun _ => true⟩
  timeout := none

/-- With either runtime up or not, the pod stays. -/
theorem twoRuntimes_stays (crioUp containerdUp : Bool) :
    Stays ⟨"uid-1"⟩ crio 7 (twoRuntimes crioUp containerdUp) where
  listed := by
    intro items lists
    cases crioUp with
    | true =>
      have same : some [(⟨"sandbox-1", some ⟨"pod-1", "uid-1", "default"⟩⟩ : PodSandbox)] =
          some items := lists
      cases same
      exact ⟨_, List.mem_cons_self, _, rfl, rfl⟩
    | false => cases (lists : none = some items)
  elsewhere := by
    intro other items lists item mem _
    by_contra apart
    have lists : (if containerdUp then some [] else none) = some items := by
      rw [← lists]
      exact (if_neg apart).symm
    cases containerdUp with
    | true =>
      cases lists
      cases mem
    | false => cases lists
  ownNetwork := by
    intro response status
    cases status
    rfl
  samePid := by
    intro response found status resolved
    cases status
    have resolves : (twoRuntimes crioUp containerdUp).proc.resolvePid ⟨"uid-1"⟩
        (pidFromStatusInfo fun key => if key = "pid" then some "7" else none) = some 7 := by
      cases crioUp <;> cases containerdUp <;> decide +kernel
    rw [resolves] at resolved
    exact (Option.some.inj resolved).symm

def snapshotOf (n : UInt64) : TcpSnapshot := ⟨n, n, n, 0, n, n⟩

/-- A collection with these runtimes up, when all counters are so far. -/
def collection (crioUp containerdUp : Bool) (n : UInt64) : List Event :=
  [.start, .serve (twoRuntimes crioUp containerdUp), .finish (fun _ => some (snapshotOf n)) 0]

/-- A collection reads what the counters are then. -/
theorem reads_collection {crioUp containerdUp : Bool} {n : UInt64} {e : Event}
    (mem : e ∈ collection crioUp containerdUp n) {snapshot : TcpSnapshot}
    (reads : e.Reads uid snapshot) : snapshot = snapshotOf n := by
  obtain ⟨read, timestamp, pod, rfl, -, found⟩ := reads
  simp only [collection, List.mem_cons, List.not_mem_nil, or_false, reduceCtorEq, false_or,
    Event.finish.injEq] at mem
  rw [mem.1] at found
  exact (Option.some.inj found).symm

/-- Collections in order of their counters. -/
theorem nonDecreasing_collections {rounds : List (Bool × Bool × UInt64)}
    (ordered : rounds.Pairwise fun a b => a.2.2 ≤ b.2.2) :
    NonDecreasing uid (rounds.flatMap fun round => collection round.1 round.2.1 round.2.2) := by
  have grows {n m : UInt64} (le : n ≤ m) (counter : TcpCounter) :
      counter.value (snapshotOf n) ≤ counter.value (snapshotOf m) := by
    cases counter <;> exact le
  rw [NonDecreasing, List.pairwise_flatMap]
  refine ⟨fun round _ => ?_, ordered.imp fun le e mem e' mem' a b reads reads' => ?_⟩
  · refine List.pairwise_of_forall_mem_list fun e mem e' mem' a b reads reads' => ?_
    rw [reads_collection mem reads, reads_collection mem' reads']
    exact grows (UInt64.le_refl _)
  · rw [reads_collection mem reads, reads_collection mem' reads']
    exact grows le

/-- So it does in every collection. -/
theorem stays_collections {rounds : List (Bool × Bool × UInt64)} (around : Surroundings)
    (mem : .serve around ∈ rounds.flatMap fun round => collection round.1 round.2.1 round.2.2) :
    Stays ⟨"uid-1"⟩ crio 7 around := by
  obtain ⟨round, -, mem⟩ := List.mem_flatMap.mp mem
  simp only [collection, List.mem_cons, List.not_mem_nil, or_false, reduceCtorEq, false_or,
    Event.serve.injEq] at mem
  rw [mem]
  exact twoRuntimes_stays round.1 round.2.1

/-- A step of the worker is whole if the job it serves is. -/
theorem whole_serve {s : TcpCollector} {around : Surroundings} (worker : Worker)
    (job : DiscoveryJob) (jobs : List DiscoveryJob) (queue : s.discovery.jobs = job :: jobs)
    (found : s.discovery.worker = some worker)
    (whole : let clients :=
        (around.ensureClients job.selection (worker.start job.selection)).clients
      (∀ client ∈ clients, around.lists client.socket = none) ∨ Finds uid socket around clients) :
    Whole uid socket s (.serve around) := by
  intro around' job' jobs' worker' serve queue' found'
  cases serve
  rw [queue] at queue'
  rw [found] at found'
  cases queue'
  cases found'
  exact .inr whole

/-- Only jobs can lose the pod. -/
theorem whole_other {s : TcpCollector} {e : Event} (other : ∀ around, e ≠ .serve around) :
    Whole uid socket s e := fun around _ _ _ serve => absurd serve (other around)

/-- An outage of both runtimes between two collections. -/
def wholeOutage : List (Bool × Bool × UInt64) :=
  [(true, true, 10), (false, false, 20), (true, true, 30)]

theorem outage_accounting_wholeOutage :
    let es := wholeOutage.flatMap fun round => collection round.1 round.2.1 round.2.2
    ∃ last, TcpProvider.LastReadable ((new true).rounds es) ⟨"uid-1"⟩ last ∧
      ∀ counter : TcpCounter,
        TcpProvider.counterTotal ⟨"uid-1"⟩ counter ((new true).emitted es) +
          (counter.value (snapshotOf 10)).toNat = (counter.value last.snapshot).toNat := by
  have found : ∀ worker : Worker, worker = ⟨[], none⟩ ∨ worker = ⟨[], some .all⟩ →
      Finds ⟨"uid-1"⟩ crio (twoRuntimes true true)
        ((twoRuntimes true true).ensureClients .all (worker.start .all)).clients := by
    intro worker h
    refine ⟨?_, by decide +kernel, _, rfl, by decide +kernel⟩
    rcases h with rfl | rfl <;> decide +kernel
  have whole : StepsMeet step (Whole ⟨"uid-1"⟩ crio) (new true)
      (wholeOutage.flatMap fun round => collection round.1 round.2.1 round.2.2) := by
    refine stepsMeet_cons.mpr ⟨whole_other (by simp), stepsMeet_cons.mpr ⟨?_,
      stepsMeet_cons.mpr ⟨whole_other (by simp), stepsMeet_cons.mpr ⟨whole_other (by simp),
        stepsMeet_cons.mpr ⟨?_, stepsMeet_cons.mpr ⟨whole_other (by simp),
          stepsMeet_cons.mpr ⟨whole_other (by simp), stepsMeet_cons.mpr ⟨?_,
            stepsMeet_cons.mpr ⟨whole_other (by simp), stepsMeet_nil _ _ _⟩⟩⟩⟩⟩⟩⟩⟩⟩
    · exact whole_serve ⟨[], none⟩ ⟨.all, 0⟩ [] (by decide +kernel) (by decide +kernel)
        (.inr (found _ (.inl rfl)))
    · refine whole_serve ⟨[⟨containerd, .all⟩, ⟨crio, .all⟩], some .all⟩ ⟨.all, 1⟩ []
        (by decide +kernel) (by decide +kernel) (.inl ?_)
      intro client _
      simp [twoRuntimes]
    · exact whole_serve ⟨[], some .all⟩ ⟨.all, 2⟩ [] (by decide +kernel) (by decide +kernel)
        (.inr (found _ (.inr rfl)))
  have seen : ((new true).rounds
      (wholeOutage.flatMap fun round => collection round.1 round.2.1 round.2.2)).map
        (observation ⟨"uid-1"⟩) =
      [.read ⟨7, snapshotOf 10⟩, .silent, .read ⟨7, snapshotOf 30⟩] := by
    decide +kernel
  obtain ⟨round, after, split, read, -⟩ := List.map_eq_cons_iff.mp seen
  exact outage_accounting true stays_collections (nonDecreasing_collections (by decide)) whole
    (split.trans (List.nil_append _).symm) read (fun _ mem => absurd mem List.not_mem_nil)

/-- An outage of the pod's runtime only. -/
def partialOutage : List (Bool × Bool × UInt64) :=
  [(true, true, 10), (false, true, 20), (true, true, 30), (true, true, 40)]

/-- **An outage of one runtime is taken for a disappearance**: the pod's counters grow by 30 between
its first reading and the last, whose samples count 10. -/
theorem outage_loses :
    ∃ (uid : PodUid) (socket : PathBuf) (pid : UInt32) (es : List Event),
      (∀ around, .serve around ∈ es → Stays uid socket pid around) ∧ NonDecreasing uid es ∧
      ∃ round after last, (new true).rounds es = round :: after ∧
        observation uid round = .read ⟨pid, snapshotOf 10⟩ ∧
        TcpProvider.LastReadable ((new true).rounds es) uid last ∧ ∀ counter : TcpCounter,
          TcpProvider.counterTotal uid counter ((new true).emitted es) = 10 ∧
            (counter.value last.snapshot).toNat = 40 := by
  have seen : ((new true).rounds
      (partialOutage.flatMap fun round => collection round.1 round.2.1 round.2.2)).map
        (observation ⟨"uid-1"⟩) =
      [.read ⟨7, snapshotOf 10⟩, .gone, .read ⟨7, snapshotOf 30⟩, .read ⟨7, snapshotOf 40⟩] := by
    decide +kernel
  obtain ⟨round, after, split, read, -⟩ := List.map_eq_cons_iff.mp seen
  refine ⟨⟨"uid-1"⟩, crio, 7, _, stays_collections, nonDecreasing_collections (by decide), round,
    after, ⟨7, snapshotOf 40⟩, split, read, ?_, fun counter => ⟨?_, by cases counter <;> rfl⟩⟩
  · rw [TcpProvider.LastReadable, seen]
    refine ⟨[_, _, _], [], rfl, ?_⟩
    intro o mem
    cases mem
  · rw [emitted_rounds]
    change TcpProvider.counterTotal _ counter (TcpProvider.new.emitted _) = 10
    rw [TcpProvider.counterTotal_emitted, seen]
    cases counter <;> decide +kernel

end TcpCollector

end Pod

end Talia
