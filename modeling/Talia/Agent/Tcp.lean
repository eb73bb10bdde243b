import Talia.Agent.Discovery
import Talia.Core.Pipeline
import Talia.Lib.Keyed
import Talia.Lib.Meter

/-!
# Per-pod TCP counters

Every round the provider lists the pods and reads the counters of each in its network namespace. It
keeps the last snapshot of each pod as a baseline, and emits what the counters have grown by since.
A round whose discovery fails changes nothing; a pod that is not listed loses its baseline; one that
cannot be read keeps it.

For one pod the provider is a meter (`Talia.Lib.Meter`): `previous_project` says so, and
`delta_accounting` reads off it what is emitted in every round of every run. The rounds are given
here; where they come from is for `Talia.Agent.Outage`.
-/

namespace Talia

open Transition

/-! ## Snapshots -/

/-- TCP counters of a network namespace. -/
structure TcpSnapshot where
  retransSegs : UInt64
  outSegs : UInt64
  inSegs : UInt64
  currEstab : UInt64
  tcpTimeouts : UInt64
  tcpFastRetrans : UInt64
  deriving DecidableEq

/-- A counter moved backwards: the snapshot is from a new epoch. -/
def snapshotReset (previous current : TcpSnapshot) : Bool :=
  current.retransSegs < previous.retransSegs || current.outSegs < previous.outSegs ||
    current.inSegs < previous.inSegs || current.tcpTimeouts < previous.tcpTimeouts ||
    current.tcpFastRetrans < previous.tcpFastRetrans

/-- What the counters have grown by: retransmitted, sent and received segments, timeouts and fast
retransmits. -/
def deltaSamples (previous current : TcpSnapshot) : UInt64 × UInt64 × UInt64 × UInt64 × UInt64 :=
  (current.retransSegs - previous.retransSegs, current.outSegs - previous.outSegs,
    current.inSegs - previous.inSegs, current.tcpTimeouts - previous.tcpTimeouts,
    current.tcpFastRetrans - previous.tcpFastRetrans)

/-! ## Samples -/

def tcpRetransmitsSample : String := "system.network.tcp.retransmits"
def tcpSegmentsSentSample : String := "system.network.tcp.segments.sent"
def tcpSegmentsReceivedSample : String := "system.network.tcp.segments.received"
def tcpTimeoutsSample : String := "system.network.tcp.timeouts"
def tcpFastRetransmitsSample : String := "system.network.tcp.fast_retransmits"
def tcpEstablishedSample : String := "system.network.tcp.connections.established"

def podNameAttribute : String := "k8s.pod.name"
def podNamespaceAttribute : String := "k8s.namespace.name"
def podUidAttribute : String := "k8s.pod.uid"

/-- The pod that a sample is of. -/
def podAttributes (pod : PodInfo) : BTreeMap String String :=
  (((∅ : BTreeMap String String).insert podNameAttribute pod.name).insert podNamespaceAttribute
    pod.namespaceName).insert podUidAttribute pod.uid.asStr

/-- A counter's sample. -/
def counterSample (name : String) (value : UInt64) (attributes : BTreeMap String String)
    (timestamp : SystemTime) : Sample :=
  ⟨name, .counter value, attributes, timestamp⟩

/-! ## Collecting -/

/-- A pod of a round, and what is read in its network namespace. -/
structure PodReading where
  pod : PodInfo
  snapshot : Option TcpSnapshot

/-- The pods of a round, each once. -/
structure Listing where
  pods : List PodReading
  timestamp : SystemTime
  distinct : (pods.map fun reading => reading.pod.uid).Nodup

/-- What discovery comes to in a round. -/
abbrev Round := Except DiscoveryError Listing

/-- The last reading of a pod, with the process it was read of. -/
structure PodBaseline where
  pid : UInt32
  snapshot : TcpSnapshot
  deriving DecidableEq

/-- The baselines of the provider. -/
structure TcpProvider where
  previous : PodUid → Option PodBaseline

namespace TcpProvider

def name : String := "tcp"

/-- A provider that has collected nothing. -/
def new : TcpProvider := ⟨fun _ => none⟩

/-- A pod in the loop of `collect`: the samples so far and the baselines. -/
def collectPod (timestamp : SystemTime) (acc : List Sample × (PodUid → Option PodBaseline))
    (reading : PodReading) : List Sample × (PodUid → Option PodBaseline) :=
  let (samples, previous) := acc
  match reading.snapshot with
  | none => (samples, previous)
  | some snapshot =>
    let pod := reading.pod
    let attributes := podAttributes pod
    let samples := samples ++
      [⟨tcpEstablishedSample, .gaugeU64 snapshot.currEstab, attributes, timestamp⟩]
    let deltas :=
      match previous pod.uid with
      | none => none
      | some baseline =>
        if baseline.pid ≠ pod.pid then none
        else if snapshotReset baseline.snapshot snapshot then none
        else some (deltaSamples baseline.snapshot snapshot)
    let previous := Function.update previous pod.uid (some ⟨pod.pid, snapshot⟩)
    match deltas with
    | none => (samples, previous)
    | some (retrans, sent, received, timeouts, fastRetrans) =>
      (samples ++
        [counterSample tcpRetransmitsSample retrans attributes timestamp,
          counterSample tcpSegmentsSentSample sent attributes timestamp,
          counterSample tcpSegmentsReceivedSample received attributes timestamp,
          counterSample tcpTimeoutsSample timeouts attributes timestamp,
          counterSample tcpFastRetransmitsSample fastRetrans attributes timestamp], previous)

/-- A round: the samples or the error, and the provider after it. -/
def collect (s : TcpProvider) :
    Round → Except (ProviderError DiscoveryError) (List Sample) × TcpProvider
  | .error source => (.error ⟨name, source⟩, s)
  | .ok listing =>
    let (samples, previous) := listing.pods.foldl (collectPod listing.timestamp) ([], s.previous)
    let seen := listing.pods.map fun reading => reading.pod.uid
    (.ok samples, ⟨fun uid => if seen.contains uid then previous uid else none⟩)

/-- The provider after a round. -/
def step (s : TcpProvider) (round : Round) : TcpProvider := (s.collect round).2

/-- The samples of a round, if it does not fail. -/
def samples (s : TcpProvider) (round : Round) : List Sample :=
  match (s.collect round).1 with
  | .ok samples => samples
  | .error _ => []

end TcpProvider

/-! ## Counters -/

/-- The counters of a snapshot that are reported as deltas. -/
inductive TcpCounter where
  | retransmits
  | segmentsSent
  | segmentsReceived
  | timeouts
  | fastRetransmits
  deriving DecidableEq

namespace TcpCounter

/-- All counters. -/
def all : List TcpCounter :=
  [.retransmits, .segmentsSent, .segmentsReceived, .timeouts, .fastRetransmits]

/-- The name of a counter's samples. -/
def sampleName : TcpCounter → String
  | .retransmits => tcpRetransmitsSample
  | .segmentsSent => tcpSegmentsSentSample
  | .segmentsReceived => tcpSegmentsReceivedSample
  | .timeouts => tcpTimeoutsSample
  | .fastRetransmits => tcpFastRetransmitsSample

/-- The field that it counts. -/
def value : TcpCounter → TcpSnapshot → UInt64
  | .retransmits => TcpSnapshot.retransSegs
  | .segmentsSent => TcpSnapshot.outSegs
  | .segmentsReceived => TcpSnapshot.inSegs
  | .timeouts => TcpSnapshot.tcpTimeouts
  | .fastRetransmits => TcpSnapshot.tcpFastRetrans

/-- Different counters have different names. -/
theorem sampleName_inj {counter other : TcpCounter} :
    counter.sampleName = other.sampleName ↔ counter = other := by
  cases counter <;> cases other <;> decide

end TcpCounter

/-- **The reset test covers the counters that are subtracted**, and no others. -/
theorem snapshotReset_eq_false_iff {previous current : TcpSnapshot} :
    snapshotReset previous current = false ↔
      ∀ counter : TcpCounter, counter.value previous ≤ counter.value current := by
  simp only [snapshotReset, Bool.or_eq_false_iff, decide_eq_false_iff_not, UInt64.not_lt]
  constructor
  · intro h counter
    cases counter with
    | retransmits => exact h.1.1.1.1
    | segmentsSent => exact h.1.1.1.2
    | segmentsReceived => exact h.1.1.2
    | timeouts => exact h.1.2
    | fastRetransmits => exact h.2
  · intro h
    exact ⟨⟨⟨⟨h .retransmits, h .segmentsSent⟩, h .segmentsReceived⟩, h .timeouts⟩,
      h .fastRetransmits⟩

/-! ## One pod -/

section Pod

open Meter

/-- A reading under the same PID, in which no counter decreased. -/
def PodBaseline.Follows (first last : PodBaseline) : Prop :=
  first.pid = last.pid ∧ snapshotReset first.snapshot last.snapshot = false

instance : DecidableRel PodBaseline.Follows :=
  fun first last => inferInstanceAs (Decidable (first.pid = last.pid ∧ _ = false))

/-- A reading that follows another has lost no count. -/
theorem PodBaseline.Follows.grows {first last : PodBaseline} (follows : first.Follows last)
    (counter : TcpCounter) :
    (counter.value first.snapshot).toNat ≤ (counter.value last.snapshot).toNat :=
  UInt64.le_iff_toNat_le.mp (snapshotReset_eq_false_iff.mp follows.2 counter)

/-- What is read of a pod. -/
def PodReading.baseline (reading : PodReading) : Option PodBaseline :=
  reading.snapshot.map fun snapshot => ⟨reading.pod.pid, snapshot⟩

/-- What a round finds of a pod. -/
def observation (uid : PodUid) : Round → Observation PodBaseline
  | .error _ => .silent
  | .ok listing =>
    match listing.pods.find? (·.pod.uid = uid) with
    | none => .gone
    | some reading => reading.baseline.elim .silent .read

/-- The one sample that is no difference. -/
def gaugeSample (timestamp : SystemTime) (pod : PodInfo) (snapshot : TcpSnapshot) : Sample :=
  ⟨tcpEstablishedSample, .gaugeU64 snapshot.currEstab, podAttributes pod, timestamp⟩

/-- The differences between two readings. -/
def counterSamples (timestamp : SystemTime) (pod : PodInfo) (first last : TcpSnapshot) :
    List Sample :=
  TcpCounter.all.map fun counter =>
    counterSample counter.sampleName (counter.value last - counter.value first)
      (podAttributes pod) timestamp

/-- The samples of a pod, by its baseline: the gauge when it can be read, and the counters when the
reading follows the baseline. -/
def podSamples (baseline : Option PodBaseline) (timestamp : SystemTime) (reading : PodReading) :
    List Sample :=
  reading.baseline.elim [] fun current =>
    gaugeSample timestamp reading.pod current.snapshot ::
      (measured PodBaseline.Follows baseline (.read current)).elim [] fun pair =>
        counterSamples timestamp reading.pod pair.1.snapshot pair.2.snapshot

namespace TcpProvider

variable {s : TcpProvider}

/-- A pod adds its samples, and its reading is its new baseline. -/
theorem collectPod_eq (timestamp : SystemTime) (samples : List Sample)
    (previous : PodUid → Option PodBaseline) (reading : PodReading) :
    collectPod timestamp (samples, previous) reading =
      (samples ++ podSamples (previous reading.pod.uid) timestamp reading,
        reading.baseline.elim previous fun current =>
          Function.update previous reading.pod.uid (some current)) := by
  obtain ⟨pod, snapshot⟩ := reading
  cases snapshot with
  | none => simp [collectPod, podSamples, PodReading.baseline]
  | some snapshot =>
    cases before : previous pod.uid with
    | none =>
      simp [collectPod, podSamples, PodReading.baseline, gaugeSample, before]
    | some baseline =>
      by_cases restarted : baseline.pid = pod.pid
      · cases reset : snapshotReset baseline.snapshot snapshot with
        | true =>
          simp [collectPod, podSamples, PodReading.baseline, gaugeSample, before,
            PodBaseline.Follows, restarted, reset]
        | false =>
          simp [collectPod, podSamples, PodReading.baseline, gaugeSample, before,
            PodBaseline.Follows, restarted, reset, counterSamples, TcpCounter.all, deltaSamples,
            TcpCounter.sampleName, TcpCounter.value]
      · simp [collectPod, podSamples, PodReading.baseline, gaugeSample, before,
          PodBaseline.Follows, restarted]

/-- The loop over the pods. As each is listed once, its baseline is still the one before the
round. -/
theorem collectPods_eq (timestamp : SystemTime) {pods : List PodReading}
    (distinct : (pods.map fun reading => reading.pod.uid).Nodup) (samples : List Sample)
    (previous : PodUid → Option PodBaseline) :
    pods.foldl (collectPod timestamp) (samples, previous) =
      (samples ++ pods.flatMap fun reading =>
          podSamples (previous reading.pod.uid) timestamp reading,
        fun uid => ((pods.find? (·.pod.uid = uid)).bind PodReading.baseline).or (previous uid)) := by
  induction pods generalizing samples previous with
  | nil => simp
  | cons reading pods ih =>
    rw [List.map_cons, List.nodup_cons] at distinct
    have untouched : ∀ other ∈ pods,
        (reading.baseline.elim previous fun current =>
          Function.update previous reading.pod.uid (some current)) other.pod.uid =
          previous other.pod.uid := by
      intro other mem
      have apart : other.pod.uid ≠ reading.pod.uid := by
        intro same
        exact distinct.1 (List.mem_map.mpr ⟨other, mem, same⟩)
      cases reading.baseline with
      | none => rfl
      | some current => exact Function.update_of_ne apart ..
    rw [List.foldl_cons, collectPod_eq, ih distinct.2, List.flatMap_cons, List.append_assoc]
    congr 1
    · congr 2
      refine List.flatMap_congr fun other mem => ?_
      rw [untouched other mem]
    · funext uid
      rw [List.find?_cons]
      by_cases own : reading.pod.uid = uid
      · subst own
        have gone : pods.find? (·.pod.uid = reading.pod.uid) = none :=
          Keyed.find?_eq_none_of_notMem distinct.1
        rw [gone, decide_eq_true rfl]
        cases read : reading.baseline with
        | none => simp [read]
        | some current => simp [read]
      · rw [decide_eq_false own]
        cases reading.baseline with
        | none => rfl
        | some current => simp [Ne.symm own]

/-- **The samples of a round**, pod by pod. -/
theorem collect_ok (s : TcpProvider) (listing : Listing) :
    (s.collect (.ok listing)).1 = .ok (listing.pods.flatMap fun reading =>
      podSamples (s.previous reading.pod.uid) listing.timestamp reading) := by
  rw [collect, collectPods_eq listing.timestamp listing.distinct, List.nil_append]

/-- **For one pod the provider is a meter.** -/
theorem previous_project (uid : PodUid) (s : TcpProvider) (round : Round) :
    (s.step round).previous uid = observe (s.previous uid) (observation uid round) := by
  cases round with
  | error error => rfl
  | ok listing =>
    rw [step, collect, collectPods_eq listing.timestamp listing.distinct, observation]
    dsimp only
    cases found : listing.pods.find? (·.pod.uid = uid) with
    | none =>
      rw [if_neg]
      · rfl
      · intro seen
        obtain ⟨reading, mem, own⟩ := List.mem_map.mp (List.contains_iff_mem.mp seen)
        exact List.find?_eq_none.mp found reading mem (decide_eq_true own)
    | some reading =>
      rw [if_pos]
      · rw [Option.bind_some]
        dsimp only
        cases reading.baseline with
        | none => exact Option.none_or
        | some current => exact Option.some_or
      · exact List.contains_iff_mem.mpr
          (List.mem_map.mpr ⟨reading, (Keyed.find?_eq_some_iff listing.distinct).mp found⟩)

/-! ## Samples by pod -/

/-- The samples with the pod's UID. -/
def samplesOf (uid : PodUid) (samples : List Sample) : List Sample :=
  samples.filter fun sample => sample.attributes[podUidAttribute]? = some uid.asStr

/-- A pod's samples among more are those among each. -/
theorem samplesOf_append (uid : PodUid) (samples more : List Sample) :
    samplesOf uid (samples ++ more) = samplesOf uid samples ++ samplesOf uid more :=
  List.filter_append ..

/-- The attributes name the pod. -/
theorem podAttributes_uid (pod : PodInfo) :
    (podAttributes pod)[podUidAttribute]? = some pod.uid.asStr := by
  rw [podAttributes, BTreeMap.get_insert, if_pos rfl]

/-- The samples of a pod have its UID. -/
theorem podSamples_uid {baseline : Option PodBaseline} {timestamp : SystemTime}
    {reading : PodReading} {sample : Sample} (mem : sample ∈ podSamples baseline timestamp reading) :
    sample.attributes[podUidAttribute]? = some reading.pod.uid.asStr := by
  rw [podSamples] at mem
  cases read : reading.baseline with
  | none =>
    rw [read] at mem
    cases mem
  | some current =>
    rw [read] at mem
    rcases List.mem_cons.mp mem with gauge | counters
    · rw [gauge]
      exact podAttributes_uid reading.pod
    · cases pair : measured PodBaseline.Follows baseline (.read current) with
      | none =>
        rw [pair] at counters
        cases counters
      | some pair' =>
        rw [pair] at counters
        obtain ⟨counter, -, rfl⟩ := List.mem_map.mp counters
        exact podAttributes_uid reading.pod

/-- A reading makes samples of its own pod only. -/
theorem samplesOf_podSamples (uid : PodUid) (baseline : Option PodBaseline)
    (timestamp : SystemTime) (reading : PodReading) :
    samplesOf uid (podSamples baseline timestamp reading) =
      if reading.pod.uid = uid then podSamples baseline timestamp reading else [] := by
  split
  next own =>
    subst own
    exact List.filter_eq_self.mpr fun sample mem => decide_eq_true (podSamples_uid mem)
  next other =>
    refine List.filter_eq_nil_iff.mpr fun sample mem => ?_
    rw [podSamples_uid mem, decide_eq_true_eq, Option.some.injEq]
    exact fun same => other (PodUid.ext same)

/-- What a round emits for a pod. -/
theorem samplesOf_samples (uid : PodUid) (s : TcpProvider) (listing : Listing) :
    samplesOf uid (s.samples (.ok listing)) =
      (listing.pods.find? (·.pod.uid = uid)).elim []
        (podSamples (s.previous uid) listing.timestamp) := by
  have all : ∀ pods : List PodReading, (pods.map fun reading => reading.pod.uid).Nodup →
      samplesOf uid (pods.flatMap fun reading =>
          podSamples (s.previous reading.pod.uid) listing.timestamp reading) =
        (pods.find? (·.pod.uid = uid)).elim []
          (podSamples (s.previous uid) listing.timestamp) := by
    intro pods distinct
    induction pods with
    | nil => rfl
    | cons reading pods ih =>
      rw [List.map_cons, List.nodup_cons] at distinct
      rw [List.flatMap_cons, samplesOf_append, samplesOf_podSamples, ih distinct.2, List.find?_cons]
      split
      next own =>
        have gone : pods.find? (·.pod.uid = uid) = none :=
          Keyed.find?_eq_none_of_notMem (own ▸ distinct.1)
        rw [gone, decide_eq_true own, own]
        exact List.append_nil _
      next other =>
        rw [decide_eq_false other]
        rfl
  rw [samples, collect_ok]
  exact all listing.pods listing.distinct

/-- A successful round emits the samples of its listing. -/
theorem collect_samples (s : TcpProvider) (listing : Listing) :
    (s.collect (.ok listing)).1 = .ok (s.samples (.ok listing)) := by
  rw [samples, collect_ok]

/-- What a round emits for a pod it lists. -/
theorem samplesOf_reading (s : TcpProvider) {listing : Listing} {reading : PodReading}
    (mem : reading ∈ listing.pods) :
    samplesOf reading.pod.uid (s.samples (.ok listing)) =
      podSamples (s.previous reading.pod.uid) listing.timestamp reading := by
  have found : listing.pods.find? (·.pod.uid = reading.pod.uid) = some reading :=
    (Keyed.find?_eq_some_iff listing.distinct).mpr ⟨mem, rfl⟩
  rw [samplesOf_samples, found]
  rfl

/-- What the samples of a pod count of a counter. -/
def counterTotal (uid : PodUid) (counter : TcpCounter) (samples : List Sample) : ℕ :=
  (((samplesOf uid samples).filter (·.name = counter.sampleName)).map Sample.count).sum

/-- One counter sample for each counter. -/
theorem filter_counterSamples (counter : TcpCounter) (timestamp : SystemTime) (pod : PodInfo)
    (first last : TcpSnapshot) :
    (counterSamples timestamp pod first last).filter (·.name = counter.sampleName) =
      [counterSample counter.sampleName (counter.value last - counter.value first)
        (podAttributes pod) timestamp] := by
  have one : TcpCounter.all.filter (· = counter) = [counter] := by
    cases counter <;> rfl
  rw [counterSamples, List.filter_map, Function.comp_def]
  simp only [counterSample, TcpCounter.sampleName_inj, one, List.map_cons, List.map_nil]

/-- The gauge is no counter. -/
theorem gaugeSample_name (counter : TcpCounter) : tcpEstablishedSample ≠ counter.sampleName := by
  cases counter <;> decide

/-- A round counts for a pod what its meter measures. -/
theorem counterTotal_samples (uid : PodUid) (counter : TcpCounter) (s : TcpProvider)
    (round : Round) :
    counterTotal uid counter (s.samples round) =
      (measured PodBaseline.Follows (s.previous uid) (observation uid round)).elim 0 fun pair =>
        (counter.value pair.2.snapshot).toNat - (counter.value pair.1.snapshot).toNat := by
  cases round with
  | error error => rfl
  | ok listing =>
    rw [counterTotal, samplesOf_samples, observation]
    cases listing.pods.find? (·.pod.uid = uid) with
    | none => rfl
    | some reading =>
      dsimp only [Option.elim_some]
      rw [podSamples]
      cases reading.baseline with
      | none => rfl
      | some current =>
        dsimp only [Option.elim_some]
        have gauge : (gaugeSample listing.timestamp reading.pod current.snapshot).name ≠
            counter.sampleName := gaugeSample_name counter
        rw [List.filter_cons_of_neg (by simpa using gauge)]
        cases found : measured PodBaseline.Follows (s.previous uid) (.read current) with
        | none => rfl
        | some pair =>
          obtain ⟨-, follows, same⟩ := (measured_read_eq_some_iff PodBaseline.Follows).mp found
          rw [← same] at follows
          have grows := UInt64.le_iff_toNat_le.mpr (follows.grows counter)
          dsimp only [Option.elim_some]
          rw [filter_counterSamples, List.map_singleton, List.sum_singleton]
          exact UInt64.toNat_sub_of_le _ _ grows

/-! ## Runs -/

/-- All samples of a run. -/
def emitted (s : TcpProvider) (rounds : List Round) : List Sample :=
  (outputs step (fun s round => some (s.samples round)) s rounds).flatten

/-- What more samples count adds up. -/
theorem counterTotal_append (uid : PodUid) (counter : TcpCounter) (samples more : List Sample) :
    counterTotal uid counter (samples ++ more) =
      counterTotal uid counter samples + counterTotal uid counter more := by
  rw [counterTotal, samplesOf_append, List.filter_append, List.map_append, List.sum_append]
  rfl

/-- A run counts for a pod what its meter measures. -/
theorem counterTotal_emitted (uid : PodUid) (counter : TcpCounter) (s : TcpProvider)
    (rounds : List Round) :
    counterTotal uid counter (s.emitted rounds) =
      ((outputs observe (measured PodBaseline.Follows) (s.previous uid)
        (rounds.map (observation uid))).map fun pair =>
          (counter.value pair.2.snapshot).toNat - (counter.value pair.1.snapshot).toNat).sum := by
  induction rounds generalizing s with
  | nil => rfl
  | cons round rounds ih =>
    have split : s.emitted (round :: rounds) = s.samples round ++ (s.step round).emitted rounds :=
      rfl
    rw [split, counterTotal_append, ih, counterTotal_samples, previous_project, List.map_cons,
      outputs, List.map_append, List.sum_append]
    cases measured PodBaseline.Follows (s.previous uid) (observation uid round) with
    | none => rfl
    | some pair => simp

/-- The last readable snapshot of the pod in these rounds, under the PID it was read with: the pod was
listed in every successful round since. -/
def LastReadable (rounds : List Round) (uid : PodUid) (last : PodBaseline) : Prop :=
  LastRead (rounds.map (observation uid)) last

/-- **The baseline of a pod is its last readable snapshot.** -/
theorem previous_eq_some_iff {rounds : List Round} {uid : PodUid} {last : PodBaseline} :
    (run step new rounds).previous uid = some last ↔ LastReadable rounds uid last := by
  rw [LastReadable, ← baseline_eq_some_iff,
    run_project (f := fun s : TcpProvider => s.previous uid) (previous_project uid)]
  rfl

/-- In these rounds the pod does not disappear, and each readable snapshot is under the PID of the one
before it, the first of them `first`, with no counter decreased. -/
def Unbroken (uid : PodUid) (first : PodBaseline) (rounds : List Round) : Prop :=
  StepsMeet observe (Steady PodBaseline.Follows) (some first) (rounds.map (observation uid))

/-- **Delta accounting**, in every run of rounds. A round whose discovery fails leaves the baselines
as they were. After one that does not, they are of pods it listed; what it emits is the pods' own;
each pod that can be read gets its gauge, and its counters exactly when its last readable snapshot
is of the same PID and no counter decreased since, each by what it has grown, without underflow. And
over an unbroken stretch the counts of each counter add up to the last reading less the first. -/
theorem delta_accounting (rounds : List Round) :
    let after := run step new
    (∀ error, after (rounds ++ [.error error]) = after rounds) ∧
    (∀ listing, ∃ samples, ((after rounds).collect (.ok listing)).1 = .ok samples ∧
      (∀ uid baseline, (after (rounds ++ [.ok listing])).previous uid = some baseline →
        ∃ reading ∈ listing.pods, reading.pod.uid = uid) ∧
      (∀ sample ∈ samples, ∃ reading ∈ listing.pods,
        sample ∈ samplesOf reading.pod.uid samples) ∧
      ∀ reading ∈ listing.pods,
        (reading.snapshot = none → samplesOf reading.pod.uid samples = []) ∧
        ∀ snapshot, reading.snapshot = some snapshot →
          (∀ first, LastReadable rounds reading.pod.uid first → first.pid = reading.pod.pid →
            (∀ counter : TcpCounter, counter.value first.snapshot ≤ counter.value snapshot) →
            samplesOf reading.pod.uid samples =
              gaugeSample listing.timestamp reading.pod snapshot ::
                counterSamples listing.timestamp reading.pod first.snapshot snapshot ∧
            ∀ counter : TcpCounter,
              (counter.value snapshot - counter.value first.snapshot).toNat +
                (counter.value first.snapshot).toNat = (counter.value snapshot).toNat) ∧
          ((∀ first, LastReadable rounds reading.pod.uid first → ¬ (first.pid = reading.pod.pid ∧
              ∀ counter : TcpCounter, counter.value first.snapshot ≤ counter.value snapshot)) →
            samplesOf reading.pod.uid samples =
              [gaugeSample listing.timestamp reading.pod snapshot])) ∧
    ∀ uid round first stretch, observation uid round = .read first →
      Unbroken uid first stretch →
      ∃ last, LastReadable (rounds ++ round :: stretch) uid last ∧ ∀ counter : TcpCounter,
        counterTotal uid counter ((after (rounds ++ [round])).emitted stretch) +
          (counter.value first.snapshot).toNat = (counter.value last.snapshot).toNat := by
  refine ⟨?_, ?_, ?_⟩
  · intro error
    rw [run_append]
    rfl
  · intro listing
    refine ⟨_, collect_samples _ listing, ?_, ?_, ?_⟩
    · intro uid baseline kept
      rw [run_append, run_cons, run_nil, previous_project, observation] at kept
      cases found : listing.pods.find? (·.pod.uid = uid) with
      | none =>
        rw [found] at kept
        cases kept
      | some reading =>
        exact ⟨reading, (Keyed.find?_eq_some_iff listing.distinct).mp found⟩
    · intro sample mem
      have emitted := mem
      rw [samples, collect_ok] at mem
      obtain ⟨reading, listed, own⟩ := List.mem_flatMap.mp mem
      exact ⟨reading, listed,
        List.mem_filter.mpr ⟨emitted, decide_eq_true (podSamples_uid own)⟩⟩
    · intro reading mem
      rw [samplesOf_reading _ mem, podSamples, PodReading.baseline]
      refine ⟨fun unreadable => by rw [unreadable]; rfl, ?_⟩
      intro snapshot readable
      rw [readable, Option.map_some, Option.elim_some]
      constructor
      · intro first last same grown
        have follows : first.Follows ⟨reading.pod.pid, snapshot⟩ :=
          ⟨same, snapshotReset_eq_false_iff.mpr grown⟩
        rw [previous_eq_some_iff.mpr last, measured_some_read, if_pos follows]
        refine ⟨rfl, fun counter => ?_⟩
        rw [UInt64.toNat_sub_of_le _ _ (grown counter)]
        exact Nat.sub_add_cancel (UInt64.le_iff_toNat_le.mp (grown counter))
      · intro notFollowed
        cases known : (run step new rounds).previous reading.pod.uid with
        | none => rw [measured_none]; rfl
        | some first =>
          rw [measured_some_read, if_neg]
          · rfl
          · intro follows
            exact notFollowed first (previous_eq_some_iff.mp known)
              ⟨follows.1, snapshotReset_eq_false_iff.mp follows.2⟩
  · intro uid round first stretch read unbroken
    have start : (run step new (rounds ++ [round])).previous uid = some first := by
      rw [run_append, run_cons, run_nil, previous_project, read]
      rfl
    obtain ⟨last, ends⟩ := exists_baseline unbroken
    refine ⟨last, previous_eq_some_iff.mp ?_, fun counter => ?_⟩
    · rw [List.append_cons, run_append,
        run_project (f := fun s : TcpProvider => s.previous uid) (previous_project uid), start]
      exact ends
    · rw [counterTotal_emitted, start]
      exact telescope (fun a b follows => follows.grows counter) unbroken ends

end TcpProvider

end Pod

end Talia
