import Std.Data.String.ToNat
import Talia.Agent.Cpu
import Talia.Agent.Memory
import Talia.Agent.Storage
import Talia.Agent.Tcp
import Talia.Agent.Traffic

/-!
# Samples

Each provider makes its samples of what its collector finds. Their names and attributes are what
they are exported under: samples that have both in common are of one series, and of two of these in
one collection the exporter keeps one only, if it is a gauge. No provider makes two samples of one
series in a collection, but for the storage provider when a mount point is configured twice
(`Distinct`).
-/

namespace Talia

open Meter

/-! ## Network -/

def networkIoSample : String := "system.network.io"

def networkDirectionAttribute : String := "network.io.direction"

/-- The attribute's value for traffic that comes in, and for traffic that goes out. -/
def NetworkDirection.asStr : NetworkDirection → String
  | .ingress => "receive"
  | .egress => "transmit"

/-- The one sample of a direction: the bytes of the window. -/
def networkSample (timestamp : SystemTime) (sample : NetworkSample) : Sample :=
  ⟨networkIoSample, .counter sample.bytes,
    (∅ : BTreeMap String String).insert networkDirectionAttribute sample.direction.asStr, timestamp⟩

/-- A snapshot's samples, direction by direction. -/
def networkSamples (timestamp : SystemTime) (snapshot : Snapshot NetworkSample) : List Sample :=
  snapshot.samples.map (networkSample timestamp)

/-! ## Disk I/O -/

def diskIoSample : String := "system.disk.io"
def diskOperationsSample : String := "system.disk.operations"
def diskErrorsSample : String := "system.disk.errors"
def diskLatencySample : String := "system.disk.io.latency"
def diskQueueDepthSample : String := "system.disk.io.queue_depth"
def diskInFlightBytesSample : String := "system.disk.io.in_flight"

def diskDirectionAttribute : String := "disk.io.direction"

/-- The attribute's value for reads, and for writes. -/
def DiskIoDirection.asStr : DiskIoDirection → String
  | .read => "read"
  | .write => "write"

/-- Whole seconds and nanoseconds, as `as_secs_f64` adds them up. -/
def Duration.asSecsF64 (duration : Duration) : Float :=
  .ofNat (duration / 1000000000) + .ofNat (duration % 1000000000) / 1000000000.0

/-- The samples of a direction: three counters, the average latency in seconds if requests were
completed, and two gauges. -/
def diskIoSamples (timestamp : SystemTime) (sample : DiskIoSample) : List Sample :=
  let attributes :=
    (∅ : BTreeMap String String).insert diskDirectionAttribute sample.direction.asStr
  let push (name : String) (value : SampleValue) : Sample := ⟨name, value, attributes, timestamp⟩
  [push diskIoSample (.counter sample.bytes),
    push diskOperationsSample (.counter sample.operations),
    push diskErrorsSample (.counter sample.errors)] ++
  (sample.averageLatency.map fun latency =>
    push diskLatencySample (.gaugeF64 (latency.asSecsF64 * 1000.0))).toList ++
  [push diskQueueDepthSample (.gaugeI64 sample.inFlightOperations),
    push diskInFlightBytesSample (.gaugeI64 sample.inFlightBytes)]

/-- A snapshot's samples, direction by direction. -/
def diskSamples (timestamp : SystemTime) (snapshot : Snapshot DiskIoSample) : List Sample :=
  snapshot.samples.flatMap (diskIoSamples timestamp)

/-! ## CPUs -/

def cpuUtilizationSample : String := "system.cpu.utilization"

def cpuLogicalNumberAttribute : String := "system.cpu.logical_number"
def cpuStateAttribute : String := "system.cpu.state"

namespace CpuSnapshot

/-- All the time that a snapshot accounts for. -/
def totalNs (snapshot : CpuSnapshot) : UInt64 :=
  Saturating.add (Saturating.add snapshot.idleNs snapshot.userNs) snapshot.systemNs

def idleRatio (snapshot : CpuSnapshot) : Float := ratio snapshot.idleNs snapshot.totalNs
def userRatio (snapshot : CpuSnapshot) : Float := ratio snapshot.userNs snapshot.totalNs
def systemRatio (snapshot : CpuSnapshot) : Float := ratio snapshot.systemNs snapshot.totalNs

end CpuSnapshot

/-- Three ratios for each CPU, which differ in the state they are of. -/
def cpuSamples (timestamp : SystemTime) (snapshot : CpuSnapshot) : List Sample :=
  [("idle", snapshot.idleRatio), ("user", snapshot.userRatio), ("system", snapshot.systemRatio)].map
    fun (state, ratio) =>
      ⟨cpuUtilizationSample, .gaugeF64 ratio,
        ((∅ : BTreeMap String String).insert cpuLogicalNumberAttribute
          (toString snapshot.cpu)).insert cpuStateAttribute state, timestamp⟩

/-! ## Memory -/

def memoryUsageSample : String := "system.memory.usage"
def memoryUtilizationSample : String := "system.memory.utilization"
def swapUsageSample : String := "system.linux.memory.swap.usage"
def swapUtilizationSample : String := "system.linux.memory.swap.utilization"
def swapIoSample : String := "system.linux.memory.swap.io"

def memoryStateAttribute : String := "system.memory.state"
def swapStateAttribute : String := "system.linux.memory.swap.state"
def swapDirectionAttribute : String := "system.linux.memory.swap.direction"

/-- The one attribute of a sample. -/
def stateAttributes (key value : String) : BTreeMap String String :=
  (∅ : BTreeMap String String).insert key value

/-- The samples of a reading: the bytes in each state and the ratio used, of memory and then of
swap, and the bytes swapped in each direction. -/
def memorySamples (timestamp : SystemTime) (sample : MemorySample) : List Sample :=
  let usage := fun (state, bytes) => (⟨memoryUsageSample, .gaugeU64 bytes,
    stateAttributes memoryStateAttribute state, timestamp⟩ : Sample)
  let swapUsage := fun (state, bytes) => (⟨swapUsageSample, .gaugeU64 bytes,
    stateAttributes swapStateAttribute state, timestamp⟩ : Sample)
  let swapIo := fun (direction, bytes) => (⟨swapIoSample, .counter bytes,
    stateAttributes swapDirectionAttribute direction, timestamp⟩ : Sample)
  [("total", sample.totalBytes), ("used", sample.usedBytes), ("available", sample.availableBytes),
    ("free", sample.freeBytes), ("cached", sample.cachedBytes)].map usage ++
  [⟨memoryUtilizationSample, .gaugeF64 sample.usedRatio, ∅, timestamp⟩] ++
  [("total", sample.swapTotalBytes), ("used", sample.swapUsedBytes),
    ("free", sample.swapFreeBytes)].map swapUsage ++
  [⟨swapUtilizationSample, .gaugeF64 sample.swapUsedRatio, ∅, timestamp⟩] ++
  [("in", sample.swapInBytes), ("out", sample.swapOutBytes)].map swapIo

/-! ## Series -/

/-- What a sample is exported under. -/
def Sample.series (sample : Sample) : String × BTreeMap String String :=
  (sample.name, sample.attributes)

/-- No two samples of one series. -/
def Distinct (samples : List Sample) : Prop := (samples.map Sample.series).Nodup

/-- Samples with different names are distinct. -/
theorem distinct_of_names {samples : List Sample} (names : (samples.map Sample.name).Nodup) :
    Distinct samples := by
  refine List.Nodup.of_map Prod.fst ?_
  rw [List.map_map]
  exact names

/-- Samples whose names differ, or what they have for some attributes. -/
theorem distinct_of_attributes {samples : List Sample} (keys : List String)
    (apart : (samples.map fun sample =>
      (sample.name, keys.map fun key => sample.attributes[key]?)).Nodup) : Distinct samples := by
  refine List.Nodup.of_map (fun (name, attributes) =>
    (name, keys.map fun key => attributes[key]?)) ?_
  rw [List.map_map]
  exact apart

/-- **Samples of things that have a name of their own**, which is in an attribute. -/
theorem distinct_flatMap {α : Type} {xs : List α} {f : α → List Sample} (key : String)
    (name : α → String) (distinct : (xs.map name).Nodup)
    (labelled : ∀ x ∈ xs, ∀ sample ∈ f x, sample.attributes[key]? = some (name x))
    (each : ∀ x ∈ xs, Distinct (f x)) : Distinct (xs.flatMap f) := by
  rw [Distinct, List.map_flatMap, List.nodup_flatMap]
  refine ⟨each, ?_⟩
  refine (List.pairwise_map.mp distinct).imp_of_mem ?_
  intro x y hx hy apart
  refine List.disjoint_left.mpr fun series first second => apart ?_
  obtain ⟨sample, mem, rfl⟩ := List.mem_map.mp first
  obtain ⟨sample', mem', same⟩ := List.mem_map.mp second
  have own := labelled x hx sample mem
  have own' := labelled y hy sample' mem'
  have attributes : sample'.attributes = sample.attributes := congrArg Prod.snd same
  rw [attributes, own] at own'
  exact Option.some.inj own'

/-! ## Samples of a collection -/

/-- A call reports each direction once. -/
theorem CounterMap.nodup_directions {K C D S ε : Type} [DecidableEq K] (map : CounterMap K C D S)
    {s : Collector K C} {call : CollectCall K C ε} {snapshot : Snapshot S}
    (collected : (map.collect s call).1 = .ok snapshot) :
    (snapshot.samples.map map.directionOf).Nodup := by
  rw [map.collect_fst] at collected
  cases failed : map.failure call.entries with
  | some error =>
    rw [failed] at collected
    cases collected
  | none =>
    rw [failed] at collected
    cases collected
    have directions : ((map.lookups call.entries).map (map.sampleOf s)).map map.directionOf =
        (map.lookups call.entries).map Lookup.direction := by
      rw [List.map_map]
      exact List.map_congr_left fun lookup _ => map.directionOf_sample _ _ _
    rw [directions]
    -- The key of a lookup is known by its direction.
    refine (List.pairwise_map.mp (map.nodup_lookups call)).imp_of_mem ?_ |> List.pairwise_map.mpr
    intro lookup lookup' mem mem' apart same
    have known := map.direction_of_mem_lookups mem
    rw [same] at known
    exact apart (map.direction_inj known (map.direction_of_mem_lookups mem'))

/-- The two directions of traffic have different names. -/
theorem NetworkDirection.asStr_injective : Function.Injective NetworkDirection.asStr := by
  intro d d'
  cases d <;> cases d' <;> decide

/-- So have the two directions of disk requests. -/
theorem DiskIoDirection.asStr_injective : Function.Injective DiskIoDirection.asStr := by
  intro d d'
  cases d <;> cases d' <;> decide

section Collections

variable {ε : Type}

/-- A collection of traffic makes distinct samples: no direction is met twice. -/
theorem distinct_networkSamples {s : Collector RawNetworkKey RawNetworkCounters}
    {call : CollectCall RawNetworkKey RawNetworkCounters ε} {snapshot : Snapshot NetworkSample}
    (collected : (NetworkCollector.collect s call).1 = .ok snapshot) (timestamp : SystemTime) :
    Distinct (networkSamples timestamp snapshot) := by
  have directions : (snapshot.samples.map fun sample => sample.direction.asStr).Nodup := by
    have distinct := NetworkCollector.map.nodup_directions collected
    have named := distinct.map NetworkDirection.asStr_injective
    rw [List.map_map] at named
    exact named
  rw [networkSamples, ← List.flatMap_pure_eq_map]
  refine distinct_flatMap networkDirectionAttribute _ directions ?_ ?_
  · intro sample _ made mem
    rw [List.mem_singleton.mp mem, networkSample, BTreeMap.get_insert, if_pos rfl]
  · exact fun _ _ => List.nodup_singleton _

/-- What a direction's samples are called, with the latency only if there is one. -/
theorem names_diskIoSamples (timestamp : SystemTime) (sample : DiskIoSample) :
    (diskIoSamples timestamp sample).map Sample.name =
      [diskIoSample, diskOperationsSample, diskErrorsSample] ++
        (if sample.averageLatency.isSome then [diskLatencySample] else []) ++
        [diskQueueDepthSample, diskInFlightBytesSample] := by
  rw [diskIoSamples]
  cases sample.averageLatency <;> rfl

/-- They differ from those of the other direction in their attribute. -/
theorem attributes_diskIoSamples {timestamp : SystemTime} {sample : DiskIoSample} {made : Sample}
    (mem : made ∈ diskIoSamples timestamp sample) :
    made.attributes =
      (∅ : BTreeMap String String).insert diskDirectionAttribute sample.direction.asStr := by
  have all : (diskIoSamples timestamp sample).map Sample.attributes =
      List.replicate (diskIoSamples timestamp sample).length
        ((∅ : BTreeMap String String).insert diskDirectionAttribute sample.direction.asStr) := by
    rw [diskIoSamples]
    cases sample.averageLatency <;> rfl
  have mem' := List.mem_map_of_mem (f := Sample.attributes) mem
  rw [all] at mem'
  exact List.eq_of_mem_replicate mem'

/-- So a collection of disk requests makes distinct samples. -/
theorem distinct_diskSamples {s : Collector RawDiskIoKey RawDiskIoCounters}
    {call : CollectCall RawDiskIoKey RawDiskIoCounters ε} {snapshot : Snapshot DiskIoSample}
    (collected : (DiskIoCollector.collect s call).1 = .ok snapshot) (timestamp : SystemTime) :
    Distinct (diskSamples timestamp snapshot) := by
  have directions : (snapshot.samples.map fun sample => sample.direction.asStr).Nodup := by
    have distinct := DiskIoCollector.map.nodup_directions collected
    have named := distinct.map DiskIoDirection.asStr_injective
    rw [List.map_map] at named
    exact named
  refine distinct_flatMap diskDirectionAttribute _ directions ?_ ?_
  · intro sample _ made mem
    rw [attributes_diskIoSamples mem, BTreeMap.get_insert, if_pos rfl]
  · intro sample _
    refine distinct_of_names ?_
    rw [names_diskIoSamples]
    generalize sample.averageLatency.isSome = completed
    cases completed <;> decide

/-- A collection of CPU times makes distinct samples, one for each CPU and mode. -/
theorem distinct_cpuSamples {n : ℕ} (few : n ≤ 2 ^ 32) {s : CpuCollector n}
    {windowDuration : Duration} {error : Option ε} {snapshots : List CpuSnapshot}
    (collected : (s.collect windowDuration error).2 = .ok snapshots) (timestamp : SystemTime) :
    Distinct (snapshots.flatMap (cpuSamples timestamp)) := by
  refine distinct_flatMap cpuLogicalNumberAttribute (fun snapshot => toString snapshot.cpu) ?_ ?_ ?_
  · have numbers : snapshots.map (fun snapshot => toString snapshot.cpu) =
        (List.range' 0 n).map fun cpu => toString (UInt32.ofNat cpu) := by
      cases error with
      | some error => cases collected
      | none =>
        cases collected
        have indices := List.zipIdx_map_snd 0 (List.ofFn s.cpuCountersMap)
        rw [List.length_ofFn] at indices
        rw [← indices, List.map_map, List.map_map]
        rfl
    rw [numbers]
    refine List.Nodup.map_on ?_ (List.nodup_range' ..)
    intro cpu mem cpu' mem' same
    have inRange := List.mem_range'_1.mp mem
    have inRange' := List.mem_range'_1.mp mem'
    have number := congrArg UInt32.toNat (UInt32.toNat_inj.mp (Nat.repr_injective same))
    rw [UInt32.toNat_ofNat', UInt32.toNat_ofNat', Nat.mod_eq_of_lt (by omega),
      Nat.mod_eq_of_lt (by omega)] at number
    exact number
  · intro snapshot _ made mem
    obtain ⟨state, _, rfl⟩ := List.mem_map.mp mem
    rw [BTreeMap.get_insert, if_neg (by decide), BTreeMap.get_insert, if_pos rfl]
  · intro snapshot _
    refine distinct_of_attributes [cpuStateAttribute] ?_
    simp [cpuSamples]

/-- The samples of memory are distinct by name. -/
theorem distinct_memorySamples (timestamp : SystemTime) (sample : MemorySample) :
    Distinct (memorySamples timestamp sample) := by
  refine distinct_of_attributes
    [memoryStateAttribute, swapStateAttribute, swapDirectionAttribute] ?_
  have table : ((memorySamples timestamp sample).map fun sample => (sample.name,
      [memoryStateAttribute, swapStateAttribute, swapDirectionAttribute].map
        fun key => sample.attributes[key]?)) =
      ["total", "used", "available", "free", "cached"].map
          (fun state => (memoryUsageSample, [some state, none, none])) ++
        [(memoryUtilizationSample, [none, none, none])] ++
        ["total", "used", "free"].map (fun state => (swapUsageSample, [none, some state, none])) ++
        [(swapUtilizationSample, [none, none, none])] ++
        ["in", "out"].map fun direction => (swapIoSample, [none, none, some direction]) := by
    simp [memorySamples, stateAttributes, memoryStateAttribute, swapStateAttribute,
      swapDirectionAttribute]
  rw [table]
  decide

/-- So are those of one filesystem. -/
theorem distinct_filesystemSamples (timestamp : SystemTime) (sample : FilesystemSample) :
    Distinct (filesystemSamples timestamp sample) := by
  refine distinct_of_attributes [filesystemStateAttribute] ?_
  have stateless : (baseAttributes sample)[filesystemStateAttribute]? = none := by
    rw [baseAttributes]
    cases sample.filesystemType <;> cases sample.mode <;>
      simp [mountpointAttribute, filesystemTypeAttribute, filesystemModeAttribute,
        filesystemStateAttribute]
  simp only [filesystemSamples, List.map_cons, List.map_nil, stateless, BTreeMap.get_insert,
    if_true]
  decide

/-- They have the mount point for an attribute, by which those of different filesystems differ. -/
theorem attributes_filesystemSamples {timestamp : SystemTime} {sample : FilesystemSample}
    {made : Sample} (mem : made ∈ filesystemSamples timestamp sample) :
    made.attributes[mountpointAttribute]? = some sample.mountpoint := by
  have kept (attributes : BTreeMap String String) {key : String} (other : key ≠ mountpointAttribute)
      (value : Option String) :
      (value.elim attributes (attributes.insert key))[mountpointAttribute]? =
        attributes[mountpointAttribute]? := by
    cases value with
    | none => rfl
    | some value => rw [Option.elim_some, BTreeMap.get_insert, if_neg other]
  have base : (baseAttributes sample)[mountpointAttribute]? = some sample.mountpoint := by
    rw [baseAttributes, kept _ (by decide), kept _ (by decide), BTreeMap.get_insert, if_pos rfl]
  have other : filesystemStateAttribute ≠ mountpointAttribute := by decide
  simp only [filesystemSamples, List.mem_cons, List.not_mem_nil, or_false] at mem
  rcases mem with rfl | rfl | rfl | rfl | rfl
  · exact base
  all_goals
    rw [BTreeMap.get_insert, if_neg other]
    exact base

/-- Samples of mount points that are configured once each. -/
theorem distinct_storageSamples {s : StorageProvider} (once : s.mounts.Nodup)
    {contents : Except String String} {statvfs : ℕ → Except ε StatVfs} {now : ℕ → SystemTime}
    {samples : List Sample} (collected : s.collect contents statvfs now = .ok samples) :
    Distinct samples := by
  obtain ⟨reports, sublist, rfl⟩ := StorageProvider.collect_ok collected
  refine distinct_flatMap mountpointAttribute (fun report => report.1.mountpoint) ?_ ?_ ?_
  · have mountpoints : reports.zipIdx.map (fun report => report.1.mountpoint) =
        reports.map FilesystemSample.mountpoint := by
      conv_rhs => rw [← List.zipIdx_map_fst 0 reports, List.map_map]
      rfl
    rw [mountpoints]
    exact once.sublist sublist
  · exact fun report _ made mem => attributes_filesystemSamples mem
  · exact fun report _ => distinct_filesystemSamples _ report.1

/-- The samples of one pod are distinct by name. -/
theorem distinct_podSamples (baseline : Option PodBaseline) (timestamp : SystemTime)
    (reading : PodReading) : Distinct (podSamples baseline timestamp reading) := by
  refine distinct_of_names ?_
  rw [podSamples]
  cases reading.baseline with
  | none => exact List.nodup_nil
  | some current =>
    rw [Option.elim_some]
    cases measured PodBaseline.Follows baseline (.read current) with
    | none => exact List.nodup_singleton _
    | some pair =>
      show (tcpEstablishedSample :: TcpCounter.all.map TcpCounter.sampleName).Nodup
      decide

/-- They have the pod for their attributes. -/
theorem attributes_podSamples {baseline : Option PodBaseline} {timestamp : SystemTime}
    {reading : PodReading} {made : Sample} (mem : made ∈ podSamples baseline timestamp reading) :
    made.attributes = podAttributes reading.pod := by
  rw [podSamples] at mem
  cases read : reading.baseline with
  | none =>
    rw [read] at mem
    cases mem
  | some current =>
    rw [read, Option.elim_some] at mem
    rcases List.mem_cons.mp mem with rfl | mem
    · rfl
    · cases grown : measured PodBaseline.Follows baseline (.read current) with
      | none =>
        rw [grown] at mem
        cases mem
      | some pair =>
        rw [grown] at mem
        obtain ⟨counter, _, rfl⟩ := List.mem_map.mp mem
        rfl

/-- So a round makes distinct samples: no pod is listed twice. -/
theorem distinct_tcpSamples {s : TcpProvider} {round : Round} {samples : List Sample}
    (collected : (s.collect round).1 = .ok samples) : Distinct samples := by
  cases round with
  | error => cases collected
  | ok listing =>
    rw [s.collect_ok] at collected
    cases collected
    refine distinct_flatMap podUidAttribute (fun reading => reading.pod.uid.asStr) ?_ ?_ ?_
    · have named := listing.distinct.map fun uid uid' same => (PodUid.mk.injEq ..).mpr same
      rw [List.map_map] at named
      exact named
    · intro reading _ made mem
      rw [attributes_podSamples mem, podAttributes, BTreeMap.get_insert, if_pos rfl]
    · exact fun reading _ => distinct_podSamples _ _ reading

end Collections

end Talia
