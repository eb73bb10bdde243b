import Talia.Agent.Samples

/-!
# Export

The OTLP sink has an instrument for each name that a provider gives its samples. A sample goes to
the instrument of its name if its value is of the instrument's kind, with its own attributes and the
version of the configuration; any other sample is dropped.

No provider makes a sample that is dropped, and in one collection no two go to one series of one
instrument (`samples_exported`). What the exporter makes of a recording is not here.
-/

namespace Talia

open Meter

/-! ## The sink -/

inductive ValueKind where
  | counter
  | gaugeU64
  | gaugeI64
  | gaugeF64
  deriving DecidableEq

def SampleValue.kind : SampleValue → ValueKind
  | .counter _ => .counter
  | .gaugeU64 _ => .gaugeU64
  | .gaugeI64 _ => .gaugeI64
  | .gaugeF64 _ => .gaugeF64

/-- The instruments of the sink. -/
inductive Instrument where
  | filesystemUsage
  | filesystemLimit
  | filesystemUtilization
  | memoryUsage
  | memoryUtilization
  | swapUsage
  | swapUtilization
  | swapIo
  | cpuUtilization
  | networkIo
  | diskIo
  | diskOperations
  | diskErrors
  | diskLatency
  | diskQueueDepth
  | diskInFlightBytes
  | tcpRetransmits
  | tcpSegmentsSent
  | tcpSegmentsReceived
  | tcpTimeouts
  | tcpFastRetransmits
  | tcpEstablished
  deriving DecidableEq

namespace Instrument

/-- The kind and the name an instrument is built with. -/
def build : Instrument → ValueKind × String
  | .filesystemUsage => (.gaugeU64, "system.filesystem.usage")
  | .filesystemLimit => (.gaugeU64, "system.filesystem.limit")
  | .filesystemUtilization => (.gaugeF64, "system.filesystem.utilization")
  | .memoryUsage => (.gaugeU64, "system.memory.usage")
  | .memoryUtilization => (.gaugeF64, "system.memory.utilization")
  | .swapUsage => (.gaugeU64, "system.linux.memory.swap.usage")
  | .swapUtilization => (.gaugeF64, "system.linux.memory.swap.utilization")
  | .swapIo => (.counter, "system.linux.memory.swap.io")
  | .cpuUtilization => (.gaugeF64, "system.cpu.utilization")
  | .networkIo => (.counter, "system.network.io")
  | .diskIo => (.counter, "system.disk.io")
  | .diskOperations => (.counter, "system.disk.operations")
  | .diskErrors => (.counter, "system.disk.errors")
  | .diskLatency => (.gaugeF64, "system.disk.io.latency")
  | .diskQueueDepth => (.gaugeI64, "system.disk.io.queue_depth")
  | .diskInFlightBytes => (.gaugeI64, "system.disk.io.in_flight")
  | .tcpRetransmits => (.counter, "system.network.tcp.retransmits")
  | .tcpSegmentsSent => (.counter, "system.network.tcp.segments.sent")
  | .tcpSegmentsReceived => (.counter, "system.network.tcp.segments.received")
  | .tcpTimeouts => (.counter, "system.network.tcp.timeouts")
  | .tcpFastRetransmits => (.counter, "system.network.tcp.fast_retransmits")
  | .tcpEstablished => (.gaugeU64, "system.network.tcp.connections.established")

end Instrument

/-- What an instrument is given: a counter adds the value, a gauge records it. -/
structure Recording where
  instrument : Instrument
  value : SampleValue
  attributes : List (String × String)

namespace OtlpSink

def configVersionAttribute : String := "talia.config.version"

/-- The sample's own attributes and the version of the configuration. -/
def sampleAttributes (configVersion : String) (sample : Sample) : List (String × String) :=
  sample.attributes.toList ++ [(configVersionAttribute, configVersion)]

/-- The arms of `emit`: a name and a kind of value, and the instrument they go to. -/
def arms : List (String × ValueKind × Instrument) := [
  (filesystemLimitSample, .gaugeU64, .filesystemLimit),
  (filesystemUsageSample, .gaugeU64, .filesystemUsage),
  (filesystemUtilizationSample, .gaugeF64, .filesystemUtilization),
  (memoryUsageSample, .gaugeU64, .memoryUsage),
  (memoryUtilizationSample, .gaugeF64, .memoryUtilization),
  (swapUsageSample, .gaugeU64, .swapUsage),
  (swapUtilizationSample, .gaugeF64, .swapUtilization),
  (swapIoSample, .counter, .swapIo),
  (cpuUtilizationSample, .gaugeF64, .cpuUtilization),
  (networkIoSample, .counter, .networkIo),
  (diskIoSample, .counter, .diskIo),
  (diskOperationsSample, .counter, .diskOperations),
  (diskErrorsSample, .counter, .diskErrors),
  (diskLatencySample, .gaugeF64, .diskLatency),
  (diskQueueDepthSample, .gaugeI64, .diskQueueDepth),
  (diskInFlightBytesSample, .gaugeI64, .diskInFlightBytes),
  (tcpRetransmitsSample, .counter, .tcpRetransmits),
  (tcpSegmentsSentSample, .counter, .tcpSegmentsSent),
  (tcpSegmentsReceivedSample, .counter, .tcpSegmentsReceived),
  (tcpTimeoutsSample, .counter, .tcpTimeouts),
  (tcpFastRetransmitsSample, .counter, .tcpFastRetransmits),
  (tcpEstablishedSample, .gaugeU64, .tcpEstablished)]

/-- What the sink does with a sample; a sample without an arm is dropped. -/
def emit (configVersion : String) (sample : Sample) : Option Recording :=
  (arms.find? fun arm => arm.1 = sample.name ∧ arm.2.1 = sample.value.kind).map fun arm =>
    ⟨arm.2.2, sample.value, sampleAttributes configVersion sample⟩

/-! ## Where a sample goes -/

/-- The sample has an arm. -/
def Routed (sample : Sample) : Prop :=
  (sample.name, sample.value.kind) ∈ arms.map fun arm => (arm.1, arm.2.1)

/-- An arm is for the instrument that was built for it. -/
theorem build_of_mem_arms {arm : String × ValueKind × Instrument} (mem : arm ∈ arms) :
    arm.2.2.build = (arm.2.1, arm.1) := by
  have all : ∀ arm ∈ arms, arm.2.2.build = (arm.2.1, arm.1) := by decide
  exact all arm mem

/-- What a sample is recorded as. -/
theorem emit_eq_some {configVersion : String} {sample : Sample} {recording : Recording}
    (emitted : emit configVersion sample = some recording) :
    recording.instrument.build = (sample.value.kind, sample.name) ∧
      recording.value = sample.value ∧
      recording.attributes = sampleAttributes configVersion sample := by
  obtain ⟨arm, found, rfl⟩ := Option.map_eq_some_iff.mp emitted
  have matched := List.find?_some found
  obtain ⟨name, kind⟩ := of_decide_eq_true matched
  refine ⟨?_, rfl, rfl⟩
  rw [build_of_mem_arms (List.mem_of_find?_eq_some found), name, kind]

/-- A sample that has an arm is not dropped. -/
theorem exists_emit_of_routed {sample : Sample} (routed : Routed sample) (configVersion : String) :
    ∃ recording, emit configVersion sample = some recording := by
  obtain ⟨arm, mem, same⟩ := List.mem_map.mp routed
  obtain ⟨name, kind⟩ := Prod.mk.inj same
  cases found : arms.find? fun arm => arm.1 = sample.name ∧ arm.2.1 = sample.value.kind with
  | none => exact absurd (decide_eq_true ⟨name, kind⟩) (List.find?_eq_none.mp found arm mem)
  | some arm => exact ⟨_, congrArg (Option.map _) found⟩

/-- What a collection is exported as. -/
def emitAll (configVersion : String) (samples : List Sample) : List Recording :=
  samples.filterMap (emit configVersion)

/-- Each sample is recorded in the instrument of its name, which is of the kind of its value, with
its own attributes and the version. -/
def Exports (configVersion : String) (samples : List Sample) : Prop :=
  ∀ sample ∈ samples, ∃ instrument : Instrument,
    instrument.build = (sample.value.kind, sample.name) ∧
      emit configVersion sample =
        some ⟨instrument, sample.value, sampleAttributes configVersion sample⟩

/-- No two samples are recorded in one series of an instrument. -/
def Apart (configVersion : String) (samples : List Sample) : Prop :=
  ((emitAll configVersion samples).map fun recording =>
    (recording.instrument, recording.attributes)).Nodup

/-- Samples that have their instruments are exported, each with the attributes it has. -/
theorem exports_of_routed {samples : List Sample} (routed : ∀ sample ∈ samples, Routed sample)
    (configVersion : String) : Exports configVersion samples := by
  intro sample mem
  obtain ⟨⟨instrument, value, attributes⟩, emitted⟩ :=
    exists_emit_of_routed (routed sample mem) configVersion
  obtain ⟨build, rfl, rfl⟩ := emit_eq_some emitted
  exact ⟨instrument, build, emitted⟩

/-- Samples of different series are recorded in different ones. -/
theorem apart_of_distinct {samples : List Sample} (distinct : Distinct samples)
    (configVersion : String) : Apart configVersion samples := by
  rw [Apart, emitAll, List.Nodup, List.pairwise_map, List.pairwise_filterMap]
  refine (List.pairwise_map.mp distinct).imp ?_
  intro sample sample' other recording emitted recording' emitted' same
  obtain ⟨build, -, attributes⟩ := emit_eq_some emitted
  obtain ⟨build', -, attributes'⟩ := emit_eq_some emitted'
  obtain ⟨instrument, all⟩ := Prod.mk.inj same
  rw [instrument, build'] at build
  rw [attributes, attributes'] at all
  obtain ⟨own, -⟩ := List.append_inj' all rfl
  refine other (Prod.ext ?_ ?_)
  · exact (Prod.mk.inj build).2.symm
  · exact Std.ExtTreeMap.toList_inj.mp own

/-! ## What providers make -/

section Providers

variable {ε : Type}

/-- Samples whose names and kinds are in a table that has an arm for each. -/
theorem routed_of_table {samples : List Sample} (table : List (String × ValueKind))
    (listed : samples.map (fun sample => (sample.name, sample.value.kind)) = table)
    (known : ∀ entry ∈ table, entry ∈ arms.map fun arm => (arm.1, arm.2.1)) :
    ∀ sample ∈ samples, Routed sample := by
  intro sample mem
  refine known _ ?_
  rw [← listed]
  exact List.mem_map_of_mem mem

/-- The samples of a filesystem have their instruments, -/
theorem routed_filesystemSamples (timestamp : SystemTime) (sample : FilesystemSample) :
    ∀ made ∈ filesystemSamples timestamp sample, Routed made :=
  routed_of_table [(filesystemLimitSample, .gaugeU64), (filesystemUsageSample, .gaugeU64),
    (filesystemUsageSample, .gaugeU64), (filesystemUsageSample, .gaugeU64),
    (filesystemUtilizationSample, .gaugeF64)] rfl (by decide)

/-- so have those of memory, -/
theorem routed_memorySamples (timestamp : SystemTime) (sample : MemorySample) :
    ∀ made ∈ memorySamples timestamp sample, Routed made :=
  routed_of_table (List.replicate 5 (memoryUsageSample, .gaugeU64) ++
    [(memoryUtilizationSample, .gaugeF64)] ++ List.replicate 3 (swapUsageSample, .gaugeU64) ++
    [(swapUtilizationSample, .gaugeF64)] ++ List.replicate 2 (swapIoSample, .counter))
    rfl (by decide)

/-- of a CPU, -/
theorem routed_cpuSamples (timestamp : SystemTime) (snapshot : CpuSnapshot) :
    ∀ made ∈ cpuSamples timestamp snapshot, Routed made :=
  routed_of_table (List.replicate 3 (cpuUtilizationSample, .gaugeF64)) rfl (by decide)

/-- of traffic, -/
theorem routed_networkSample (timestamp : SystemTime) (sample : NetworkSample) :
    Routed (networkSample timestamp sample) := by
  show (networkIoSample, ValueKind.counter) ∈ _
  decide

/-- of disk requests, -/
theorem routed_diskIoSamples (timestamp : SystemTime) (sample : DiskIoSample) :
    ∀ made ∈ diskIoSamples timestamp sample, Routed made := by
  have listed : (diskIoSamples timestamp sample).map
      (fun sample => (sample.name, sample.value.kind)) =
        [(diskIoSample, .counter), (diskOperationsSample, .counter), (diskErrorsSample, .counter)] ++
          (if sample.averageLatency.isSome then [(diskLatencySample, .gaugeF64)] else []) ++
          [(diskQueueDepthSample, .gaugeI64), (diskInFlightBytesSample, .gaugeI64)] := by
    rw [diskIoSamples]
    cases sample.averageLatency <;> rfl
  refine routed_of_table _ listed ?_
  generalize sample.averageLatency.isSome = completed
  cases completed <;> decide

/-- and of a pod. -/
theorem routed_podSamples (baseline : Option PodBaseline) (timestamp : SystemTime)
    (reading : PodReading) : ∀ made ∈ podSamples baseline timestamp reading, Routed made := by
  rw [podSamples]
  cases reading.baseline with
  | none => exact fun _ mem => absurd mem List.not_mem_nil
  | some current =>
    rw [Option.elim_some]
    cases measured PodBaseline.Follows baseline (.read current) with
    | none => exact routed_of_table [(tcpEstablishedSample, .gaugeU64)] rfl (by decide)
    | some pair =>
      exact routed_of_table ((tcpEstablishedSample, .gaugeU64) ::
        TcpCounter.all.map fun counter => (counter.sampleName, .counter)) rfl (by decide)

end Providers

/-- **What providers make is exported, each sample as what it is.** Whatever state a provider is in
and whatever it finds, each sample of its collection goes to the instrument of its name, with its own
attributes and the version of the configuration, and no two to one series of an instrument; of the
storage provider, if no mount point is configured twice. -/
theorem samples_exported {ε : Type} (configVersion : String) :
    (∀ (s : StorageProvider) contents (statvfs : ℕ → Except ε StatVfs) now samples,
      s.collect contents statvfs now = .ok samples →
        Exports configVersion samples ∧ (s.mounts.Nodup → Apart configVersion samples)) ∧
    (∀ (s : MemoryCollector) files sample now, (s.collect files).1 = .ok sample →
      Exports configVersion (memorySamples now sample) ∧
        Apart configVersion (memorySamples now sample)) ∧
    (∀ n ≤ 2 ^ 32, ∀ (s : CpuCollector n) windowDuration (error : Option ε) snapshots now,
      (s.collect windowDuration error).2 = .ok snapshots →
        Exports configVersion (snapshots.flatMap (cpuSamples now)) ∧
          Apart configVersion (snapshots.flatMap (cpuSamples now))) ∧
    (∀ s (call : CollectCall RawNetworkKey RawNetworkCounters ε) snapshot now,
      (NetworkCollector.collect s call).1 = .ok snapshot →
        Exports configVersion (networkSamples now snapshot) ∧
          Apart configVersion (networkSamples now snapshot)) ∧
    (∀ (s : TcpProvider) round samples, (s.collect round).1 = .ok samples →
      Exports configVersion samples ∧ Apart configVersion samples) ∧
    (∀ s (call : CollectCall RawDiskIoKey RawDiskIoCounters ε) snapshot now,
      (DiskIoCollector.collect s call).1 = .ok snapshot →
        Exports configVersion (diskSamples now snapshot) ∧
          Apart configVersion (diskSamples now snapshot)) := by
  refine ⟨?_, ?_, ?_, ?_, ?_, ?_⟩
  · intro s contents statvfs now samples collected
    refine ⟨exports_of_routed ?_ _, fun once =>
      apart_of_distinct (distinct_storageSamples once collected) _⟩
    intro made mem
    obtain ⟨reports, -, rfl⟩ := StorageProvider.collect_ok collected
    obtain ⟨⟨sample, turn⟩, _, own⟩ := List.mem_flatMap.mp mem
    exact routed_filesystemSamples _ sample made own
  · intro s files sample now _
    exact ⟨exports_of_routed (routed_memorySamples now sample) _,
      apart_of_distinct (distinct_memorySamples now sample) _⟩
  · intro n few s windowDuration error snapshots now collected
    refine ⟨exports_of_routed ?_ _, apart_of_distinct (distinct_cpuSamples few collected now) _⟩
    intro made mem
    obtain ⟨snapshot, _, own⟩ := List.mem_flatMap.mp mem
    exact routed_cpuSamples now snapshot made own
  · intro s call snapshot now collected
    refine ⟨exports_of_routed ?_ _, apart_of_distinct (distinct_networkSamples collected now) _⟩
    intro made mem
    obtain ⟨sample, _, rfl⟩ := List.mem_map.mp mem
    exact routed_networkSample now sample
  · intro s round samples collected
    refine ⟨exports_of_routed ?_ _, apart_of_distinct (distinct_tcpSamples collected) _⟩
    intro made mem
    cases round with
    | error => cases collected
    | ok listing =>
      rw [s.collect_ok] at collected
      cases collected
      obtain ⟨reading, _, own⟩ := List.mem_flatMap.mp mem
      exact routed_podSamples _ _ reading made own
  · intro s call snapshot now collected
    refine ⟨exports_of_routed ?_ _, apart_of_distinct (distinct_diskSamples collected now) _⟩
    intro made mem
    obtain ⟨sample, _, own⟩ := List.mem_flatMap.mp mem
    exact routed_diskIoSamples now sample made own

/-- What is collected of one mount point. -/
theorem samples_exported_mount : ∃ samples : List Sample,
    (⟨["/"]⟩ : StorageProvider).collect (.ok "")
      (fun _ => (.ok ⟨4096, 100, 20, 15⟩ : Except String StatVfs)) (fun _ => 0) = .ok samples ∧
    samples ≠ [] ∧ Exports "v1" samples ∧ Apart "v1" samples := by
  obtain ⟨stored, -⟩ := samples_exported (ε := String) "v1"
  obtain ⟨exported, apart⟩ := stored ⟨["/"]⟩ (.ok "") (fun _ => .ok ⟨4096, 100, 20, 15⟩)
    (fun _ => 0) _ rfl
  exact ⟨_, rfl, List.cons_ne_nil _ _, exported, apart (List.nodup_singleton _)⟩

end OtlpSink

end Talia
