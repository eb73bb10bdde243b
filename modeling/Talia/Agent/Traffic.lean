import Talia.Core.Pipeline
import Talia.Lib.Keyed
import Talia.Lib.Meter
import Talia.Lib.Saturating

/-!
# Network and disk traffic

The two collectors read a map of per-CPU counters that only grow. A call goes over the keys of the
map, sums the counters of each over the CPUs, keeps the sum for the next call, and reports what it
has grown by. The iteration may fail at any key and so may any lookup; the call then ends with the
error.

The sums are kept key by key inside the loop. A call that fails has already kept those of the keys
before the failure, and what these have grown by is in no sample: it is lost, unless the call finds
nothing new there (`collect_error_keeps_iff`). For one key the collector is a meter
(`Talia.Lib.Meter`), and over the runs in which no failing call finds anything new the samples add up
to the counters (`traffic_conserved`).
-/

namespace Talia

open Transition Meter

/-! ## The map -/

section Map

variable {K C D S ε : Type}

/-- A step of the iteration over a map: the key and what its lookup comes to, or an error. -/
inductive Entry (K C ε : Type) where
  | failed (error : ε)
  | key (key : K) (values : Except ε (List C))

/-- The key of an entry, unless the map failed there. -/
def Entry.key? : Entry K C ε → Option K
  | .failed _ => none
  | .key found _ => some found

/-- A call of `collect`, and what it finds in the map. A map has each key once. -/
structure CollectCall (K C ε : Type) where
  windowDuration : Duration
  entries : List (Entry K C ε)
  distinct : (entries.filterMap Entry.key?).Nodup

/-- The samples of a collection window. -/
structure Snapshot (S : Type) where
  windowDuration : Duration
  samples : List S

/-- What a collector does with its map: the direction a key stands for, the sum of the per-CPU
counters, and the sample made of the sum and the one before it. -/
structure CounterMap (K C D S : Type) where
  direction : K → Option D
  sumCounters : List C → C
  default : C
  sample : D → C → C → S
  directionOf : S → D
  direction_inj : ∀ {key key' d}, direction key = some d → direction key' = some d → key = key'
  directionOf_sample : ∀ d current previous, directionOf (sample d current previous) = d

/-- A collector: the sums it keeps. -/
structure Collector (K C : Type) where
  previous : K → Option C

namespace Collector

/-- A collector that has collected nothing. -/
def new : Collector K C := ⟨fun _ => none⟩

variable [DecidableEq K]

/-- `insert` of the map of sums. -/
def insert (s : Collector K C) (key : K) (current : C) : Collector K C :=
  ⟨Function.update s.previous key (some current)⟩

end Collector

namespace CounterMap

variable [DecidableEq K] (map : CounterMap K C D S)

/-- The loop of `collect`: an error ends it with the sums kept so far. -/
def collectEntries (s : Collector K C) (samples : List S) :
    List (Entry K C ε) → Except ε (List S) × Collector K C
  | [] => (.ok samples, s)
  | .failed error :: _ => (.error error, s)
  | .key key values :: entries =>
    match map.direction key with
    | none => collectEntries s samples entries
    | some direction =>
      match values with
      | .error error => (.error error, s)
      | .ok values =>
        let current := map.sumCounters values
        let previous := (s.previous key).getD map.default
        collectEntries (s.insert key current) (samples ++ [map.sample direction current previous])
          entries

/-- A call reads the entries up to the first failure. What it has read by then stays the baseline of
its key. -/
def collect (s : Collector K C) (call : CollectCall K C ε) : Except ε (Snapshot S) × Collector K C :=
  match map.collectEntries s [] call.entries with
  | (.ok samples, s) => (.ok ⟨call.windowDuration, samples⟩, s)
  | (.error error, s) => (.error error, s)

/-- The collector after a call. -/
def step (s : Collector K C) (call : CollectCall K C ε) : Collector K C := (map.collect s call).2

/-- The snapshots of the calls that succeed. -/
def snapshots (s : Collector K C) (calls : List (CollectCall K C ε)) : List (Snapshot S) :=
  outputs map.step (fun s call => (map.collect s call).1.toOption) s calls

end CounterMap

end Map

/-! ## Network -/

variable {ε : Type}

inductive NetworkDirection where
  /-- Bytes received by an interface. -/
  | ingress
  /-- Bytes transmitted by an interface. -/
  | egress
  deriving DecidableEq

/-- What a window has counted of a direction. -/
structure NetworkSample where
  direction : NetworkDirection
  bytes : UInt64
  packets : UInt64

/-- The padding is always zero. -/
structure RawNetworkKey where
  direction : UInt8
  deriving DecidableEq

/-- What a CPU has counted of a key, from the start. -/
structure RawNetworkCounters where
  bytes : UInt64
  packets : UInt64
  deriving DecidableEq

def RawNetworkCounters.default : RawNetworkCounters := ⟨0, 0⟩

namespace NetworkCollector

/-- The directions the kernel counts under. Other keys are skipped. -/
def direction (key : RawNetworkKey) : Option NetworkDirection :=
  match key.direction with
  | 1 => some .ingress
  | 2 => some .egress
  | _ => none

/-- The counters of all CPUs. -/
def sumCounters (counters : List RawNetworkCounters) : RawNetworkCounters :=
  counters.foldl (fun total value =>
    { bytes := Saturating.add total.bytes value.bytes
      packets := Saturating.add total.packets value.packets }) .default

/-- What the counters have grown by since the last snapshot. -/
def sample (direction : NetworkDirection) (current previous : RawNetworkCounters) :
    NetworkSample where
  direction
  bytes := Saturating.sub current.bytes previous.bytes
  packets := Saturating.sub current.packets previous.packets

/-- Two keys are not of one direction. -/
theorem direction_inj {key key' : RawNetworkKey} {d : NetworkDirection}
    (decoded : direction key = some d) (decoded' : direction key' = some d) : key = key' := by
  obtain ⟨raw⟩ := key
  obtain ⟨raw'⟩ := key'
  unfold direction at decoded decoded'
  split at decoded <;> split at decoded' <;> cases decoded <;> cases decoded' <;> simp_all

/-- The collector of traffic is the general one, at these. -/
def map : CounterMap RawNetworkKey RawNetworkCounters NetworkDirection NetworkSample where
  direction := direction
  sumCounters := sumCounters
  default := .default
  sample := sample
  directionOf := NetworkSample.direction
  direction_inj := direction_inj
  directionOf_sample _ _ _ := rfl

def collect (s : Collector RawNetworkKey RawNetworkCounters)
    (call : CollectCall RawNetworkKey RawNetworkCounters ε) :
    Except ε (Snapshot NetworkSample) × Collector RawNetworkKey RawNetworkCounters :=
  map.collect s call

end NetworkCollector

/-! ## Disk I/O -/

inductive DiskIoDirection where
  /-- Bytes read from block devices. -/
  | read
  /-- Bytes written to block devices. -/
  | write
  deriving DecidableEq

/-- What a window has counted of a direction, and what is in flight at its end. -/
structure DiskIoSample where
  direction : DiskIoDirection
  bytes : UInt64
  operations : UInt64
  errors : UInt64
  averageLatency : Option Duration
  inFlightOperations : Int64
  inFlightBytes : Int64

/-- The padding is always zero. -/
structure RawDiskIoKey where
  direction : UInt8
  deriving DecidableEq

/-- What a CPU has counted of a key. What is in flight is signed, since a request can be issued on
one CPU and completed on another. -/
structure RawDiskIoCounters where
  bytes : UInt64
  operations : UInt64
  latencyNs : UInt64
  errors : UInt64
  inFlightBytes : Int64
  inFlightOperations : Int64
  deriving DecidableEq

def RawDiskIoCounters.default : RawDiskIoCounters := ⟨0, 0, 0, 0, 0, 0⟩

/-- No latency is averaged over no requests. -/
def averageLatency (latencyNs operations : UInt64) : Option Duration :=
  if operations = 0 then none else some (latencyNs / operations).toNat

namespace DiskIoCollector

/-- The directions of requests. Other keys are skipped. -/
def direction (key : RawDiskIoKey) : Option DiskIoDirection :=
  match key.direction with
  | 1 => some .read
  | 2 => some .write
  | _ => none

/-- The counters of all CPUs, of which those in flight can cancel out. -/
def sumCounters (counters : List RawDiskIoCounters) : RawDiskIoCounters :=
  counters.foldl (fun total value =>
    { bytes := Saturating.add total.bytes value.bytes
      operations := Saturating.add total.operations value.operations
      latencyNs := Saturating.add total.latencyNs value.latencyNs
      errors := Saturating.add total.errors value.errors
      inFlightBytes := Saturating.signedAdd total.inFlightBytes value.inFlightBytes
      inFlightOperations :=
        Saturating.signedAdd total.inFlightOperations value.inFlightOperations }) .default

/-- What the counters have grown by since the last snapshot, and what is in flight now. -/
def sample (direction : DiskIoDirection) (current previous : RawDiskIoCounters) : DiskIoSample :=
  let operations := Saturating.sub current.operations previous.operations
  let latencyNs := Saturating.sub current.latencyNs previous.latencyNs
  { direction
    bytes := Saturating.sub current.bytes previous.bytes
    operations
    errors := Saturating.sub current.errors previous.errors
    averageLatency := averageLatency latencyNs operations
    inFlightOperations := current.inFlightOperations
    inFlightBytes := current.inFlightBytes }

/-- Nor are two keys of disk requests. -/
theorem direction_inj {key key' : RawDiskIoKey} {d : DiskIoDirection}
    (decoded : direction key = some d) (decoded' : direction key' = some d) : key = key' := by
  obtain ⟨raw⟩ := key
  obtain ⟨raw'⟩ := key'
  unfold direction at decoded decoded'
  split at decoded <;> split at decoded' <;> cases decoded <;> cases decoded' <;> simp_all

/-- The collector of disk requests is the general one, at these. -/
def map : CounterMap RawDiskIoKey RawDiskIoCounters DiskIoDirection DiskIoSample where
  direction := direction
  sumCounters := sumCounters
  default := .default
  sample := sample
  directionOf := DiskIoSample.direction
  direction_inj := direction_inj
  directionOf_sample _ _ _ := rfl

def collect (s : Collector RawDiskIoKey RawDiskIoCounters)
    (call : CollectCall RawDiskIoKey RawDiskIoCounters ε) :
    Except ε (Snapshot DiskIoSample) × Collector RawDiskIoKey RawDiskIoCounters :=
  map.collect s call

end DiskIoCollector

/-! ## What a call reads -/

section Reading

variable {K C D S : Type}

/-- A lookup of the loop. -/
structure Lookup (K C D : Type) where
  key : K
  direction : D
  values : List C

namespace CounterMap

variable (map : CounterMap K C D S)

/-- The lookups of the loop before it ends. -/
def lookups : List (Entry K C ε) → List (Lookup K C D)
  | [] => []
  | .failed _ :: _ => []
  | .key key values :: entries =>
    match map.direction key with
    | none => lookups entries
    | some direction =>
      match values with
      | .error _ => []
      | .ok values => ⟨key, direction, values⟩ :: lookups entries

/-- The error that ends the loop. -/
def failure : List (Entry K C ε) → Option ε
  | [] => none
  | .failed error :: _ => some error
  | .key key values :: entries =>
    match map.direction key with
    | none => failure entries
    | some _ =>
      match values with
      | .error error => some error
      | .ok _ => failure entries

/-- The sum of a lookup. -/
def current (lookup : Lookup K C D) : C := map.sumCounters lookup.values

/-- The sum a collector measures a key against. -/
def baseline (s : Collector K C) (key : K) : C := (s.previous key).getD map.default

/-- The sample that a lookup adds to the snapshot. -/
def sampleOf (s : Collector K C) (lookup : Lookup K C D) : S :=
  map.sample lookup.direction (map.current lookup) (map.baseline s lookup.key)

/-- The lookups of a call have keys that it visited, in order. -/
theorem lookups_sublist (entries : List (Entry K C ε)) :
    ((map.lookups entries).map Lookup.key).Sublist (entries.filterMap Entry.key?) := by
  fun_induction lookups map entries with
  | case1 => exact List.nil_sublist _
  | case2 => exact List.nil_sublist _
  | case3 key values entries unknown ih => exact ih.cons key
  | case4 => exact List.nil_sublist _
  | case5 key entries direction known values ih => exact ih.cons_cons key

/-- No key is looked up twice. -/
theorem nodup_lookups (call : CollectCall K C ε) :
    ((map.lookups call.entries).map Lookup.key).Nodup :=
  call.distinct.sublist (map.lookups_sublist call.entries)

/-- A lookup is of the direction its key has. -/
theorem direction_of_mem_lookups {entries : List (Entry K C ε)} {lookup : Lookup K C D}
    (mem : lookup ∈ map.lookups entries) : map.direction lookup.key = some lookup.direction := by
  fun_induction lookups map entries with
  | case1 => cases mem
  | case2 => cases mem
  | case3 key values entries unknown ih => exact ih mem
  | case4 => cases mem
  | case5 key entries direction known values ih =>
    cases mem with
    | head => exact known
    | tail _ mem => exact ih mem

/-! ## Counters -/

/-- A counter of the map: its value, and what a sample reports of it. -/
structure Counter where
  value : C → UInt64
  reported : S → UInt64
  value_default : value map.default = 0
  value_sumCounters : ∀ values,
    value (map.sumCounters values) = (values.map value).foldl Saturating.add 0
  reported_sample : ∀ d current previous,
    reported (map.sample d current previous) = Saturating.sub (value current) (value previous)

namespace Counter

variable {map} (counter : map.Counter)

/-- The exact sum over the CPUs. -/
def sum (values : List C) : Nat := (values.map fun value => (counter.value value).toNat).sum

/-- What snapshots report for a direction. -/
def total [DecidableEq D] (direction : D) (snapshots : List (Snapshot S)) : Nat :=
  (((snapshots.flatMap Snapshot.samples).filter (map.directionOf · = direction)).map
    fun sample => (counter.reported sample).toNat).sum

/-- The total of more snapshots adds up. -/
theorem total_append [DecidableEq D] (d : D) (snapshots more : List (Snapshot S)) :
    counter.total d (snapshots ++ more) = counter.total d snapshots + counter.total d more := by
  simp [total]

/-- In order of the calls, what is looked up of a key does not decrease on any CPU. -/
def NonDecreasing (calls : List (CollectCall K C ε)) : Prop :=
  calls.Pairwise fun call call' =>
    ∀ lookup ∈ map.lookups call.entries, ∀ lookup' ∈ map.lookups call'.entries,
      lookup.key = lookup'.key →
        List.Forall₂ (fun a b => counter.value a ≤ counter.value b) lookup.values lookup'.values

/-- No sum over the CPUs saturates. -/
def Fits (calls : List (CollectCall K C ε)) : Prop :=
  ∀ call ∈ calls, ∀ lookup ∈ map.lookups call.entries, counter.sum lookup.values < 2 ^ 64

/-- What fits is summed over the CPUs without saturation. -/
theorem value_current (lookup : Lookup K C D) (fits : counter.sum lookup.values < 2 ^ 64) :
    (counter.value (map.current lookup)).toNat = counter.sum lookup.values := by
  have exact : ((lookup.values.map counter.value).map UInt64.toNat).sum =
      counter.sum lookup.values := by
    rw [List.map_map]
    rfl
  rw [current, counter.value_sumCounters, Saturating.toNat_foldl_add, exact]
  show min (0 + _) _ = _
  omega

/-- If each CPU has counted more, so has the sum. -/
theorem value_current_le {lookup lookup' : Lookup K C D}
    (le : List.Forall₂ (fun a b => counter.value a ≤ counter.value b) lookup.values
      lookup'.values) :
    counter.value (map.current lookup) ≤ counter.value (map.current lookup') := by
  rw [current, current, counter.value_sumCounters, counter.value_sumCounters]
  refine Saturating.foldl_add_le ?_
  rw [List.forall₂_map_left_iff, List.forall₂_map_right_iff]
  exact le

/-- A sum that follows another one. -/
def Follows (first last : C) : Prop := counter.value first ≤ counter.value last

instance : DecidableRel counter.Follows :=
  fun first last => inferInstanceAs (Decidable (counter.value first ≤ counter.value last))

end Counter

/-! ## The loop -/

variable [DecidableEq K]

/-- The lookup of a key. -/
def lookupOf (entries : List (Entry K C ε)) (key : K) : Option (Lookup K C D) :=
  (map.lookups entries).find? (·.key = key)

/-- **The loop**: it keeps the sums of its lookups whether it fails or not, and as each key comes
once, each is measured against the sum before the call. -/
theorem collectEntries_eq {entries : List (Entry K C ε)}
    (distinct : (entries.filterMap Entry.key?).Nodup) (s : Collector K C) (samples : List S) :
    map.collectEntries s samples entries =
      ((map.failure entries).elim
          (.ok (samples ++ (map.lookups entries).map (map.sampleOf s))) .error,
        ⟨fun key => ((map.lookupOf entries key).map map.current).or (s.previous key)⟩) := by
  induction entries generalizing s samples with
  | nil => simp [collectEntries, failure, lookups, lookupOf]
  | cons entry entries ih =>
    cases entry with
    | failed error => simp [collectEntries, failure, lookups, lookupOf]
    | key key values =>
      obtain ⟨fresh, tail⟩ : key ∉ entries.filterMap Entry.key? ∧ (entries.filterMap Entry.key?).Nodup :=
        List.nodup_cons.mp distinct
      have apart : ∀ other ∈ map.lookups entries, other.key ≠ key := by
        intro other mem same
        refine fresh ((map.lookups_sublist entries).subset ?_)
        rw [← same]
        exact List.mem_map_of_mem mem
      cases known : map.direction key with
      | none => simp [collectEntries, failure, lookups, lookupOf, known, ih tail]
      | some direction =>
        cases values with
        | error error => simp [collectEntries, failure, lookups, lookupOf, known]
        | ok values =>
          have same : (map.lookups entries).map (map.sampleOf (s.insert key (map.sumCounters values))) =
              (map.lookups entries).map (map.sampleOf s) := by
            refine List.map_congr_left fun other mem => ?_
            simp [sampleOf, baseline, Collector.insert, apart other mem]
          simp only [collectEntries, failure, lookups, lookupOf, known, ih tail, same]
          congr 1
          · simp [sampleOf, current, baseline]
          · congr 1
            funext other
            by_cases own : key = other
            · subst own
              have unread : (map.lookups entries).find? (·.key = key) = none := by
                simpa using apart
              simp [unread, current, Collector.insert]
            · simp [own, Ne.symm own, Collector.insert]

/-- What a call returns: the samples of its lookups, or the error that ends them. -/
theorem collect_fst (s : Collector K C) (call : CollectCall K C ε) :
    (map.collect s call).1 = (map.failure call.entries).elim
      (.ok ⟨call.windowDuration, (map.lookups call.entries).map (map.sampleOf s)⟩) .error := by
  rw [collect, map.collectEntries_eq call.distinct]
  cases map.failure call.entries with
  | none => rfl
  | some error => rfl

/-- And the sums it keeps. -/
theorem step_previous (s : Collector K C) (call : CollectCall K C ε) (key : K) :
    (map.step s call).previous key =
      ((map.lookupOf call.entries key).map map.current).or (s.previous key) := by
  rw [step, collect, map.collectEntries_eq call.distinct]
  cases map.failure call.entries with
  | none => rfl
  | some error => rfl

/-- The lookup of a key is the one with that key. -/
theorem lookupOf_eq_some_iff {call : CollectCall K C ε} {key : K} {lookup : Lookup K C D} :
    map.lookupOf call.entries key = some lookup ↔
      lookup ∈ map.lookups call.entries ∧ lookup.key = key :=
  Keyed.find?_eq_some_iff (map.nodup_lookups call)

/-- What the call looks up is what the collector has kept. -/
def Idle (s : Collector K C) (call : CollectCall K C ε) : Prop :=
  ∀ lookup ∈ map.lookups call.entries, s.previous lookup.key = some (map.current lookup)

/-- **When a call leaves the sums as they were**: when all it looks up is known. -/
theorem step_eq_iff {s : Collector K C} {call : CollectCall K C ε} :
    map.step s call = s ↔ map.Idle s call := by
  constructor
  · intro kept lookup mem
    have found := map.lookupOf_eq_some_iff.mpr ⟨mem, rfl⟩
    rw [← kept, step_previous, found, Option.map_some, Option.some_or]
  · intro idle
    obtain ⟨previous⟩ := s
    have same : (map.step ⟨previous⟩ call).previous = previous := by
      funext key
      rw [step_previous]
      cases found : map.lookupOf call.entries key with
      | none => exact Option.none_or
      | some lookup =>
        obtain ⟨mem, rfl⟩ := map.lookupOf_eq_some_iff.mp found
        exact (idle lookup mem).symm
    exact congrArg Collector.mk same

/-! ## One key -/

/-- What a call finds of a key. -/
def observation (key : K) (call : CollectCall K C ε) : Observation C :=
  (map.lookupOf call.entries key).elim .silent fun lookup => .read (map.current lookup)

/-- **For one key the collector is a meter**, that starts from zero. -/
theorem baseline_project (key : K) (s : Collector K C) (call : CollectCall K C ε) :
    some (map.baseline (map.step s call) key) =
      observe (some (map.baseline s key)) (map.observation key call) := by
  rw [baseline, step_previous, observation]
  cases map.lookupOf call.entries key with
  | none => rfl
  | some lookup => rfl

/-- A call that fails looks up nothing new. -/
def FailsIdle (s : Collector K C) (call : CollectCall K C ε) : Prop :=
  map.failure call.entries ≠ none → map.Idle s call

namespace Counter

variable {map} (counter : map.Counter)

/-- The samples of a direction are those of its key. -/
theorem filter_lookups [DecidableEq D] {call : CollectCall K C ε} {key : K} {d : D}
    (known : map.direction key = some d) :
    (map.lookups call.entries).filter (·.direction = d) =
      (map.lookupOf call.entries key).toList := by
  rw [lookupOf, ← Keyed.filter_eq (map.nodup_lookups call)]
  refine List.filter_congr fun lookup mem => ?_
  have decoded := map.direction_of_mem_lookups mem
  rw [decide_eq_decide]
  constructor
  · intro same
    rw [same] at decoded
    exact map.direction_inj decoded known
  · intro same
    rw [same, known] at decoded
    exact (Option.some.inj decoded).symm

/-- **What a call reports for a direction** is what the meter of its key measures. -/
theorem total_collect [DecidableEq D] {s : Collector K C} {call : CollectCall K C ε}
    (idle : map.FailsIdle s call) {key : K} {d : D} (known : map.direction key = some d)
    (steady : Steady counter.Follows (some (map.baseline s key)) (map.observation key call)) :
    counter.total d (map.collect s call).1.toOption.toList =
      (measured counter.Follows (some (map.baseline s key)) (map.observation key call)).elim 0
        fun pair => (counter.value pair.2).toNat - (counter.value pair.1).toNat := by
  rw [observation] at steady ⊢
  rw [collect_fst]
  cases failed : map.failure call.entries with
  | some error =>
    cases found : map.lookupOf call.entries key with
    | none => rfl
    | some lookup =>
      -- the failing call reports nothing, and there was nothing to report
      obtain ⟨mem, rfl⟩ := map.lookupOf_eq_some_iff.mp found
      have kept := idle (by rw [failed]; exact Option.some_ne_none error) lookup mem
      have same : map.baseline s lookup.key = map.current lookup := by
        rw [baseline, kept, Option.getD_some]
      have follow : counter.Follows (map.current lookup) (map.current lookup) := UInt64.le_refl _
      rw [Option.elim_some, Option.elim_some, same, measured_some_read, if_pos follow]
      exact (Nat.sub_self _).symm
  | none =>
    have reported : counter.total d [⟨call.windowDuration,
        (map.lookups call.entries).map (map.sampleOf s)⟩] =
        (((map.lookupOf call.entries key).toList.map (map.sampleOf s)).map
          fun sample => (counter.reported sample).toNat).sum := by
      rw [← filter_lookups known, total, List.flatMap_singleton, List.filter_map]
      simp only [Function.comp_def, sampleOf, map.directionOf_sample]
    cases found : map.lookupOf call.entries key with
    | none =>
      rw [found] at reported
      exact reported
    | some lookup =>
      rw [found] at steady reported
      have follow : counter.Follows (map.baseline s key) (map.current lookup) := steady _ rfl
      obtain ⟨-, rfl⟩ := map.lookupOf_eq_some_iff.mp found
      rw [Option.elim_some, measured_some_read, if_pos follow]
      refine reported.trans ?_
      simp [sampleOf, counter.reported_sample]

/-! ## Runs -/

/-- The counters of a key only grow, so its readings follow one another. -/
theorem steady_observations {s : Collector K C} {calls : List (CollectCall K C ε)} {key : K}
    (nonDecreasing : counter.NonDecreasing calls)
    (before : ∀ call ∈ calls, ∀ lookup ∈ map.lookups call.entries, lookup.key = key →
      counter.Follows (map.baseline s key) (map.current lookup)) :
    StepsMeet observe (Steady counter.Follows) (some (map.baseline s key))
      (calls.map (map.observation key)) := by
  induction calls generalizing s with
  | nil => exact stepsMeet_nil _ _ _
  | cons call calls ih =>
    obtain ⟨later, rest⟩ := List.pairwise_cons.mp nonDecreasing
    rw [List.map_cons, stepsMeet_cons, ← map.baseline_project key s call]
    cases found : map.lookupOf call.entries key with
    | none =>
      have unread : map.baseline (map.step s call) key = map.baseline s key := by
        rw [baseline, step_previous, found, Option.map_none, Option.none_or]
        rfl
      refine ⟨?_, ih rest fun call' mem' => ?_⟩
      · rw [observation, found]
        exact trivial
      · rw [unread]
        exact before call' (List.mem_cons_of_mem call mem')
    | some lookup =>
      obtain ⟨mem, own⟩ := map.lookupOf_eq_some_iff.mp found
      have read : map.baseline (map.step s call) key = map.current lookup := by
        rw [baseline, step_previous, found]
        rfl
      refine ⟨?_, ih rest fun call' mem' lookup' mem'' own' => ?_⟩
      · rw [observation, found]
        intro first known
        cases known
        exact before call List.mem_cons_self lookup mem own
      · rw [read]
        exact counter.value_current_le
          (later call' mem' lookup mem lookup' mem'' (own.trans own'.symm))

/-- **What a run reports for a direction** is what the meter of its key measures. -/
theorem total_snapshots [DecidableEq D] {s : Collector K C} {calls : List (CollectCall K C ε)}
    (idle : StepsMeet map.step map.FailsIdle s calls) {key : K} {d : D}
    (known : map.direction key = some d)
    (steady : StepsMeet observe (Steady counter.Follows) (some (map.baseline s key))
      (calls.map (map.observation key))) :
    counter.total d (map.snapshots s calls) =
      ((outputs observe (measured counter.Follows) (some (map.baseline s key))
        (calls.map (map.observation key))).map
          fun pair => (counter.value pair.2).toNat - (counter.value pair.1).toNat).sum := by
  induction calls generalizing s with
  | nil => rfl
  | cons call calls ih =>
    obtain ⟨head, tail⟩ := stepsMeet_cons.mp idle
    obtain ⟨first, rest⟩ := stepsMeet_cons.mp steady
    rw [← map.baseline_project key s call] at rest
    rw [snapshots, outputs, total_append, total_collect counter head known first, List.map_cons,
      outputs, List.map_append, List.sum_append, ← map.baseline_project key s call]
    congr 1
    · cases measured counter.Follows (some (map.baseline s key)) (map.observation key call) with
      | none => rfl
      | some pair => simp
    · exact ih tail rest

end Counter

/-- **Nothing is dropped or counted twice**: a call that fails leaves the sums as they were, and
what the snapshots up to a call that succeeds report for a direction is what this call reads of its
key. -/
structure Conserves [DecidableEq D] (counters : List map.Counter) (calls : List (CollectCall K C ε)) :
    Prop where
  keeps : ∀ pre call post error, calls = pre ++ call :: post →
    (map.collect (run map.step .new pre) call).1 = .error error →
      (map.collect (run map.step .new pre) call).2 = run map.step .new pre
  accounts : ∀ pre call post snapshot, calls = pre ++ call :: post →
    (map.collect (run map.step .new pre) call).1 = .ok snapshot →
      ∀ lookup ∈ map.lookups call.entries, ∀ counter ∈ counters,
        counter.total lookup.direction (map.snapshots .new (pre ++ [call])) =
          counter.sum lookup.values

variable {map}

/-- A call that changes nothing when it fails fails idle. -/
theorem failsIdle_of_keeps {s : Collector K C} {call : CollectCall K C ε}
    (keeps : ∀ error, (map.collect s call).1 = .error error → (map.collect s call).2 = s) :
    map.FailsIdle s call := by
  intro failed
  obtain ⟨error, failed⟩ := Option.ne_none_iff_exists'.mp failed
  refine map.step_eq_iff.mp (keeps error ?_)
  rw [collect_fst, failed]
  rfl

/-- **If every call that fails fails idle, what is reported adds up.** -/
theorem conserves [DecidableEq D] {counters : List map.Counter} {calls : List (CollectCall K C ε)}
    (nonDecreasing : ∀ counter ∈ counters, counter.NonDecreasing calls)
    (fits : ∀ counter ∈ counters, counter.Fits calls)
    (idle : StepsMeet map.step map.FailsIdle .new calls) : map.Conserves counters calls where
  keeps := by
    intro pre call post error split failed
    refine map.step_eq_iff.mpr (idle pre call post split ?_)
    intro unfailed
    rw [collect_fst, unfailed] at failed
    cases failed
  accounts := by
    intro pre call post snapshot split succeeded lookup mem counter counted
    subst split
    have known := map.direction_of_mem_lookups mem
    have upTo : (pre ++ call :: post) = (pre ++ [call]) ++ post := by simp
    have steady : StepsMeet observe (Steady counter.Follows)
        (some (map.baseline (.new : Collector K C) lookup.key))
        ((pre ++ [call]).map (map.observation lookup.key)) := by
      have all : StepsMeet observe (Steady counter.Follows)
          (some (map.baseline (.new : Collector K C) lookup.key))
          ((pre ++ call :: post).map (map.observation lookup.key)) :=
        counter.steady_observations (nonDecreasing counter counted) fun call' _ lookup' _ _ => by
          show counter.value map.default ≤ _
          rw [counter.value_default]
          exact UInt64.zero_le
      rw [upTo, List.map_append] at all
      exact all.left
    rw [upTo] at idle
    have ends : run observe (some (map.baseline (.new : Collector K C) lookup.key))
        ((pre ++ [call]).map (map.observation lookup.key)) = some (map.current lookup) := by
      rw [List.map_append, run_append, List.map_singleton, run_cons, observation,
        map.lookupOf_eq_some_iff.mpr ⟨mem, rfl⟩]
      rfl
    have grows (a b : C) (follow : counter.Follows a b) :
        (counter.value a).toNat ≤ (counter.value b).toNat := UInt64.le_iff_toNat_le.mp follow
    have sum := telescope grows steady ends
    rw [counter.total_snapshots idle.left known steady, ← counter.value_current lookup
      (fits counter counted call (by simp) lookup mem), ← sum]
    show _ = _ + (counter.value map.default).toNat
    rw [counter.value_default]
    rfl

/-- **And only then.** -/
theorem conserves_iff [DecidableEq D] {counters : List map.Counter} {calls : List (CollectCall K C ε)}
    (nonDecreasing : ∀ counter ∈ counters, counter.NonDecreasing calls)
    (fits : ∀ counter ∈ counters, counter.Fits calls) :
    map.Conserves counters calls ↔ StepsMeet map.step map.FailsIdle .new calls := by
  constructor
  · intro conserved pre call post split
    exact failsIdle_of_keeps fun error => conserved.keeps pre call post error split
  · exact conserves nonDecreasing fits

end CounterMap

end Reading

/-! ## The counters of the two maps -/

namespace NetworkCollector

def bytes : map.Counter where
  value := RawNetworkCounters.bytes
  reported := NetworkSample.bytes
  value_default := rfl
  value_sumCounters values := by
    rw [List.foldl_map]
    exact (List.foldl_hom RawNetworkCounters.bytes fun _ _ => rfl).symm
  reported_sample _ _ _ := rfl

def packets : map.Counter where
  value := RawNetworkCounters.packets
  reported := NetworkSample.packets
  value_default := rfl
  value_sumCounters values := by
    rw [List.foldl_map]
    exact (List.foldl_hom RawNetworkCounters.packets fun _ _ => rfl).symm
  reported_sample _ _ _ := rfl

/-- The counters of traffic that a snapshot reports. -/
def counters : List map.Counter := [bytes, packets]

end NetworkCollector

namespace DiskIoCollector

def bytes : map.Counter where
  value := RawDiskIoCounters.bytes
  reported := DiskIoSample.bytes
  value_default := rfl
  value_sumCounters values := by
    rw [List.foldl_map]
    exact (List.foldl_hom RawDiskIoCounters.bytes fun _ _ => rfl).symm
  reported_sample _ _ _ := rfl

def operations : map.Counter where
  value := RawDiskIoCounters.operations
  reported := DiskIoSample.operations
  value_default := rfl
  value_sumCounters values := by
    rw [List.foldl_map]
    exact (List.foldl_hom RawDiskIoCounters.operations fun _ _ => rfl).symm
  reported_sample _ _ _ := rfl

def errors : map.Counter where
  value := RawDiskIoCounters.errors
  reported := DiskIoSample.errors
  value_default := rfl
  value_sumCounters values := by
    rw [List.foldl_map]
    exact (List.foldl_hom RawDiskIoCounters.errors fun _ _ => rfl).symm
  reported_sample _ _ _ := rfl

/-- The counters of disk requests that a snapshot reports. -/
def counters : List map.Counter := [bytes, operations, errors]

end DiskIoCollector

/-- **When no traffic is lost**: in the runs in which no call that fails looks up anything new
before it does. -/
theorem traffic_conserved_iff :
    (∀ calls : List (CollectCall RawNetworkKey RawNetworkCounters ε),
      (∀ counter ∈ NetworkCollector.counters, counter.NonDecreasing calls) →
      (∀ counter ∈ NetworkCollector.counters, counter.Fits calls) →
      (NetworkCollector.map.Conserves NetworkCollector.counters calls ↔
        StepsMeet NetworkCollector.map.step NetworkCollector.map.FailsIdle .new calls)) ∧
    (∀ calls : List (CollectCall RawDiskIoKey RawDiskIoCounters ε),
      (∀ counter ∈ DiskIoCollector.counters, counter.NonDecreasing calls) →
      (∀ counter ∈ DiskIoCollector.counters, counter.Fits calls) →
      (DiskIoCollector.map.Conserves DiskIoCollector.counters calls ↔
        StepsMeet DiskIoCollector.map.step DiskIoCollector.map.FailsIdle .new calls)) :=
  ⟨fun _ nonDecreasing fits => CounterMap.conserves_iff nonDecreasing fits,
    fun _ nonDecreasing fits => CounterMap.conserves_iff nonDecreasing fits⟩

/-- Three calls over two keys, the second of which fails between them. -/
def interrupted {K C : Type} (one two : K) (apart : [one, two].Nodup) (first second third : C) :
    List (CollectCall K C Unit) :=
  [⟨1, [.key one (.ok [first]), .key two (.ok [first])], apart⟩,
    ⟨1, [.key one (.ok [second]), .key two (.error ())], apart⟩,
    ⟨1, [.key one (.ok [third]), .key two (.ok [third])], apart⟩]

/-- Nothing is counted between the first two calls. -/
theorem traffic_conserved_interrupted :
    NetworkCollector.map.Conserves NetworkCollector.counters
      (interrupted ⟨1⟩ ⟨2⟩ (by decide) ⟨100, 1⟩ ⟨100, 1⟩ ⟨300, 3⟩) ∧
    DiskIoCollector.map.Conserves DiskIoCollector.counters
      (interrupted ⟨1⟩ ⟨2⟩ (by decide) ⟨100, 1, 5, 0, 0, 0⟩ ⟨100, 1, 5, 0, 0, 0⟩
        ⟨300, 3, 9, 1, 0, 0⟩) := by
  constructor
  · refine (traffic_conserved_iff.1 _ ?_ ?_).mpr ?_
    · unfold CounterMap.Counter.NonDecreasing
      decide +kernel
    · unfold CounterMap.Counter.Fits
      decide +kernel
    · refine stepsMeet_cons.mpr ⟨?_, stepsMeet_cons.mpr ⟨?_, stepsMeet_cons.mpr ⟨?_,
        stepsMeet_nil _ _ _⟩⟩⟩ <;>
      · unfold CounterMap.FailsIdle CounterMap.Idle
        decide +kernel
  · refine (traffic_conserved_iff.2 _ ?_ ?_).mpr ?_
    · unfold CounterMap.Counter.NonDecreasing
      decide +kernel
    · unfold CounterMap.Counter.Fits
      decide +kernel
    · refine stepsMeet_cons.mpr ⟨?_, stepsMeet_cons.mpr ⟨?_, stepsMeet_cons.mpr ⟨?_,
        stepsMeet_nil _ _ _⟩⟩⟩ <;>
      · unfold CounterMap.FailsIdle CounterMap.Idle
        decide +kernel

/-- **What a failed call has looked up is lost**: the counters end at 300 bytes, of which the samples
report 150. -/
theorem traffic_lost :
    (let calls := interrupted ⟨1⟩ ⟨2⟩ (by decide) ⟨100, 1⟩ ⟨250, 2⟩ ⟨300, 3⟩;
      (∀ counter ∈ NetworkCollector.counters, counter.NonDecreasing calls ∧ counter.Fits calls) ∧
        NetworkCollector.bytes.total .ingress (NetworkCollector.map.snapshots .new calls) = 150 ∧
        NetworkCollector.bytes.sum [⟨300, 3⟩] = 300 ∧
        ¬ NetworkCollector.map.Conserves NetworkCollector.counters calls) ∧
    (let calls := interrupted ⟨1⟩ ⟨2⟩ (by decide) ⟨100, 1, 5, 0, 0, 0⟩ ⟨250, 2, 9, 1, 0, 0⟩
        ⟨300, 3, 9, 1, 0, 0⟩;
      (∀ counter ∈ DiskIoCollector.counters, counter.NonDecreasing calls ∧ counter.Fits calls) ∧
        DiskIoCollector.bytes.total .read (DiskIoCollector.map.snapshots .new calls) = 150 ∧
        DiskIoCollector.bytes.sum [⟨300, 3, 9, 1, 0, 0⟩] = 300 ∧
        ¬ DiskIoCollector.map.Conserves DiskIoCollector.counters calls) := by
  constructor
  · intro calls
    refine ⟨?_, by decide +kernel, by decide +kernel, fun conserved => ?_⟩
    · unfold CounterMap.Counter.NonDecreasing CounterMap.Counter.Fits
      decide +kernel
    · have kept := conserved.keeps [_] _ [_] () rfl rfl
      exact absurd (congrArg (·.previous ⟨1⟩) kept) (by decide +kernel)
  · intro calls
    refine ⟨?_, by decide +kernel, by decide +kernel, fun conserved => ?_⟩
    · unfold CounterMap.Counter.NonDecreasing CounterMap.Counter.Fits
      decide +kernel
    · have kept := conserved.keeps [_] _ [_] () rfl rfl
      exact absurd (congrArg (·.previous ⟨1⟩) kept) (by decide +kernel)

end Talia
