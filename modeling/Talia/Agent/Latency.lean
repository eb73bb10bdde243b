import Mathlib.Data.List.DropRight
import Talia.Agent.InFlight

/-!
# Disk latency

The BPF program times a request from its issue to its completion, and adds the time to the latency
of its direction whether the request succeeds or fails. It counts an operation only for a request
that succeeds. The collector divides what the one has grown by since it last read them by what the
other has grown by, and reports the quotient as the average latency.

A call may fail after any of the keys, and it has kept what it read by then although it reports
nothing. So the window of a direction reaches back to the last call that read its key
(`completedSince`): to the call before, when all calls read it (`completedSince_of_reads`).

Over such windows the quotient is an average as long as what the failed requests took fits under
what the others leave to the longest (`average_latency_iff`), as it does when none fails
(`balanced_of_succeeded`). One slow request that fails next to a fast one that succeeds puts it above
every latency there was (`average_latency_exceeded`).

The read of a key is one step here, with no event between the counters of two CPUs, and totals that
leave 64 bits are not covered.
-/

namespace Talia

open Transition

variable {cpus : Nat} {ε : Type}

/-! ## The collector -/

/-- A collection window: what happens until the collector is called, and how the call goes. It gets
to read the counters of some keys and may then fail, at the next key or at its counters. A map has
each key once. -/
structure Window (cpus : Nat) (ε : Type) where
  events : List (BlockEvent cpus)
  windowDuration : Duration
  keys : List RawDiskIoKey
  error : Option ε
  distinct : keys.Nodup

/-- What the call of a window meets in the map, where the counters of a key are these. -/
def Window.entries (w : Window cpus ε) (values : RawDiskIoKey → List RawDiskIoCounters) :
    List (Entry RawDiskIoKey RawDiskIoCounters ε) :=
  (w.keys.map fun key => .key key (.ok (values key))) ++ w.error.toList.map .failed

/-- The keys a window's call read are those it was to read. -/
theorem Window.filterMap_entries (w : Window cpus ε)
    (values : RawDiskIoKey → List RawDiskIoCounters) :
    (w.entries values).filterMap Entry.key? = w.keys := by
  have failed : (w.error.toList.map Entry.failed).filterMap
      (Entry.key? : Entry RawDiskIoKey RawDiskIoCounters ε → _) = [] := by
    cases w.error <;> rfl
  have read (keys : List RawDiskIoKey) : (keys.map fun key => Entry.key key (.ok (values key))
      ).filterMap (Entry.key? : Entry RawDiskIoKey RawDiskIoCounters ε → _) = keys := by
    rw [List.filterMap_map]
    exact List.filterMap_some
  rw [entries, List.filterMap_append, read, failed, List.append_nil]

/-- The maps of the program, and the collector that reads them. -/
structure DiskIo (cpus : Nat) where
  maps : DiskIoMaps cpus
  collector : Collector RawDiskIoKey RawDiskIoCounters

namespace DiskIo

/-- At first nothing was issued or collected. -/
def new : DiskIo cpus := ⟨.new, .new⟩

/-- The maps when the collector is called. -/
def observed (s : DiskIo cpus) (w : Window cpus ε) : DiskIoMaps cpus :=
  run DiskIoMaps.step s.maps w.events

/-- The call, on the counters that there are. -/
def call (s : DiskIo cpus) (w : Window cpus ε) :
    CollectCall RawDiskIoKey RawDiskIoCounters ε where
  windowDuration := w.windowDuration
  entries := w.entries fun key => List.ofFn ((s.observed w).values key.direction)
  distinct := by
    rw [w.filterMap_entries]
    exact w.distinct

/-- A window's requests, and then its call. -/
def step (s : DiskIo cpus) (w : Window cpus ε) : DiskIo cpus where
  maps := s.observed w
  collector := DiskIoCollector.map.step s.collector (s.call w)

/-- What the call returns. -/
def report (s : DiskIo cpus) (w : Window cpus ε) : Except ε (Snapshot DiskIoSample) :=
  (DiskIoCollector.collect s.collector (s.call w)).1

end DiskIo

/-! ## Completions -/

/-- The requests issued and not completed, and when they were issued. -/
abbrev Pending := List (DiskIoRequestKey × UInt64)

/-- A request has completed: how long it took, and whether it failed. -/
structure Completion where
  request : DiskIoRequestKey
  latency : Nat
  failed : Bool

namespace BlockEvent

/-- A completion in error. -/
def failed : BlockEvent cpus → Bool
  | .issue .. => false
  | .complete _ ctx _ _ => ctx.error ≠ 0

/-- The size of the request is a word. -/
def Whole : BlockEvent cpus → Prop
  | .issue .. => True
  | .complete _ ctx _ _ => ctx.nrSector.toNat * 512 < 2 ^ 32

end BlockEvent

namespace Pending

/-- When a pending request was issued. -/
def issuedAt (pending : Pending) (request : DiskIoRequestKey) : Option UInt64 :=
  (pending.find? (·.1 = request)).map Prod.snd

/-- What is pending after an event. Only reads and writes are followed. -/
def note (pending : Pending) (e : BlockEvent cpus) : Pending :=
  if e.request.direction = 0 then pending
  else if e.issues then (e.request, e.now) :: pending
  else pending.filter (·.1 ≠ e.request)

/-- The request that an event completes. -/
def completion (pending : Pending) (e : BlockEvent cpus) : Option Completion :=
  if e.request.direction = 0 ∨ e.issues then none
  else (issuedAt pending e.request).map fun issued =>
    ⟨e.request, e.now.toNat - issued.toNat, e.failed⟩

/-- The starts of what is pending. A request without a size has none. -/
def started (pending : Pending) : List (DiskIoRequestKey × DiskIoRequestStart) :=
  (pending.filter (·.1.bytes ≠ 0)).map fun entry => (entry.1, ⟨entry.2⟩)

/-- What the block layer does with a read or a write: it issues no request while the same one is
pending, and completes what it has issued before. No map operation fails, and nothing is evicted. -/
structure Serves (pending : Pending) (e : BlockEvent cpus) : Prop where
  whole : e.Whole
  startUpdated : e.ops.startUpdated = true
  countersCreated : e.ops.countersCreated = true
  room : e.issues = true → (started pending).length < maxInFlightRequests
  fresh : e.issues = true → issuedAt pending e.request = none
  matched : e.issues = false → ∃ issued, issuedAt pending e.request = some issued ∧ issued ≤ e.now

/-- The other requests, which the program ignores, are free. -/
def Valid (pending : Pending) (e : BlockEvent cpus) : Prop :=
  e.request.direction ≠ 0 → Serves pending e

/-- What a run completes. -/
def completions (pending : Pending) (es : List (BlockEvent cpus)) : List Completion :=
  outputs note completion pending es

/-- What is pending when the windows have passed. -/
def after (ws : List (Window cpus ε)) : Pending := run note [] (ws.flatMap Window.events)

end Pending

/-- The call of the window reads the counters of the direction. -/
def Window.Reads (direction : DiskIoDirection) (w : Window cpus ε) : Prop :=
  ∃ key ∈ w.keys, DiskIoCollector.direction key = some direction

instance (direction : DiskIoDirection) :
    DecidablePred (Window.Reads direction : Window cpus ε → Prop) :=
  fun w => inferInstanceAs (Decidable (∃ key ∈ w.keys, _))

/-- The windows up to the last one whose call read the counters of the direction. -/
def settledWindows (direction : DiskIoDirection) (ws : List (Window cpus ε)) :
    List (Window cpus ε) :=
  ws.rdropWhile fun w => ¬ w.Reads direction

/-- The windows since. -/
def openWindows (direction : DiskIoDirection) (ws : List (Window cpus ε)) :
    List (Window cpus ε) :=
  ws.rtakeWhile fun w => ¬ w.Reads direction

/-- The requests of a direction that complete in a window or, before it, since the last call that
read the counters of the direction. -/
def completedSince (pre : List (Window cpus ε)) (w : Window cpus ε) (direction : DiskIoDirection) :
    List Completion :=
  (Pending.completions (.after (settledWindows direction pre))
    ((openWindows direction pre ++ [w]).flatMap Window.events)).filter fun c =>
      DiskIoCollector.direction ⟨c.request.direction⟩ = some direction

/-- **An average**: whatever average is reported for a window, it lies between the shortest and the
longest latency of the requests of its direction completed in the window. -/
def Averages (ws : List (Window cpus ε)) : Prop :=
  ∀ pre w post, ws = pre ++ w :: post →
    ∀ snapshot, (run DiskIo.step .new pre).report w = .ok snapshot →
      ∀ sample ∈ snapshot.samples, ∀ latency, sample.averageLatency = some latency →
        ∃ shortest ∈ completedSince pre w sample.direction,
          ∃ longest ∈ completedSince pre w sample.direction,
            shortest.latency ≤ latency ∧ latency ≤ longest.latency

/-! ## Tallies -/

/-- The two counters of an average. -/
inductive Tally where
  | latency
  | operations

namespace Tally

/-- A tally, as the program counts it. -/
def value : Tally → RawDiskIoCounters → UInt64
  | .latency => RawDiskIoCounters.latencyNs
  | .operations => RawDiskIoCounters.operations

/-- What a completion adds to a counter. -/
def worth (tally : Tally) (c : Completion) : Nat :=
  if c.request.bytes = 0 then 0
  else match tally with
    | .latency => c.latency
    | .operations => if c.failed then 0 else 1

/-- What completions add to the counters of a direction. -/
def total (tally : Tally) (direction : UInt8) (cs : List Completion) : Nat :=
  ((cs.filter (·.request.direction = direction)).map tally.worth).sum

/-- What two stretches of completions amount to adds up. -/
theorem total_append (tally : Tally) (direction : UInt8) (cs cs' : List Completion) :
    tally.total direction (cs ++ cs') = tally.total direction cs + tally.total direction cs' := by
  simp [total]

/-- One completion counts for its own direction. -/
theorem total_singleton (tally : Tally) (direction : UInt8) (c : Completion) :
    tally.total direction [c] = if c.request.direction = direction then tally.worth c else 0 := by
  by_cases own : c.request.direction = direction
  · simp [total, own]
  · simp [total, own]

/-- A request without bytes is worth nothing. -/
theorem worth_of_empty (tally : Tally) {c : Completion} (empty : c.request.bytes = 0) :
    tally.worth c = 0 := if_pos empty

/-- Fresh counters tally nothing. -/
theorem value_default (tally : Tally) : tally.value .default = 0 := by
  cases tally <;> rfl

/-- A request that is issued leaves the tallies alone. -/
theorem value_countUp (tally : Tally) (counters : RawDiskIoCounters) (bytes : Nat) :
    tally.value (counters.countUp bytes) = tally.value counters := by
  cases tally <;> rfl

/-- What a timed completion does to a counter. -/
theorem value_countComplete (tally : Tally) (counters : RawDiskIoCounters) (bytes : Nat)
    (bytes' : UInt64) (error : Int32) (latency : UInt64) :
    tally.value ((counters.countDown bytes latency).countComplete bytes' error) =
      tally.value counters +
        match tally with
        | .latency => latency
        | .operations => if error ≠ 0 then 0 else 1 := by
  rw [RawDiskIoCounters.countComplete]
  by_cases failed : error ≠ 0
  · cases tally with
    | latency => simp only [if_pos failed, value, RawDiskIoCounters.countDown]
    | operations => simp only [if_pos failed, value, RawDiskIoCounters.countDown, UInt64.add_zero]
  · cases tally with
    | latency => simp only [if_neg failed, value, RawDiskIoCounters.countDown]
    | operations => simp only [if_neg failed, value, RawDiskIoCounters.countDown]

/-- A sum over the CPUs that fits is exact. -/
theorem toNat_value_sumCounters (tally : Tally) {values : Fin cpus → RawDiskIoCounters}
    (fits : ∑ cpu, (tally.value (values cpu)).toNat < 2 ^ 64) :
    (tally.value (DiskIoCollector.sumCounters (List.ofFn values))).toNat =
      ∑ cpu, (tally.value (values cpu)).toNat := by
  have folded : tally.value (DiskIoCollector.sumCounters (List.ofFn values)) =
      ((List.ofFn values).map tally.value).foldl Saturating.add 0 := by
    rw [List.foldl_map]
    cases tally with
    | latency => exact (List.foldl_hom RawDiskIoCounters.latencyNs fun _ _ => rfl).symm
    | operations => exact (List.foldl_hom RawDiskIoCounters.operations fun _ _ => rfl).symm
  have sums : (((List.ofFn values).map tally.value).map UInt64.toNat).sum =
      ∑ cpu, (tally.value (values cpu)).toNat := by
    rw [List.map_ofFn, List.map_ofFn, List.sum_ofFn]
    rfl
  rw [folded, Saturating.toNat_foldl_add, sums]
  show min (0 + _) _ = _
  omega

end Tally

/-! ## Requests and their starts -/

namespace Pending

/-- The start the program stores is when the request was issued. -/
theorem issuedAt_started {pending : Pending} {request : DiskIoRequestKey}
    (sized : request.bytes ≠ 0) :
    ((started pending).find? (·.1 = request)).map Prod.snd =
      (issuedAt pending request).map DiskIoRequestStart.mk := by
  induction pending with
  | nil => rfl
  | cons entry pending ih =>
    rw [started, issuedAt] at ih ⊢
    by_cases own : entry.1 = request
    · subst own
      simp [sized]
    · by_cases kept : entry.1.bytes ≠ 0
      · simpa [List.filter_cons, kept, own] using ih
      · simpa [List.filter_cons, kept, own] using ih

/-- A request with bytes that is issued has its start stored. -/
theorem started_cons (pending : Pending) (request : DiskIoRequestKey) (issued : UInt64)
    (sized : request.bytes ≠ 0) :
    started ((request, issued) :: pending) = (request, ⟨issued⟩) :: started pending := by
  simp [started, sized]

/-- A request without a size has no start to lose. -/
theorem started_cons_empty (pending : Pending) (request : DiskIoRequestKey) (issued : UInt64)
    (empty : request.bytes = 0) : started ((request, issued) :: pending) = started pending := by
  simp [started, empty]

/-- A completion deletes the start of its request. -/
theorem started_filter (pending : Pending) (request : DiskIoRequestKey) :
    started (pending.filter (·.1 ≠ request)) = (started pending).filter (·.1 ≠ request) := by
  rw [started, started, List.filter_map, List.filter_filter, List.filter_filter]
  refine congrArg _ (List.filter_congr fun entry _ => ?_)
  exact Bool.and_comm _ _

/-- What is not pending has no start. -/
theorem started_filter_fresh {pending : Pending} {request : DiskIoRequestKey}
    (fresh : issuedAt pending request = none) :
    (started pending).filter (·.1 ≠ request) = started pending := by
  refine List.filter_eq_self.mpr fun entry mem => ?_
  obtain ⟨found, kept, rfl⟩ := List.mem_map.mp mem
  rw [issuedAt, Option.map_eq_none_iff] at fresh
  simpa using List.find?_eq_none.mp fresh found (List.mem_filter.mp kept).1

/-- The completion of a request without bytes deletes none. -/
theorem started_filter_empty {pending : Pending} {request : DiskIoRequestKey}
    (empty : request.bytes = 0) :
    (started pending).filter (·.1 ≠ request) = started pending := by
  refine List.filter_eq_self.mpr fun entry mem => ?_
  obtain ⟨found, kept, rfl⟩ := List.mem_map.mp mem
  have sized : found.1.bytes ≠ 0 := by simpa using (List.mem_filter.mp kept).2
  have other : found.1 ≠ request := fun same => sized (by rw [same, empty])
  exact decide_eq_true other

/-- The program counts the reads and writes that have a size. -/
theorem Serves.counted_iff {pending : Pending} {e : BlockEvent cpus} (serves : Serves pending e)
    (known : e.request.direction ≠ 0) : e.Counted ↔ e.request.bytes ≠ 0 := by
  have positive (n : UInt32) : n ≠ 0 ↔ 0 < n.toNat := by
    rw [Nat.pos_iff_ne_zero, ne_eq, ne_eq, ← UInt32.toNat_inj]
    rfl
  rw [positive]
  cases e with
  | issue cpu ctx now ops => exact and_iff_right known
  | complete cpu ctx now ops =>
    have whole : ctx.nrSector.toNat * 512 < 2 ^ 32 := serves.whole
    have size : (BlockEvent.complete cpu ctx now ops).request.bytes.toNat =
        ctx.nrSector.toNat * 512 := UInt32.toNat_ofNat_of_lt' whole
    rw [size]
    constructor
    · intro counted
      have sectors : 0 < ctx.nrSector.toNat := counted.2.1
      omega
    · intro sized
      exact ⟨known, by omega, whole⟩

/-- An event that the program does not count completes nothing that is counted. -/
theorem total_completion_of_not_counted {pending : Pending} {e : BlockEvent cpus}
    (ignored : ¬ e.Counted) (valid : Valid pending e) (tally : Tally) (direction : UInt8) :
    tally.total direction (completion pending e).toList = 0 := by
  cases completes : completion pending e with
  | none => rfl
  | some c =>
    have known : e.request.direction ≠ 0 := by
      intro unknown
      rw [completion, if_pos (.inl unknown)] at completes
      cases completes
    have empty : e.request.bytes = 0 := by
      by_contra sized
      exact ignored (((valid known).counted_iff known).mpr sized)
    rw [completion] at completes
    split at completes
    next => cases completes
    next =>
      obtain ⟨issued, -, rfl⟩ := Option.map_eq_some_iff.mp completes
      rw [Option.toList_some, Tally.total_singleton, Tally.worth_of_empty _ empty, ite_self]

/-- An event that the program ignores leaves the starts as they are. -/
theorem started_note_of_not_counted {pending : Pending} {e : BlockEvent cpus}
    (ignored : ¬ e.Counted) (valid : Valid pending e) :
    started (note pending e) = started pending := by
  rw [note]
  split
  next => rfl
  next known =>
    have empty : e.request.bytes = 0 := by
      by_contra sized
      exact ignored (((valid known).counted_iff known).mpr sized)
    split
    next => exact started_cons_empty pending e.request e.now empty
    next => rw [started_filter, started_filter_empty empty]

end Pending

namespace DiskIoMaps

open Pending

variable {s : DiskIoMaps cpus} {pending : Pending} {e : BlockEvent cpus}

/-- **An event**: the starts stay those of what is pending, and the counters of a CPU grow by what
completes on it. -/
structure Follows (s : DiskIoMaps cpus) (pending : Pending) (e : BlockEvent cpus) : Prop where
  starts : (s.step e).starts = started (note pending e)
  grows : ∀ (tally : Tally) direction cpu,
    tally.value ((s.step e).values direction cpu) =
      tally.value (s.values direction cpu) +
        .ofNat (if e.cpu = cpu then tally.total direction (completion pending e).toList else 0)

/-- The program follows an event that it ignores. -/
theorem follows_ignored (tracks : s.starts = started pending) (valid : Pending.Valid pending e)
    (ignored : ¬ e.Counted) : s.Follows pending e := by
  have same := step_of_not_counted (s := s) ignored
  constructor
  · rw [same, tracks, started_note_of_not_counted ignored valid]
  · intro tally direction cpu
    rw [same, total_completion_of_not_counted ignored valid, ite_self]
    exact (UInt64.add_zero _).symm

/-- It follows an issue, whose start it stores. -/
theorem follows_issue (tracks : s.starts = started pending) (serves : Serves pending e)
    (known : e.request.direction ≠ 0) (counted : e.Counted) (issues : e.issues = true) :
    s.Follows pending e := by
  have sized := (serves.counted_iff known).mp counted
  have others : s.starts.filter (·.1 ≠ e.request) = started pending := by
    rw [tracks, started_filter_fresh (serves.fresh issues)]
  have room : (s.starts.filter (·.1 ≠ e.request)).length < maxInFlightRequests := by
    rw [others]
    exact serves.room issues
  obtain ⟨starts, values⟩ :=
    step_issue_eq counted issues serves.startUpdated serves.countersCreated room
  constructor
  · rw [starts, others, note, if_neg known, if_pos issues, started_cons _ _ _ sized]
  · intro tally direction cpu
    have nothing : completion pending e = none := if_pos (.inr issues)
    rw [values, apply_ite tally.value, tally.value_countUp, ite_self, nothing]
    show _ = _ + UInt64.ofNat (if _ then 0 else 0)
    rw [ite_self]
    exact (UInt64.add_zero _).symm

/-- It follows a completion, which it counts with its latency and whose start it deletes. -/
theorem follows_complete (tracks : s.starts = started pending) (serves : Serves pending e)
    (known : e.request.direction ≠ 0) (counted : e.Counted) (completes : e.issues = false) :
    s.Follows pending e := by
  have sized := (serves.counted_iff known).mp counted
  obtain ⟨issued, found, before⟩ := serves.matched completes
  have done : completion pending e = some ⟨e.request, e.now.toNat - issued.toNat, e.failed⟩ := by
    rw [completion, if_neg (by simp [known, completes]), found]
    rfl
  have start : s.start e.request = some ⟨issued⟩ := by
    have same : ((started pending).find? (·.1 = e.request)).map Prod.snd = _ :=
      issuedAt_started sized
    rw [found] at same
    rw [DiskIoMaps.start, tracks]
    exact same
  cases e with
  | issue => cases completes
  | complete cpu ctx now ops =>
    generalize named : (BlockEvent.complete cpu ctx now ops).request = request at *
    obtain ⟨starts, values⟩ := step_complete_eq (s := s) counted serves.countersCreated named
    constructor
    · rw [starts, tracks, note, named, if_neg known, completes, if_neg Bool.false_ne_true,
        started_filter]
    · intro tally direction cpu'
      have before : issued ≤ now := before
      have worth : .ofNat (tally.worth ⟨request, now.toNat - issued.toNat, decide (ctx.error ≠ 0)⟩) =
          match tally with
          | .latency => now - issued
          | .operations => if ctx.error ≠ 0 then 0 else 1 := by
        cases tally with
        | latency =>
          show UInt64.ofNat (if _ then _ else _) = _
          rw [if_neg sized, ← UInt64.toNat_sub_of_le now issued before, UInt64.ofNat_toNat]
        | operations =>
          show UInt64.ofNat (if _ then _ else _) = _
          rw [if_neg sized]
          by_cases failed : ctx.error ≠ 0
          · rw [if_pos (decide_eq_true failed), if_pos failed]
            rfl
          · rw [if_neg (by simpa using failed), if_neg failed]
            rfl
      rw [values, done, Option.toList_some, tally.total_singleton]
      show _ = _ + UInt64.ofNat (if cpu = cpu' then _ else 0)
      by_cases here : cpu = cpu'
      · by_cases own : request.direction = direction
        · rw [if_pos ⟨here, own⟩, start, settled, tally.value_countComplete, if_pos here,
            if_pos own, ← worth]
          rfl
        · rw [if_neg fun h => own h.2, if_pos here, if_neg own]
          exact (UInt64.add_zero _).symm
      · rw [if_neg fun h => here h.1, if_neg here]
        exact (UInt64.add_zero _).symm

/-- **The step lemma.** -/
theorem follows (tracks : s.starts = started pending) (valid : Pending.Valid pending e) :
    s.Follows pending e := by
  by_cases counted : e.Counted
  · have known : e.request.direction ≠ 0 := by
      cases e with
      | issue => exact counted.1
      | complete => exact counted.1
    cases issues : e.issues with
    | true => exact follows_issue tracks (valid known) known counted issues
    | false => exact follows_complete tracks (valid known) known counted issues
  · exact follows_ignored tracks valid counted

/-! ## What the counters hold -/

/-- No counter leaves its type. -/
def Fits (es : List (BlockEvent cpus)) : Prop :=
  ∀ (tally : Tally) direction, tally.total direction (completions [] es) < 2 ^ 64

/-- The completions of a longer stretch are those of its parts. -/
theorem completions_append (es fs : List (BlockEvent cpus)) :
    completions [] (es ++ fs) = completions [] es ++ completions (run note [] es) fs :=
  outputs_append note completion [] es fs

/-- What fits the counters fits them at every earlier point. -/
theorem Fits.left {es fs : List (BlockEvent cpus)} (fits : Fits (es ++ fs)) : Fits es := by
  intro tally direction
  have whole := fits tally direction
  rw [completions_append, tally.total_append] at whole
  omega

/-- The starts are those of what is pending, and over the CPUs the counters of a direction come to
what has completed. -/
structure Records (s : DiskIoMaps cpus) (pending : Pending) (cs : List Completion) : Prop where
  starts : s.starts = started pending
  counts : ∀ (tally : Tally) direction,
    ∑ cpu, (tally.value (s.values direction cpu)).toNat = tally.total direction cs

/-- **Each event is recorded**: the counters tally the completions so far. -/
theorem records_step {cs : List Completion} (records : s.Records pending cs)
    (valid : Pending.Valid pending e)
    (fits : ∀ (tally : Tally) direction,
      tally.total direction (cs ++ (completion pending e).toList) < 2 ^ 64) :
    (s.step e).Records (note pending e) (cs ++ (completion pending e).toList) := by
  obtain ⟨starts, grows⟩ := follows records.starts valid
  refine ⟨starts, fun tally direction => ?_⟩
  have bound := fits tally direction
  have before := records.counts tally direction
  have grows := grows tally direction
  rw [tally.total_append] at bound ⊢
  generalize tally.total direction (completion pending e).toList = grown at bound grows ⊢
  have each (cpu : Fin cpus) : (tally.value ((s.step e).values direction cpu)).toNat =
      (tally.value (s.values direction cpu)).toNat + if e.cpu = cpu then grown else 0 := by
    have part : (tally.value (s.values direction cpu)).toNat ≤ tally.total direction cs := by
      rw [← before]
      exact Finset.single_le_sum (f := fun cpu => (tally.value (s.values direction cpu)).toNat)
        (fun _ _ => Nat.zero_le _) (Finset.mem_univ cpu)
    have small : (if e.cpu = cpu then grown else 0) ≤ grown := by
      split
      next => exact Nat.le_refl grown
      next => exact Nat.zero_le grown
    rw [grows, UInt64.toNat_add, UInt64.toNat_ofNat_of_lt' (show _ < 2 ^ 64 by omega)]
    exact Nat.mod_eq_of_lt (by omega)
  simp only [each, Finset.sum_add_distrib, before, Finset.sum_ite_eq, Finset.mem_univ, if_true]

/-- **The counters of a run.** -/
theorem records_run {es : List (BlockEvent cpus)} (valid : StepsMeet note Pending.Valid [] es)
    (fits : Fits es) : (run step new es).Records (run note [] es) (completions [] es) := by
  induction es using List.reverseRecOn with
  | nil =>
    refine ⟨rfl, fun tally direction => Finset.sum_eq_zero fun cpu _ => ?_⟩
    show (tally.value .default).toNat = 0
    rw [tally.value_default]
    rfl
  | append_singleton es e ih =>
    have last : completions (run note [] es) [e] = (completion (run note [] es) e).toList :=
      List.append_nil _
    have whole := completions_append es [e]
    rw [last] at whole
    rw [run_append, run_append, run_cons, run_nil, run_cons, run_nil, whole]
    refine records_step (ih valid.left fits.left) (valid es e [] rfl) fun tally direction => ?_
    rw [← whole]
    exact fits tally direction

end DiskIoMaps

/-! ## What a call reads -/

namespace CounterMap

variable {K C D S : Type} (map : CounterMap K C D S)

/-- A call that reads its keys fails only where it is told to. -/
theorem failure_entries (values : K → List C) (keys : List K) (error : Option ε) :
    map.failure ((keys.map fun key => .key key (.ok (values key))) ++
      error.toList.map .failed) = error := by
  induction keys with
  | nil => cases error <;> rfl
  | cons key keys ih =>
    rw [List.map_cons, List.cons_append, failure]
    cases map.direction key with
    | none => exact ih
    | some direction => exact ih

/-- The lookups of a call are those of the keys it read. -/
theorem mem_lookups_entries {values : K → List C} {keys : List K} {error : Option ε}
    {lookup : Lookup K C D} :
    lookup ∈ map.lookups ((keys.map fun key => .key key (.ok (values key))) ++
        error.toList.map .failed) ↔
      lookup.key ∈ keys ∧ map.direction lookup.key = some lookup.direction ∧
        lookup.values = values lookup.key := by
  induction keys with
  | nil => cases error <;> simp [lookups]
  | cons key keys ih =>
    rw [List.map_cons, List.cons_append, lookups]
    cases known : map.direction key with
    | none =>
      refine ih.trans ⟨fun h => ⟨List.mem_cons_of_mem key h.1, h.2⟩, fun h => ⟨?_, h.2⟩⟩
      refine (List.mem_cons.mp h.1).resolve_left fun own => ?_
      rw [own, known] at h
      cases h.2.1
    | some direction =>
      rw [List.mem_cons, ih, List.mem_cons]
      constructor
      · intro h
        rcases h with rfl | h
        · exact ⟨.inl rfl, known, rfl⟩
        · exact ⟨.inr h.1, h.2⟩
      · intro h
        obtain ⟨own | mem, found, read⟩ := h
        · obtain ⟨key', direction', values'⟩ := lookup
          dsimp only at own found read
          subst own read
          cases known.symm.trans found
          exact .inl rfl
        · exact .inr ⟨mem, found, read⟩

end CounterMap

namespace DiskIo

open Pending

variable {s : DiskIo cpus} {w : Window cpus ε}

/-- The lookups of a window's call are those of the keys it reads, at what the maps hold then. -/
theorem mem_lookups_call {lookup : Lookup RawDiskIoKey RawDiskIoCounters DiskIoDirection} :
    lookup ∈ DiskIoCollector.map.lookups (s.call w).entries ↔
      lookup.key ∈ w.keys ∧ DiskIoCollector.direction lookup.key = some lookup.direction ∧
        lookup.values = List.ofFn ((s.observed w).values lookup.key.direction) :=
  DiskIoCollector.map.mem_lookups_entries

/-- The call looks up each of its keys that stands for a direction. -/
theorem lookup_of_key {key : RawDiskIoKey} (mem : key ∈ w.keys) {direction : DiskIoDirection}
    (known : DiskIoCollector.direction key = some direction) :
    ⟨key, direction, List.ofFn ((s.observed w).values key.direction)⟩ ∈
      DiskIoCollector.map.lookups (s.call w).entries :=
  mem_lookups_call.mpr ⟨mem, known, rfl⟩

/-- The call fails as the window says, and otherwise reports what it looks up. -/
theorem report_eq (s : DiskIo cpus) (w : Window cpus ε) :
    s.report w = w.error.elim (.ok ⟨w.windowDuration,
      (DiskIoCollector.map.lookups (s.call w).entries).map
        (DiskIoCollector.map.sampleOf s.collector)⟩) .error := by
  have failure : DiskIoCollector.map.failure (s.call w).entries = w.error :=
    DiskIoCollector.map.failure_entries _ _ _
  rw [report, DiskIoCollector.collect, CounterMap.collect_fst, failure]
  rfl

/-- The sum that a call keeps of a direction is what has completed. -/
theorem toNat_current {lookup : Lookup RawDiskIoKey RawDiskIoCounters DiskIoDirection}
    (mem : lookup ∈ DiskIoCollector.map.lookups (s.call w).entries)
    {pending : Pending} {cs : List Completion} (records : (s.observed w).Records pending cs)
    (tally : Tally) (fits : tally.total lookup.key.direction cs < 2 ^ 64) :
    (tally.value (DiskIoCollector.map.current lookup)).toNat =
      tally.total lookup.key.direction cs := by
  obtain ⟨-, -, values⟩ := mem_lookups_call.mp mem
  rw [← records.counts] at fits ⊢
  rw [CounterMap.current, values]
  exact tally.toNat_value_sumCounters fits

/-- What a window's call observes is the program after all events so far. -/
theorem observed_run (ws : List (Window cpus ε)) (w : Window cpus ε) :
    (run step new ws).observed w = run DiskIoMaps.step .new ((ws ++ [w]).flatMap Window.events) := by
  have maps : (run step new ws).maps = run DiskIoMaps.step .new (ws.flatMap Window.events) := by
    induction ws using List.reverseRecOn with
    | nil => rfl
    | append_singleton ws w ih =>
      rw [run_append, List.flatMap_append, run_append, ← ih, List.flatMap_singleton]
      rfl
  rw [observed, maps, List.flatMap_append, run_append, List.flatMap_singleton]

/-- What the block layer does, with no counter out of its type. -/
structure Runs (ws : List (Window cpus ε)) : Prop where
  valid : StepsMeet note Pending.Valid [] (ws.flatMap Window.events)
  fits : DiskIoMaps.Fits (ws.flatMap Window.events)

/-- Without its last windows a run is still one. -/
theorem Runs.left {ws ws' : List (Window cpus ε)} (runs : Runs (ws ++ ws')) : Runs ws := by
  obtain ⟨valid, fits⟩ := runs
  rw [List.flatMap_append] at valid fits
  exact ⟨valid.left, fits.left⟩

/-- The counters that the call of the last window reads. -/
theorem Runs.records {ws : List (Window cpus ε)} (runs : Runs (ws ++ [w])) :
    ((run step new ws).observed w).Records (after (ws ++ [w]))
      (completions [] ((ws ++ [w]).flatMap Window.events)) := by
  rw [observed_run]
  exact DiskIoMaps.records_run runs.valid runs.fits

/-- **What the collector has kept of a direction** is what had completed by the last call that read
its counters. -/
theorem baseline_run {ws : List (Window cpus ε)} (runs : Runs ws) (tally : Tally)
    {key : RawDiskIoKey} {direction : DiskIoDirection}
    (known : DiskIoCollector.direction key = some direction) :
    (tally.value (DiskIoCollector.map.baseline (run step new ws).collector key)).toNat =
      tally.total key.direction
        (completions [] ((settledWindows direction ws).flatMap Window.events)) := by
  induction ws using List.reverseRecOn with
  | nil =>
    show (tally.value .default).toNat = 0
    rw [tally.value_default]
    rfl
  | append_singleton ws w ih =>
    rw [run_append, run_cons, run_nil]
    show (tally.value ((((DiskIoCollector.map.step _ _).previous key)).getD _)).toNat = _
    rw [CounterMap.step_previous]
    cases found : DiskIoCollector.map.lookupOf ((run step new ws).call w).entries key with
    | some lookup =>
      obtain ⟨mem, rfl⟩ := CounterMap.lookupOf_eq_some_iff _ |>.mp found
      have read : w.Reads direction := ⟨lookup.key, (mem_lookups_call.mp mem).1, known⟩
      rw [settledWindows, List.rdropWhile_concat_neg _ _ _ (by simpa using read)]
      exact toNat_current mem runs.records tally (runs.fits tally _)
    | none =>
      have unread : ¬ w.Reads direction := by
        rintro ⟨key', mem, known'⟩
        cases DiskIoCollector.direction_inj known' known
        rw [CounterMap.lookupOf_eq_some_iff _ |>.mpr ⟨lookup_of_key mem known, rfl⟩] at found
        cases found
      rw [settledWindows, List.rdropWhile_concat_pos _ _ _ (by simpa using unread),
        Option.map_none, Option.none_or]
      exact ih runs.left

/-- What completes up to a window: what the collector knows of, and what it does not. -/
theorem completions_since (pre : List (Window cpus ε)) (w : Window cpus ε)
    (direction : DiskIoDirection) :
    completions [] ((pre ++ [w]).flatMap Window.events) =
      completions [] ((settledWindows direction pre).flatMap Window.events) ++
        completions (after (settledWindows direction pre))
          ((openWindows direction pre ++ [w]).flatMap Window.events) := by
  have split : pre ++ [w] = settledWindows direction pre ++ (openWindows direction pre ++ [w]) := by
    rw [← List.append_assoc, settledWindows, openWindows, List.rdropWhile_append_rtakeWhile]
  rw [split, List.flatMap_append, DiskIoMaps.completions_append]
  rfl

/-- What a counter has grown by since it was last read is what completed since. -/
theorem toNat_grown {ws : List (Window cpus ε)} (runs : Runs (ws ++ [w]))
    {lookup : Lookup RawDiskIoKey RawDiskIoCounters DiskIoDirection}
    (mem : lookup ∈ DiskIoCollector.map.lookups ((run step new ws).call w).entries)
    (tally : Tally) :
    (Saturating.sub (tally.value (DiskIoCollector.map.current lookup))
      (tally.value (DiskIoCollector.map.baseline (run step new ws).collector lookup.key))).toNat =
        ((completedSince ws w lookup.direction).map tally.worth).sum := by
  have known : DiskIoCollector.direction lookup.key = some lookup.direction :=
    (mem_lookups_call.mp mem).2.1
  have own : completedSince ws w lookup.direction =
      (completions (after (settledWindows lookup.direction ws))
        ((openWindows lookup.direction ws ++ [w]).flatMap Window.events)).filter
          (·.request.direction = lookup.key.direction) := by
    refine List.filter_congr fun c _ => ?_
    rw [decide_eq_decide]
    constructor
    · intro same
      exact congrArg RawDiskIoKey.direction (DiskIoCollector.direction_inj same known)
    · intro same
      rw [same]
      exact known
  have now := toNat_current mem runs.records tally (runs.fits tally lookup.key.direction)
  have before := baseline_run runs.left tally known
  rw [Saturating.toNat_sub, now, before, completions_since ws w lookup.direction,
    tally.total_append, Nat.add_sub_cancel_left, own]
  rfl

/-- **What is reported for a window**: what its completions took, over those that succeeded. -/
theorem averageLatency_sampleOf {ws : List (Window cpus ε)} (runs : Runs (ws ++ [w]))
    {lookup : Lookup RawDiskIoKey RawDiskIoCounters DiskIoDirection}
    (mem : lookup ∈ DiskIoCollector.map.lookups ((run step new ws).call w).entries) :
    (DiskIoCollector.map.sampleOf (run step new ws).collector lookup).averageLatency =
      let cs := completedSince ws w lookup.direction
      if (cs.map Tally.operations.worth).sum = 0 then none
      else some ((cs.map Tally.latency.worth).sum / (cs.map Tally.operations.worth).sum) := by
  have operations := toNat_grown runs mem .operations
  have latency := toNat_grown runs mem .latency
  show averageLatency (Saturating.sub _ _) (Saturating.sub _ _) = _
  dsimp only
  rw [← operations, ← latency, averageLatency, ← UInt64.toNat_div]
  exact if_congr UInt64.toNat_inj.symm rfl rfl

end DiskIo

/-! ## Averages -/

namespace Completion

/-- The completions that are counted as operations. -/
def succeeded (cs : List Completion) : List Completion :=
  cs.filter fun c => c.request.bytes ≠ 0 ∧ c.failed = false

/-- The completions that are timed but not counted. -/
def timedOnly (cs : List Completion) : List Completion :=
  cs.filter fun c => c.request.bytes ≠ 0 ∧ c.failed = true

/-- What the failed requests took fits under what the others leave to the longest. -/
def Balanced (cs : List Completion) : Prop :=
  succeeded cs ≠ [] →
    ∃ longest ∈ cs, (∀ c ∈ cs, c.latency ≤ longest.latency) ∧
      ((timedOnly cs).map latency).sum <
        ((succeeded cs).map fun c => longest.latency + 1 - c.latency).sum

instance (cs : List Completion) : Decidable (Balanced cs) :=
  inferInstanceAs (Decidable (_ → _))

/-- The operations counted are the requests that succeeded. -/
theorem sum_operations (cs : List Completion) :
    (cs.map Tally.operations.worth).sum = (succeeded cs).length := by
  induction cs with
  | nil => rfl
  | cons c cs ih =>
    rw [List.map_cons, List.sum_cons, ih]
    by_cases empty : c.request.bytes = 0
    · simp [succeeded, Tally.worth_of_empty, empty]
    · by_cases failed : c.failed = true
      · simp [succeeded, Tally.worth.eq_def, empty, failed]
      · simp [succeeded, Tally.worth.eq_def, empty, failed, Nat.add_comm]

/-- The latency counted is that of the requests that succeeded, and of those that failed. -/
theorem sum_latency (cs : List Completion) :
    (cs.map Tally.latency.worth).sum =
      ((succeeded cs).map latency).sum + ((timedOnly cs).map latency).sum := by
  induction cs with
  | nil => rfl
  | cons c cs ih =>
    rw [List.map_cons, List.sum_cons, ih]
    by_cases empty : c.request.bytes = 0
    · simp [succeeded, timedOnly, Tally.worth_of_empty, empty]
    · by_cases failed : c.failed = true
      · simp [succeeded, timedOnly, Tally.worth.eq_def, empty, failed]
        omega
      · simp [succeeded, timedOnly, Tally.worth.eq_def, empty, failed]
        omega

/-- Among completions there is one that took longest. -/
theorem exists_longest {cs : List Completion} (nonempty : cs ≠ []) :
    ∃ longest ∈ cs, ∀ c ∈ cs, c.latency ≤ longest.latency := by
  induction cs with
  | nil => exact absurd rfl nonempty
  | cons c cs ih =>
    by_cases last : cs = []
    · subst last
      exact ⟨c, List.mem_cons_self, fun c' mem => by rw [List.mem_singleton.mp mem]⟩
    · obtain ⟨longest, mem, le⟩ := ih last
      by_cases longer : longest.latency ≤ c.latency
      · refine ⟨c, List.mem_cons_self, fun c' mem' => ?_⟩
        rcases List.mem_cons.mp mem' with rfl | mem'
        · exact Nat.le_refl _
        · exact (le c' mem').trans longer
      · refine ⟨longest, List.mem_cons_of_mem c mem, fun c' mem' => ?_⟩
        rcases List.mem_cons.mp mem' with rfl | mem'
        · omega
        · exact le c' mem'

/-- No quotient is below the shortest latency. -/
theorem exists_shortest {cs : List Completion} (counted : succeeded cs ≠ []) :
    ∃ shortest ∈ cs,
      shortest.latency ≤ (cs.map Tally.latency.worth).sum / (cs.map Tally.operations.worth).sum := by
  rw [sum_operations, sum_latency]
  generalize quotient :
    (((succeeded cs).map latency).sum + ((timedOnly cs).map latency).sum) / (succeeded cs).length =
      mean
  have below : ((succeeded cs).map latency).sum <
      ((succeeded cs).map fun _ => mean + 1).sum := by
    have positive := List.length_pos_of_ne_nil counted
    have bound := Nat.lt_mul_div_succ
      (((succeeded cs).map latency).sum + ((timedOnly cs).map latency).sum) positive
    rw [quotient] at bound
    rw [List.map_const', List.sum_replicate, smul_eq_mul]
    omega
  obtain ⟨shortest, mem, less⟩ := List.exists_lt_of_sum_lt _ _ below
  exact ⟨shortest, (List.mem_filter.mp mem).1, Nat.le_of_lt_succ less⟩

/-- What is left to a longest latency, and what was taken. -/
theorem sum_left {cs : List Completion} {longest : Nat} (le : ∀ c ∈ cs, c.latency ≤ longest) :
    (cs.map fun c => longest + 1 - c.latency).sum + (cs.map latency).sum =
      cs.length * (longest + 1) := by
  induction cs with
  | nil => simp
  | cons c cs ih =>
    have rest := ih fun c' mem => le c' (List.mem_cons_of_mem c mem)
    have first := le c List.mem_cons_self
    rw [List.map_cons, List.map_cons, List.sum_cons, List.sum_cons, List.length_cons,
      Nat.succ_mul]
    omega

/-- **When a quotient is not above the longest latency.** -/
theorem exists_longest_iff {cs : List Completion} (counted : succeeded cs ≠ []) :
    (∃ longest ∈ cs,
      (cs.map Tally.latency.worth).sum / (cs.map Tally.operations.worth).sum ≤ longest.latency) ↔
      Balanced cs := by
  have positive := List.length_pos_of_ne_nil counted
  have within {longest : Completion} (le : ∀ c ∈ cs, c.latency ≤ longest.latency) :
      (cs.map Tally.latency.worth).sum / (cs.map Tally.operations.worth).sum ≤ longest.latency ↔
        ((timedOnly cs).map latency).sum <
          ((succeeded cs).map fun c => longest.latency + 1 - c.latency).sum := by
    have left : ((succeeded cs).map fun c => longest.latency + 1 - c.latency).sum + _ = _ :=
      sum_left fun c mem => le c (List.mem_filter.mp mem).1
    rw [sum_operations, sum_latency, ← Nat.lt_succ_iff, Nat.div_lt_iff_lt_mul positive,
      Nat.mul_comm, Nat.succ_eq_add_one]
    omega
  constructor
  · intro h _
    obtain ⟨c, mem, le⟩ := h
    obtain ⟨longest, mem', most⟩ := exists_longest (List.ne_nil_of_mem mem)
    exact ⟨longest, mem', most, (within most).mp (le.trans (most c mem))⟩
  · intro balanced
    obtain ⟨longest, mem, most, fits⟩ := balanced counted
    exact ⟨longest, mem, (within most).mpr fits⟩

/-- Where nothing fails, the quotient is an average. -/
theorem balanced_of_succeeded {cs : List Completion} (succeeds : ∀ c ∈ cs, c.failed = false) :
    Balanced cs := by
  intro counted
  obtain ⟨c, mem⟩ := List.exists_mem_of_ne_nil _ counted
  obtain ⟨longest, mem', most⟩ := exists_longest (List.ne_nil_of_mem (List.mem_filter.mp mem).1)
  refine ⟨longest, mem', most, ?_⟩
  have nothing : timedOnly cs = [] := by
    refine List.filter_eq_nil_iff.mpr fun c mem => ?_
    simp [succeeds c mem]
  have part : longest.latency + 1 - c.latency ≤
      ((succeeded cs).map fun c => longest.latency + 1 - c.latency).sum :=
    List.le_sum_of_mem (List.mem_map_of_mem mem)
  have le := most c (List.mem_filter.mp mem).1
  rw [nothing]
  show 0 < _
  omega

end Completion

/-! ## Windows -/

/-- Where the call before read the counters of the direction, its window is the last one alone. -/
theorem completedSince_of_reads {pre : List (Window cpus ε)} {w : Window cpus ε}
    {direction : DiskIoDirection} (read : ∀ last, pre.getLast? = some last → last.Reads direction) :
    completedSince pre w direction = (Pending.completions (.after pre) w.events).filter fun c =>
      DiskIoCollector.direction ⟨c.request.direction⟩ = some direction := by
  have closed : openWindows direction pre = [] := by
    refine List.rtakeWhile_eq_nil_iff.mpr fun nonempty => ?_
    simpa using read _ (List.getLast?_eq_getLast_of_ne_nil nonempty)
  have settled : settledWindows direction pre = pre := by
    have split : settledWindows direction pre ++ openWindows direction pre = pre :=
      List.rdropWhile_append_rtakeWhile
    rwa [closed, List.append_nil] at split
  rw [completedSince, closed, settled, List.nil_append, List.flatMap_singleton]

section Windows

open Completion DiskIo

variable {w : Window cpus ε} {ws : List (Window cpus ε)}

/-- **When a report is an average**: when what failed fits. -/
theorem averages_iff (runs : Runs (ws ++ [w])) :
    (∀ snapshot, (run step new ws).report w = .ok snapshot →
      ∀ sample ∈ snapshot.samples, ∀ latency, sample.averageLatency = some latency →
        ∃ shortest ∈ completedSince ws w sample.direction,
          ∃ longest ∈ completedSince ws w sample.direction,
            shortest.latency ≤ latency ∧ latency ≤ longest.latency) ↔
      (w.error = none → ∀ direction, w.Reads direction →
        Balanced (completedSince ws w direction)) := by
  have reported := report_eq (run step new ws) w
  constructor
  · intro averages succeeds direction read counted
    obtain ⟨key, mem, known⟩ := read
    have looked := @lookup_of_key _ _ (run step new ws) w _ mem _ known
    have average := averageLatency_sampleOf runs looked
    have operations :
        ((completedSince ws w direction).map Tally.operations.worth).sum ≠ 0 := by
      rw [sum_operations]
      exact (List.length_pos_of_ne_nil counted).ne'
    dsimp only at average
    rw [if_neg operations] at average
    rw [succeeds] at reported
    obtain ⟨-, -, longest, mem', -, le⟩ :=
      averages _ reported _ (List.mem_map_of_mem looked) _ average
    exact (exists_longest_iff counted).mp ⟨longest, mem', le⟩ counted
  · intro balanced snapshot returned sample mem latency average
    cases failure : w.error with
    | some error =>
      rw [failure] at reported
      cases reported.symm.trans returned
    | none =>
      rw [failure] at reported
      cases reported.symm.trans returned
      obtain ⟨lookup, looked, rfl⟩ := List.mem_map.mp mem
      obtain ⟨present, known, -⟩ := mem_lookups_call.mp looked
      have value := (averageLatency_sampleOf runs looked).symm.trans average
      dsimp only at value
      split at value
      next => cases value
      next operations =>
        cases value
        have counted : succeeded (completedSince ws w lookup.direction) ≠ [] := by
          intro nothing
          rw [sum_operations, nothing] at operations
          exact operations rfl
        obtain ⟨shortest, mem', below⟩ := exists_shortest counted
        obtain ⟨longest, mem'', above⟩ := (exists_longest_iff counted).mpr
          (balanced failure _ ⟨lookup.key, present, known⟩)
        exact ⟨shortest, mem', longest, mem'', below, above⟩

end Windows

/-- **When the averages are averages**: when in every window that is reported the failed requests of
a direction together took less than what the successful ones leave to the longest, each rounded
up. -/
theorem average_latency_iff {ws : List (Window cpus ε)}
    (valid : StepsMeet Pending.note Pending.Valid [] (ws.flatMap Window.events))
    (fits : DiskIoMaps.Fits (ws.flatMap Window.events)) :
    Averages ws ↔ ∀ pre w post, ws = pre ++ w :: post → w.error = none →
      ∀ direction, w.Reads direction → Completion.Balanced (completedSince pre w direction) := by
  have each (pre : List (Window cpus ε)) (w : Window cpus ε) (post : List (Window cpus ε))
      (split : ws = pre ++ w :: post) := by
    have whole : DiskIo.Runs ((pre ++ [w]) ++ post) := by
      rw [List.append_assoc, List.singleton_append, ← split]
      exact ⟨valid, fits⟩
    exact averages_iff whole.left
  constructor
  · intro averages pre w post split
    exact (each pre w post split).mp (averages pre w post split)
  · intro balanced pre w post split
    exact (each pre w post split).mpr (balanced pre w post split)

/-! ## A slow failure -/

/-- A run that takes less than `2 ^ 64` in all overflows nothing. -/
theorem DiskIoMaps.fits_of_total {es : List (BlockEvent cpus)}
    (total : ∀ tally : Tally, ((Pending.completions [] es).map tally.worth).sum < 2 ^ 64) :
    Fits es := by
  intro tally direction
  have part : tally.total direction (Pending.completions [] es) ≤
      ((Pending.completions [] es).map tally.worth).sum :=
    (List.filter_sublist.map tally.worth).sum_le_sum fun _ _ => Nat.zero_le _
  exact part.trans_lt (total tally)

namespace DiskIo

def operations : MapOperations := ⟨true, ⟨0, 0, 0, 0⟩, true⟩

/-- Reads of 4 KiB. -/
def readIssued (cpu : Fin cpus) (sector now : UInt64) : BlockEvent cpus :=
  .issue cpu ⟨2048, sector, 4096, .replicate 10 'R'.toUInt8⟩ now operations

def readCompleted (cpu : Fin cpus) (sector now : UInt64) (error : Int32) : BlockEvent cpus :=
  .complete cpu ⟨2048, sector, 8, error, .replicate 10 'R'.toUInt8⟩ now operations

/-- A window whose call reads the counters of reads. -/
def readWindow (events : List (BlockEvent cpus)) : Window cpus Unit :=
  ⟨events, 1, [⟨1⟩], none, List.nodup_singleton _⟩

/-- A window whose call fails. -/
def failedWindow (events : List (BlockEvent cpus)) : Window cpus Unit :=
  ⟨events, 1, [], some (), List.nodup_nil⟩

/-- Reads in `fourReads` are issued where there is room, and not twice. -/
theorem valid_readIssued {pending : Pending} {cpu : Fin cpus} {sector now : UInt64}
    (room : pending.started.length < maxInFlightRequests)
    (fresh : pending.issuedAt (readIssued cpu sector now).request = none) :
    Pending.Valid pending (readIssued cpu sector now) :=
  fun _ => ⟨trivial, rfl, rfl, fun _ => room, fun _ => fresh, fun completes => nomatch completes⟩

/-- They are completed when they were issued, and not before. -/
theorem valid_readCompleted {pending : Pending} {cpu : Fin cpus} {sector now issued : UInt64}
    {error : Int32}
    (found : pending.issuedAt (readCompleted cpu sector now error).request = some issued)
    (before : issued ≤ now) : Pending.Valid pending (readCompleted cpu sector now error) :=
  fun _ => ⟨show (8 : UInt32).toNat * 512 < 2 ^ 32 by decide, rfl, rfl,
    fun issues => (nomatch issues), fun issues => (nomatch issues), fun _ => ⟨issued, found, before⟩⟩

/-- Four reads on two CPUs, of which one fails after 10 ns. The second call fails, so the third one
reports what the other two took, 4 ns and 20 ns, and the failed one: 17 ns. -/
def fourReads (first second : Fin cpus) : List (Window cpus Unit) :=
  [readWindow [readIssued first 8 0, readIssued second 16 0, readCompleted second 8 4 0],
    failedWindow [readIssued first 24 6, readIssued second 32 8, readCompleted first 16 10 (-5),
      readCompleted first 24 10 0],
    readWindow [readCompleted second 32 28 0]]

end DiskIo

open DiskIo in
theorem average_latency_one :
    Averages (fourReads (0 : Fin 2) 1) ∧
      (((run step new ((fourReads (0 : Fin 2) 1).take 2)).report
        (readWindow [readCompleted 1 32 28 0])).toOption.map fun snapshot =>
          snapshot.samples.map DiskIoSample.averageLatency) = some [some 17] := by
  refine ⟨(average_latency_iff ?_ ?_).mpr ?_, by decide +kernel⟩
  · refine stepsMeet_cons.mpr ⟨valid_readIssued (by decide) rfl, ?_⟩
    refine stepsMeet_cons.mpr ⟨valid_readIssued (by decide) rfl, ?_⟩
    refine stepsMeet_cons.mpr ⟨valid_readCompleted rfl (by decide), ?_⟩
    refine stepsMeet_cons.mpr ⟨valid_readIssued (by decide) rfl, ?_⟩
    refine stepsMeet_cons.mpr ⟨valid_readIssued (by decide) rfl, ?_⟩
    refine stepsMeet_cons.mpr ⟨valid_readCompleted rfl (by decide), ?_⟩
    refine stepsMeet_cons.mpr ⟨valid_readCompleted rfl (by decide), ?_⟩
    exact stepsMeet_cons.mpr ⟨valid_readCompleted rfl (by decide), stepsMeet_nil _ _ _⟩
  · exact DiskIoMaps.fits_of_total fun tally => by cases tally <;> decide
  · intro pre w post split succeeds direction _
    match pre, split with
    | [], split =>
      cases split
      exact Completion.balanced_of_succeeded (by cases direction <;> decide)
    | [_], split =>
      cases split
      cases succeeds
    | [_, _], split =>
      cases split
      cases direction <;> decide +kernel
    | _ :: _ :: _ :: pre, split =>
      cases pre <;> cases split

open DiskIo in
/-- **Above every latency**: of two reads one succeeds after 4 ns and the other fails after 100 ns,
and the average is reported as 104 ns. -/
theorem average_latency_exceeded :
    let events : List (BlockEvent 1) :=
      [readIssued 0 8 0, readIssued 0 16 0, readCompleted 0 8 4 0, readCompleted 0 16 100 (-5)]
    let ws := [readWindow events]
    StepsMeet Pending.note Pending.Valid [] (ws.flatMap Window.events) ∧
      DiskIoMaps.Fits (ws.flatMap Window.events) ∧
      ((new.report (readWindow events)).toOption.map fun snapshot =>
        snapshot.samples.map DiskIoSample.averageLatency) = some [some 104] ∧
      (completedSince [] (readWindow events) .read).map Completion.latency = [4, 100] ∧
      ¬ Averages ws := by
  intro events ws
  have reported : ((new.report (readWindow events)).toOption.map fun snapshot =>
      snapshot.samples.map fun sample => (sample.direction, sample.averageLatency)) =
        some [(.read, some 104)] := by decide +kernel
  have latencies : (completedSince [] (readWindow events) .read).map Completion.latency =
      [4, 100] := by decide +kernel
  refine ⟨?_, ?_, by decide +kernel, latencies, fun averages => ?_⟩
  · exact stepsMeet_cons.mpr ⟨valid_readIssued (by decide) rfl, stepsMeet_cons.mpr
      ⟨valid_readIssued (by decide) rfl, stepsMeet_cons.mpr
        ⟨valid_readCompleted rfl (by decide), stepsMeet_cons.mpr
          ⟨valid_readCompleted rfl (by decide), stepsMeet_nil _ _ _⟩⟩⟩⟩
  · exact DiskIoMaps.fits_of_total fun tally => by cases tally <;> decide
  · cases returned : new.report (readWindow events) with
    | error error =>
      rw [returned] at reported
      cases reported
    | ok snapshot =>
      rw [returned] at reported
      obtain ⟨sample, listed, shown⟩ := List.map_eq_singleton_iff.mp (Option.some.inj reported)
      cases sample with
      | mk direction bytes operations errors average inFlightOperations inFlightBytes =>
        cases shown
        obtain ⟨-, -, longest, mem, -, le⟩ := averages [] (readWindow events) [] rfl snapshot
          returned _ (by rw [listed]; exact List.mem_singleton_self _) 104 rfl
        have one : longest.latency ∈ [4, 100] := by
          rw [← latencies]
          exact List.mem_map_of_mem mem
        have small : ∀ latency ∈ [4, 100], latency ≤ 100 := by decide
        exact absurd (le.trans (small _ one)) (by decide)

end Talia
