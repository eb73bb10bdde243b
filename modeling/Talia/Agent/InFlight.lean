import Mathlib.Algebra.BigOperators.Fin
import Mathlib.Algebra.Order.BigOperators.Group.Finset
import Mathlib.Algebra.Order.BigOperators.Group.Multiset
import Mathlib.Algebra.Order.Ring.Abs
import Mathlib.Data.Multiset.Filter
import Talia.Agent.Traffic

/-!
# Disk requests in flight

The BPF program counts the requests in flight on the CPU where they are issued, and down on the CPU
where they complete. To know which completions to count it keeps a start for every request issued,
under the request's device, sector, size and direction. Requests that have all of these in common
share one start: the first of them to complete takes it away, and the others are never counted down.

The gauges are right as long as every completion finds its start (`in_flight_accurate_iff`): as long
as between two completions of identical requests one is issued (`findsStart_iff_issuedBetween`), as
when no request is issued while an identical one is outstanding (`findsStart_of_fresh`).

The starts are a map of limited size that evicts. Here it never has to, since fewer requests are
outstanding than it holds; what evictions would do to the gauges is not established.
-/

namespace Talia

open Transition

/-! ## The maps -/

namespace RawDiskIoCounters

/-- A request is issued. -/
def countUp (counters : RawDiskIoCounters) (bytes : Nat) : RawDiskIoCounters :=
  { counters with
    inFlightBytes := counters.inFlightBytes + .ofNat bytes
    inFlightOperations := counters.inFlightOperations + 1 }

/-- A request that was issued completes. -/
def countDown (counters : RawDiskIoCounters) (bytes : Nat) (latencyNs : UInt64) :
    RawDiskIoCounters :=
  { counters with
    latencyNs := counters.latencyNs + latencyNs
    inFlightBytes := counters.inFlightBytes - .ofNat bytes
    inFlightOperations := counters.inFlightOperations - 1 }

/-- A request completes, in error or not. -/
def countComplete (counters : RawDiskIoCounters) (bytes : UInt64) (error : Int32) :
    RawDiskIoCounters :=
  if error ≠ 0 then { counters with errors := counters.errors + 1 }
  else { counters with bytes := counters.bytes + bytes, operations := counters.operations + 1 }

end RawDiskIoCounters

/-- Stable enough identity to match issue and complete tracepoint records. The padding is always
zero. -/
structure DiskIoRequestKey where
  sector : UInt64
  dev : UInt32
  bytes : UInt32
  direction : UInt8
  deriving DecidableEq

/-- When a request was issued. -/
structure DiskIoRequestStart where
  issueNs : UInt64
  deriving DecidableEq

def diskIoDirectionRead : UInt8 := 1
def diskIoDirectionWrite : UInt8 := 2

def maxInFlightRequests : Nat := 32768

/-- The maps of the program: the starts of requests, and counters with a value for each CPU. -/
structure DiskIoMaps (cpus : Nat) where
  starts : List (DiskIoRequestKey × DiskIoRequestStart)
  counters : RawDiskIoKey → Option (Fin cpus → RawDiskIoCounters)

/-- How the map operations of an event go: whether the starts take an update, what they evict to do
so when they are full, and whether missing counters can be created. -/
structure MapOperations where
  startUpdated : Bool
  victim : DiskIoRequestKey
  countersCreated : Bool

namespace DiskIoMaps

variable {cpus : Nat} (s : DiskIoMaps cpus)

/-- The maps are empty when the program is loaded. -/
def new : DiskIoMaps cpus := ⟨[], fun _ => none⟩

/-- The lookup of a start. -/
def start (key : DiskIoRequestKey) : Option DiskIoRequestStart :=
  (s.starts.find? (·.1 = key)).map Prod.snd

/-- The update of a start: when the map is full, another key makes room. -/
def updateStart (key : DiskIoRequestKey) (start : DiskIoRequestStart)
    (victim : DiskIoRequestKey) : DiskIoMaps cpus :=
  let others := s.starts.filter (·.1 ≠ key)
  let kept :=
    if others.length < maxInFlightRequests then others else others.filter (·.1 ≠ victim)
  { s with starts := (key, start) :: kept }

/-- The deletion of a start. -/
def deleteStart (key : DiskIoRequestKey) : DiskIoMaps cpus :=
  { s with starts := s.starts.filter (·.1 ≠ key) }

/-- The counters of a direction on each CPU, zero before there are any. -/
def values (direction : UInt8) : Fin cpus → RawDiskIoCounters :=
  (s.counters ⟨direction⟩).getD fun _ => .default

/-- The program writes through the pointer it has looked up. -/
def setCounters (cpu : Fin cpus) (direction : UInt8) (counters : RawDiskIoCounters) :
    DiskIoMaps cpus :=
  { s with
    counters := Function.update s.counters ⟨direction⟩
      (some (Function.update (s.values direction) cpu counters)) }

/-- The counters of a direction on a CPU. They are created when there are none. -/
def diskIoCountersFor (cpu : Fin cpus) (direction : UInt8) (ops : MapOperations) :
    DiskIoMaps cpus × Option RawDiskIoCounters :=
  match s.counters ⟨direction⟩ with
  | some values => (s, some (values cpu))
  | none =>
    if ops.countersCreated then (s.setCounters cpu direction .default, some .default)
    else (s, none)

end DiskIoMaps

/-! ## The program -/

/-- The tracepoint's record of a request that is issued. -/
structure BlockRqIssueCtx where
  dev : UInt32
  sector : UInt64
  bytes : UInt32
  rwbs : Vector UInt8 10

/-- The tracepoint's record of a request that is completed. -/
structure BlockRqCompleteCtx where
  dev : UInt32
  sector : UInt64
  nrSector : UInt32
  error : Int32
  rwbs : Vector UInt8 10

/-- The first character of the flags says what a request does. -/
def diskIoDirectionFromRwbs (rwbs : Vector UInt8 10) : UInt8 :=
  if rwbs[0] = 'R'.toUInt8 then diskIoDirectionRead
  else if rwbs[0] = 'W'.toUInt8 then diskIoDirectionWrite
  else 0

/-- The key that an issue and its completion are to have in common. -/
def diskIoRequestKeyFromCtx (dev : UInt32) (sector bytes : UInt64) (direction : UInt8) :
    DiskIoRequestKey where
  sector
  dev
  bytes := bytes.toUInt32
  direction

namespace DiskIoMaps

variable {cpus : Nat} (s : DiskIoMaps cpus)

/-- The start is stored first, and taken back when there are no counters to count in. -/
def accountDiskIoIssue (cpu : Fin cpus) (now : UInt64) (ops : MapOperations) (dev : UInt32)
    (sector : UInt64) (bytes : UInt32) (direction : UInt8) : DiskIoMaps cpus :=
  if bytes = 0 ∨ direction = 0 then s
  else if ops.startUpdated = false then s
  else
    let requestKey := diskIoRequestKeyFromCtx dev sector bytes.toUInt64 direction
    let s := s.updateStart requestKey ⟨now⟩ ops.victim
    match s.diskIoCountersFor cpu direction ops with
    | (s, none) => s.deleteStart requestKey
    | (s, some counters) => s.setCounters cpu direction (counters.countUp bytes.toNat)

/-- The request of a completion is over: its start is deleted, if there is one, and it is counted
down. -/
def settleStart (now : UInt64) (requestKey : DiskIoRequestKey) (bytes : UInt64)
    (counters : RawDiskIoCounters) : DiskIoMaps cpus × RawDiskIoCounters :=
  match s.start requestKey with
  | none => (s, counters)
  | some start =>
    (s.deleteStart requestKey, counters.countDown bytes.toNat (now - start.issueNs))

/-- The size is in sectors of 512 bytes; a request that is too large for the key is not counted. -/
def accountDiskIoComplete (cpu : Fin cpus) (now : UInt64) (ops : MapOperations) (dev : UInt32)
    (sector : UInt64) (nrSector : UInt32) (error : Int32) (direction : UInt8) : DiskIoMaps cpus :=
  let bytes := nrSector.toUInt64 <<< 9
  if bytes = 0 ∨ direction = 0 ∨ bytes > 0xffffffff then s
  else
    match s.diskIoCountersFor cpu direction ops with
    | (s, none) => s
    | (s, some counters) =>
      let requestKey := diskIoRequestKeyFromCtx dev sector bytes direction
      let (s, counters) := s.settleStart now requestKey bytes counters
      s.setCounters cpu direction (counters.countComplete bytes error)

end DiskIoMaps

/-- A tracepoint is hit on a CPU. -/
inductive BlockEvent (cpus : Nat) where
  | issue (cpu : Fin cpus) (ctx : BlockRqIssueCtx) (now : UInt64) (ops : MapOperations)
  | complete (cpu : Fin cpus) (ctx : BlockRqCompleteCtx) (now : UInt64) (ops : MapOperations)

namespace DiskIoMaps

variable {cpus : Nat}

/-- A tracepoint is hit. -/
def step (s : DiskIoMaps cpus) : BlockEvent cpus → DiskIoMaps cpus
  | .issue cpu ctx now ops =>
    s.accountDiskIoIssue cpu now ops ctx.dev ctx.sector ctx.bytes
      (diskIoDirectionFromRwbs ctx.rwbs)
  | .complete cpu ctx now ops =>
    s.accountDiskIoComplete cpu now ops ctx.dev ctx.sector ctx.nrSector ctx.error
      (diskIoDirectionFromRwbs ctx.rwbs)

/-- What the collector makes of the counters of a direction. -/
def summed (s : DiskIoMaps cpus) (direction : UInt8) : RawDiskIoCounters :=
  DiskIoCollector.sumCounters (List.ofFn (s.values direction))

end DiskIoMaps

/-! ## What is outstanding -/

section Outstanding

variable {cpus : Nat}

namespace BlockEvent

/-- The CPU on which it is hit. -/
def cpu : BlockEvent cpus → Fin cpus
  | .issue cpu .. => cpu
  | .complete cpu .. => cpu

/-- What the maps' operations do then. -/
def ops : BlockEvent cpus → MapOperations
  | .issue _ _ _ ops => ops
  | .complete _ _ _ ops => ops

/-- The request that is issued or completes. -/
def request : BlockEvent cpus → DiskIoRequestKey
  | .issue _ ctx _ _ => ⟨ctx.sector, ctx.dev, ctx.bytes, diskIoDirectionFromRwbs ctx.rwbs⟩
  | .complete _ ctx _ _ =>
    ⟨ctx.sector, ctx.dev, .ofNat (ctx.nrSector.toNat * 512), diskIoDirectionFromRwbs ctx.rwbs⟩

/-- It is the one for issues. -/
def issues : BlockEvent cpus → Bool
  | .issue .. => true
  | .complete .. => false

/-- The time at which it is hit. -/
def now : BlockEvent cpus → UInt64
  | .issue _ _ now _ => now
  | .complete _ _ now _ => now

/-- The program counts the event: it has a direction, and a size that is a word. -/
def Counted : BlockEvent cpus → Prop
  | .issue _ ctx _ _ => diskIoDirectionFromRwbs ctx.rwbs ≠ 0 ∧ 0 < ctx.bytes.toNat
  | .complete _ ctx _ _ =>
    diskIoDirectionFromRwbs ctx.rwbs ≠ 0 ∧ 0 < ctx.nrSector.toNat ∧ ctx.nrSector.toNat * 512 < 2 ^ 32

instance (e : BlockEvent cpus) : Decidable e.Counted := by
  cases e with
  | issue => exact inferInstanceAs (Decidable (_ ∧ _))
  | complete => exact inferInstanceAs (Decidable (_ ∧ _))

/-- The size is a positive multiple of the sector size, and a word. -/
def Sized : BlockEvent cpus → Prop
  | .issue _ ctx _ _ => 0 < ctx.bytes.toNat ∧ 512 ∣ ctx.bytes.toNat
  | .complete _ ctx _ _ => 0 < ctx.nrSector.toNat ∧ ctx.nrSector.toNat * 512 < 2 ^ 32

end BlockEvent

/-- The requests issued and not completed. -/
def settle (outstanding : Multiset DiskIoRequestKey) (e : BlockEvent cpus) :
    Multiset DiskIoRequestKey :=
  if e.issues then e.request ::ₘ outstanding else outstanding.erase e.request

/-- What the block layer does: it completes what it has issued, and never has too much outstanding.
No map operation fails. -/
structure Valid (outstanding : Multiset DiskIoRequestKey) (e : BlockEvent cpus) : Prop where
  direction : e.request.direction = diskIoDirectionRead ∨ e.request.direction = diskIoDirectionWrite
  sized : e.Sized
  startUpdated : e.ops.startUpdated = true
  countersCreated : e.ops.countersCreated = true
  room : e.issues = true → outstanding.card < maxInFlightRequests
  finishes : e.issues = false → e.request ∈ outstanding

/-- A valid event is about a read or a write. -/
theorem Valid.direction_ne_zero {outstanding : Multiset DiskIoRequestKey} {e : BlockEvent cpus}
    (valid : Valid outstanding e) : e.request.direction ≠ 0 := by
  rcases valid.direction with read | write
  · rw [read]
    decide
  · rw [write]
    decide

/-- So the program counts it. -/
theorem Valid.counted {outstanding : Multiset DiskIoRequestKey} {e : BlockEvent cpus}
    (valid : Valid outstanding e) : e.Counted := by
  have direction := valid.direction_ne_zero
  have sized := valid.sized
  cases e with
  | issue => exact ⟨direction, sized.1⟩
  | complete => exact ⟨direction, sized⟩

/-! ## Gauges -/

/-- The two gauges of what is in flight. -/
inductive Gauge where
  | bytes
  | operations
  deriving DecidableEq

namespace Gauge

/-- A gauge, as the program counts it. -/
def value : Gauge → RawDiskIoCounters → Int64
  | .bytes => RawDiskIoCounters.inFlightBytes
  | .operations => RawDiskIoCounters.inFlightOperations

/-- What a request counts for. -/
def weight : Gauge → DiskIoRequestKey → Nat
  | .bytes => fun request => request.bytes.toNat
  | .operations => fun _ => 1

/-- What the outstanding requests of a direction come to. -/
def amount (gauge : Gauge) (direction : UInt8) (outstanding : Multiset DiskIoRequestKey) : Nat :=
  ((outstanding.filter (·.direction = direction)).map gauge.weight).sum

/-- What an event counts for on a CPU, in a direction. -/
def flow (gauge : Gauge) (direction : UInt8) (cpu : Fin cpus) (e : BlockEvent cpus) : Int :=
  if e.cpu = cpu ∧ e.request.direction = direction then
    if e.issues then gauge.weight e.request else -gauge.weight e.request
  else 0

/-- A request weighs less than the width of its size. -/
theorem weight_lt (gauge : Gauge) (request : DiskIoRequestKey) :
    gauge.weight request < 2 ^ 32 := by
  cases gauge with
  | bytes => exact request.bytes.toNat_lt
  | operations => exact (by decide : 1 < 2 ^ 32)

/-- An issue adds what its request weighs. -/
theorem value_countUp (gauge : Gauge) (counters : RawDiskIoCounters)
    (request : DiskIoRequestKey) :
    gauge.value (counters.countUp request.bytes.toNat) =
      gauge.value counters + .ofNat (gauge.weight request) := by
  cases gauge <;> rfl

/-- A completion takes it off again. -/
theorem value_countDown (gauge : Gauge) (counters : RawDiskIoCounters)
    (request : DiskIoRequestKey) (latencyNs : UInt64) :
    gauge.value (counters.countDown request.bytes.toNat latencyNs) =
      gauge.value counters - .ofNat (gauge.weight request) := by
  cases gauge <;> rfl

/-- What else a completion counts leaves the gauges alone. -/
theorem value_countComplete (gauge : Gauge) (counters : RawDiskIoCounters) (bytes : UInt64)
    (error : Int32) : gauge.value (counters.countComplete bytes error) = gauge.value counters := by
  rw [RawDiskIoCounters.countComplete]
  split <;> cases gauge <;> rfl

/-- The collector sums the gauges with saturation. -/
theorem value_sumCounters (gauge : Gauge) (counters : List RawDiskIoCounters) :
    gauge.value (DiskIoCollector.sumCounters counters) =
      (counters.map gauge.value).foldl Saturating.signedAdd 0 := by
  rw [List.foldl_map]
  cases gauge with
  | bytes => exact (List.foldl_hom RawDiskIoCounters.inFlightBytes fun _ _ => rfl).symm
  | operations => exact (List.foldl_hom RawDiskIoCounters.inFlightOperations fun _ _ => rfl).symm

/-- One more request outstanding weighs on its own direction. -/
theorem amount_cons (gauge : Gauge) (direction : UInt8) (request : DiskIoRequestKey)
    (outstanding : Multiset DiskIoRequestKey) :
    gauge.amount direction (request ::ₘ outstanding) =
      (if request.direction = direction then gauge.weight request else 0) +
        gauge.amount direction outstanding := by
  by_cases own : request.direction = direction
  · simp [amount, own]
  · simp [amount, own]

/-- One request less weighs as much less. -/
theorem amount_erase (gauge : Gauge) (direction : UInt8) {request : DiskIoRequestKey}
    {outstanding : Multiset DiskIoRequestKey} (mem : request ∈ outstanding) :
    (if request.direction = direction then gauge.weight request else 0) +
        gauge.amount direction (outstanding.erase request) =
      gauge.amount direction outstanding := by
  rw [← amount_cons, Multiset.cons_erase mem]

/-- **What is outstanding is what flowed in less what flowed out**, over all CPUs. -/
theorem sum_flow (gauge : Gauge) (direction : UInt8) {es : List (BlockEvent cpus)}
    (valid : StepsMeet settle Valid 0 es) :
    ∑ cpu, (es.map (gauge.flow direction cpu)).sum =
      (gauge.amount direction (run settle 0 es) : Int) := by
  induction es using List.reverseRecOn with
  | nil => simp [amount]
  | append_singleton es e ih =>
    have last := valid es e [] rfl
    have one : ∑ cpu, gauge.flow direction cpu e =
        if e.request.direction = direction then
          if e.issues then (gauge.weight e.request : Int) else -gauge.weight e.request
        else 0 := by
      by_cases own : e.request.direction = direction
      · simp [flow, own]
      · simp [flow, own]
    simp only [List.map_append, List.map_singleton, List.sum_append, List.sum_singleton,
      Finset.sum_add_distrib, ih valid.left, one, run_append, run_cons, run_nil, settle]
    cases issues : e.issues with
    | true =>
      rw [if_pos rfl, if_pos rfl, amount_cons]
      split <;> push_cast <;> omega
    | false =>
      have erased := gauge.amount_erase direction (last.finishes issues)
      rw [if_neg Bool.false_ne_true, if_neg Bool.false_ne_true, ← erased]
      split <;> push_cast <;> omega

end Gauge

/-! ## What a step does -/

namespace DiskIoMaps

/-- The level of a gauge on a CPU. -/
def level (s : DiskIoMaps cpus) (gauge : Gauge) (direction : UInt8) (cpu : Fin cpus) : Int64 :=
  gauge.value (s.values direction cpu)

variable {s : DiskIoMaps cpus}

/-- A write changes one CPU's counters of one direction. -/
theorem values_setCounters (cpu : Fin cpus) (direction direction' : UInt8)
    (counters : RawDiskIoCounters) (cpu' : Fin cpus) :
    (s.setCounters cpu direction counters).values direction' cpu' =
      if cpu = cpu' ∧ direction = direction' then counters else s.values direction' cpu' := by
  by_cases same : direction = direction'
  · subst same
    by_cases own : cpu = cpu'
    · subst own
      simp [values, setCounters]
    · simp [values, setCounters, own, Ne.symm own]
  · simp [values, setCounters, same, Ne.symm same]

/-- The counters of a direction are there, and creating them changes no value. -/
theorem diskIoCountersFor_eq (cpu : Fin cpus) (direction : UInt8) {ops : MapOperations}
    (created : ops.countersCreated = true) :
    ∃ s', s.diskIoCountersFor cpu direction ops = (s', some (s.values direction cpu)) ∧
      s'.starts = s.starts ∧ ∀ direction' cpu', s'.values direction' cpu' = s.values direction' cpu' := by
  cases found : s.counters ⟨direction⟩ with
  | some values =>
    refine ⟨s, ?_, rfl, fun _ _ => rfl⟩
    simp [diskIoCountersFor, DiskIoMaps.values, found]
  | none =>
    refine ⟨s.setCounters cpu direction .default, ?_, rfl, fun direction' cpu' => ?_⟩
    · simp [diskIoCountersFor, values, found, created]
    · rw [values_setCounters]
      split
      next same =>
        rw [← same.2, values, found]
        rfl
      next => rfl

/-- Sectors in bytes. -/
theorem toNat_sectors (nrSector : UInt32) :
    (nrSector.toUInt64 <<< 9).toNat = nrSector.toNat * 512 := by
  have bound := nrSector.toNat_lt
  rw [UInt64.toNat_shiftLeft, UInt32.toNat_toUInt64, Nat.shiftLeft_eq]
  show nrSector.toNat * 2 ^ 9 % 2 ^ 64 = _
  omega

/-- A start that is not there need not be deleted. -/
theorem deleteStart_of_missing {key : DiskIoRequestKey} (missing : s.start key = none) :
    s.deleteStart key = s := by
  have absent : s.starts.filter (·.1 ≠ key) = s.starts := by
    refine List.filter_eq_self.mpr fun entry mem => ?_
    rw [start, Option.map_eq_none_iff] at missing
    simpa using List.find?_eq_none.mp missing entry mem
  rw [deleteStart, absent]

/-- The counters of a request that completes: counted down from its start, if there is one. -/
def settled (counters : RawDiskIoCounters) (start : Option DiskIoRequestStart) (now : UInt64)
    (bytes : Nat) : RawDiskIoCounters :=
  match start with
  | none => counters
  | some start => counters.countDown bytes (now - start.issueNs)

/-- Settling a start deletes it, and takes the request off if there was one. -/
theorem settleStart_eq (now : UInt64) (request : DiskIoRequestKey) (bytes : UInt64)
    (counters : RawDiskIoCounters) :
    s.settleStart now request bytes counters =
      (s.deleteStart request, settled counters (s.start request) now bytes.toNat) := by
  cases found : s.start request with
  | none => rw [settleStart, found, deleteStart_of_missing found, settled]
  | some start => rw [settleStart, found, settled]

/-- The gauge goes down only if a start was found. -/
theorem value_settled (gauge : Gauge) (counters : RawDiskIoCounters)
    (start : Option DiskIoRequestStart) (now : UInt64) (request : DiskIoRequestKey) :
    gauge.value (settled counters start now request.bytes.toNat) =
      if start.isSome then gauge.value counters - .ofNat (gauge.weight request)
      else gauge.value counters := by
  cases start with
  | none => exact (if_neg Bool.false_ne_true).symm
  | some start =>
    rw [Option.isSome_some, if_pos rfl]
    exact gauge.value_countDown counters request (now - start.issueNs)

/-- An event that is not counted changes nothing. -/
theorem step_of_not_counted {e : BlockEvent cpus} (ignored : ¬ e.Counted) : s.step e = s := by
  cases e with
  | issue cpu ctx now ops =>
    refine if_pos ?_
    by_cases direction : diskIoDirectionFromRwbs ctx.rwbs = 0
    · exact .inr direction
    · refine .inl (UInt32.toNat_inj.mp (Nat.eq_zero_of_not_pos fun size => ignored ?_))
      exact ⟨direction, size⟩
  | complete cpu ctx now ops =>
    refine if_pos ?_
    have size := toNat_sectors ctx.nrSector
    by_cases direction : diskIoDirectionFromRwbs ctx.rwbs = 0
    · exact .inr (.inl direction)
    · by_cases empty : ctx.nrSector.toNat = 0
      · refine .inl (UInt64.toNat_inj.mp ?_)
        rw [size, empty]
        rfl
      · refine .inr (.inr (UInt64.lt_iff_toNat_lt.mpr ?_))
        have large : ¬ ctx.nrSector.toNat * 512 < 2 ^ 32 := fun word =>
          ignored ⟨direction, Nat.pos_of_ne_zero empty, word⟩
        have most : (0xffffffff : UInt64).toNat = 2 ^ 32 - 1 := rfl
        omega

/-- An issue puts a start into the map, and counts up on its CPU. -/
theorem step_issue_eq {e : BlockEvent cpus} (counted : e.Counted) (issues : e.issues = true)
    (updated : e.ops.startUpdated = true) (created : e.ops.countersCreated = true)
    (room : (s.starts.filter (·.1 ≠ e.request)).length < maxInFlightRequests) :
    (s.step e).starts = (e.request, ⟨e.now⟩) :: s.starts.filter (·.1 ≠ e.request) ∧
      ∀ direction cpu, (s.step e).values direction cpu =
        if e.cpu = cpu ∧ e.request.direction = direction then
          (s.values direction cpu).countUp e.request.bytes.toNat
        else s.values direction cpu := by
  cases e with
  | complete => cases issues
  | issue cpu ctx now ops =>
    obtain ⟨direct, positive⟩ := counted
    have known : ¬ (ctx.bytes = 0 ∨ diskIoDirectionFromRwbs ctx.rwbs = 0) := by
      intro h
      rcases h with empty | unknown
      · rw [empty] at positive
        exact absurd positive (by decide)
      · exact direct unknown
    have updates : ops.startUpdated ≠ false := by
      rw [show ops.startUpdated = true from updated]
      decide
    have creates : ops.countersCreated = true := created
    generalize named : (BlockEvent.issue cpu ctx now ops).request = request at room ⊢
    have key : diskIoRequestKeyFromCtx ctx.dev ctx.sector ctx.bytes.toUInt64
        (diskIoDirectionFromRwbs ctx.rwbs) = request := by
      rw [← named]
      simp [diskIoRequestKeyFromCtx, BlockEvent.request]
    obtain ⟨s', found, starts, values⟩ := (s.updateStart request ⟨now⟩ ops.victim).diskIoCountersFor_eq
      cpu (diskIoDirectionFromRwbs ctx.rwbs) creates
    have stepped : s.step (.issue cpu ctx now ops) =
        s'.setCounters cpu (diskIoDirectionFromRwbs ctx.rwbs)
          ((s.values (diskIoDirectionFromRwbs ctx.rwbs) cpu).countUp request.bytes.toNat) := by
      rw [step, accountDiskIoIssue, if_neg known, if_neg updates, key]
      dsimp only
      rw [found, ← named]
      rfl
    rw [stepped]
    constructor
    · show s'.starts = _
      rw [starts, updateStart]
      simp only [if_pos room]
      rfl
    · intro direction cpu'
      have direct : request.direction = diskIoDirectionFromRwbs ctx.rwbs := by
        rw [← named]
        rfl
      rw [values_setCounters, direct]
      by_cases own : cpu = cpu' ∧ diskIoDirectionFromRwbs ctx.rwbs = direction
      · refine (if_pos own).trans (Eq.trans ?_ (if_pos own).symm)
        rw [own.1, own.2]
      · refine (if_neg own).trans (Eq.trans ?_ (if_neg own).symm)
        exact values direction cpu'

/-- A completion takes the start out of the map, settles it and is counted. -/
theorem step_complete_eq {cpu : Fin cpus} {ctx : BlockRqCompleteCtx} {now : UInt64}
    {ops : MapOperations} (counted : (BlockEvent.complete cpu ctx now ops).Counted)
    (created : ops.countersCreated = true) {request : DiskIoRequestKey}
    (named : (BlockEvent.complete cpu ctx now ops).request = request) :
    (s.step (.complete cpu ctx now ops)).starts = s.starts.filter (·.1 ≠ request) ∧
      ∀ direction cpu', (s.step (.complete cpu ctx now ops)).values direction cpu' =
        if cpu = cpu' ∧ request.direction = direction then
          (settled (s.values direction cpu') (s.start request) now
            request.bytes.toNat).countComplete (ctx.nrSector.toUInt64 <<< 9) ctx.error
        else s.values direction cpu' := by
  obtain ⟨direct, positive, word⟩ := counted
  have size := toNat_sectors ctx.nrSector
  have known : ¬ (ctx.nrSector.toUInt64 <<< 9 = 0 ∨ diskIoDirectionFromRwbs ctx.rwbs = 0 ∨
      ctx.nrSector.toUInt64 <<< 9 > 0xffffffff) := by
    intro h
    rcases h with empty | unknown | long
    · rw [empty] at size
      have zero : (0 : UInt64).toNat = 0 := rfl
      omega
    · exact direct unknown
    · have long := UInt64.lt_iff_toNat_lt.mp long
      have most : (0xffffffff : UInt64).toNat = 2 ^ 32 - 1 := rfl
      omega
  have bytes : (ctx.nrSector.toUInt64 <<< 9).toNat = request.bytes.toNat := by
    rw [← named, size]
    exact (UInt32.toNat_ofNat_of_lt' word).symm
  have key : diskIoRequestKeyFromCtx ctx.dev ctx.sector (ctx.nrSector.toUInt64 <<< 9)
      (diskIoDirectionFromRwbs ctx.rwbs) = request := by
    have same : (ctx.nrSector.toUInt64 <<< 9).toUInt32 = request.bytes := by
      apply UInt32.toNat_inj.mp
      rw [UInt64.toNat_toUInt32, bytes]
      exact Nat.mod_eq_of_lt request.bytes.toNat_lt
    rw [diskIoRequestKeyFromCtx, same, ← named]
    rfl
  obtain ⟨s', found, starts, values⟩ :=
    s.diskIoCountersFor_eq cpu (diskIoDirectionFromRwbs ctx.rwbs) created
  have same : s'.start request = s.start request := by
    rw [start, starts]
    rfl
  have stepped : s.step (.complete cpu ctx now ops) =
      (s'.deleteStart request).setCounters cpu (diskIoDirectionFromRwbs ctx.rwbs)
        ((settled (s.values (diskIoDirectionFromRwbs ctx.rwbs) cpu) (s.start request) now
          request.bytes.toNat).countComplete (ctx.nrSector.toUInt64 <<< 9) ctx.error) := by
    rw [step, accountDiskIoComplete]
    dsimp only
    rw [if_neg known, found]
    dsimp only
    rw [key, settleStart_eq, same, bytes]
  rw [stepped]
  constructor
  · show s'.starts.filter _ = _
    rw [starts]
  · intro direction cpu'
    have direct : request.direction = diskIoDirectionFromRwbs ctx.rwbs := by
      rw [← named]
      rfl
    rw [values_setCounters, direct]
    by_cases own : cpu = cpu' ∧ diskIoDirectionFromRwbs ctx.rwbs = direction
    · refine (if_pos own).trans (Eq.trans ?_ (if_pos own).symm)
      rw [own.1, own.2]
    · refine (if_neg own).trans (Eq.trans ?_ (if_neg own).symm)
      exact values direction cpu'

/-- An issue, and the gauges. -/
theorem step_issue {outstanding : Multiset DiskIoRequestKey} {e : BlockEvent cpus}
    (valid : Valid outstanding e) (issues : e.issues = true)
    (room : (s.starts.filter (·.1 ≠ e.request)).length < maxInFlightRequests) :
    (∃ start, (s.step e).starts = (e.request, start) :: s.starts.filter (·.1 ≠ e.request)) ∧
      ∀ gauge direction cpu, (s.step e).level gauge direction cpu =
        if e.cpu = cpu ∧ e.request.direction = direction then
          s.level gauge direction cpu + .ofNat (gauge.weight e.request)
        else s.level gauge direction cpu := by
  obtain ⟨starts, values⟩ :=
    step_issue_eq valid.counted issues valid.startUpdated valid.countersCreated room
  refine ⟨⟨_, starts⟩, fun gauge direction cpu => ?_⟩
  rw [level, values, apply_ite gauge.value, gauge.value_countUp]
  rfl

/-- A completion, and the gauges: if its request has a start, it counts down on its CPU. -/
theorem step_complete {outstanding : Multiset DiskIoRequestKey} {e : BlockEvent cpus}
    (valid : Valid outstanding e) (completes : e.issues = false) :
    (s.step e).starts = s.starts.filter (·.1 ≠ e.request) ∧
      ∀ gauge direction cpu, (s.step e).level gauge direction cpu =
        if (e.cpu = cpu ∧ e.request.direction = direction) ∧ (s.start e.request).isSome then
          s.level gauge direction cpu - .ofNat (gauge.weight e.request)
        else s.level gauge direction cpu := by
  cases e with
  | issue => cases completes
  | complete cpu ctx now ops =>
    generalize named : (BlockEvent.complete cpu ctx now ops).request = request
    obtain ⟨starts, values⟩ := step_complete_eq (s := s) valid.counted valid.countersCreated named
    refine ⟨starts, fun gauge direction cpu' => ?_⟩
    rw [level, values, apply_ite gauge.value, gauge.value_countComplete, value_settled]
    by_cases own : cpu = cpu' ∧ request.direction = direction
    · exact (if_pos own).trans (if_congr (and_iff_right own).symm rfl rfl)
    · exact (if_neg own).trans (if_neg fun h => own h.1).symm

/-! ## Runs -/

/-- A completion finds the start of its request. -/
def FindsStart (s : DiskIoMaps cpus) (e : BlockEvent cpus) : Prop :=
  e.issues = false → (s.start e.request).isSome = true

/-- The starts are of distinct requests, all outstanding. -/
structure Tracks (s : DiskIoMaps cpus) (outstanding : Multiset DiskIoRequestKey) : Prop where
  distinct : (s.starts.map Prod.fst).Nodup
  known : ∀ key ∈ s.starts.map Prod.fst, key ∈ outstanding

/-- There is room for a start when there is room for a request. -/
theorem Tracks.length_le {outstanding : Multiset DiskIoRequestKey} (tracks : s.Tracks outstanding)
    (key : DiskIoRequestKey) : (s.starts.filter (·.1 ≠ key)).length ≤ outstanding.card := by
  have fewer : (s.starts.map Prod.fst : Multiset DiskIoRequestKey) ≤ outstanding :=
    (Multiset.le_iff_subset (Multiset.coe_nodup.mpr tracks.distinct)).mpr tracks.known
  have count := Multiset.card_le_card fewer
  rw [Multiset.coe_card, List.length_map] at count
  exact (List.length_filter_le _ _).trans count

/-- Deleting a start deletes its key. -/
theorem keys_filter (key : DiskIoRequestKey) :
    (s.starts.filter (·.1 ≠ key)).map Prod.fst = (s.starts.map Prod.fst).filter (· ≠ key) := by
  rw [List.filter_map]
  rfl

/-- Each valid event keeps the starts among the outstanding requests. -/
theorem tracks_step {outstanding : Multiset DiskIoRequestKey} {e : BlockEvent cpus}
    (tracks : s.Tracks outstanding) (valid : Valid outstanding e) :
    (s.step e).Tracks (settle outstanding e) := by
  have kept : ((s.starts.map Prod.fst).filter (· ≠ e.request)).Nodup := tracks.distinct.filter _
  cases issues : e.issues with
  | true =>
    have room := (tracks.length_le e.request).trans_lt (valid.room issues)
    obtain ⟨⟨start, starts⟩, -⟩ := step_issue valid issues room
    rw [settle, issues, if_pos rfl]
    constructor
    · rw [starts, List.map_cons, keys_filter]
      exact List.nodup_cons.mpr ⟨by simp, kept⟩
    · intro key mem
      rw [starts, List.map_cons, keys_filter] at mem
      rcases List.mem_cons.mp mem with rfl | mem
      · exact Multiset.mem_cons_self _ _
      · exact Multiset.mem_cons_of_mem (tracks.known key (List.mem_filter.mp mem).1)
  | false =>
    obtain ⟨starts, -⟩ := step_complete (s := s) valid issues
    rw [settle, issues, if_neg Bool.false_ne_true]
    constructor
    · rw [starts, keys_filter]
      exact kept
    · intro key mem
      rw [starts, keys_filter] at mem
      obtain ⟨mem, other⟩ := List.mem_filter.mp mem
      exact (Multiset.mem_erase_of_ne (of_decide_eq_true other)).mpr (tracks.known key mem)

/-- In every valid run the starts are among the outstanding requests. -/
theorem tracks_run {es : List (BlockEvent cpus)} (valid : StepsMeet settle Valid 0 es) :
    (run step new es).Tracks (run settle 0 es) := by
  induction es using List.reverseRecOn with
  | nil => exact ⟨List.nodup_nil, fun key mem => nomatch mem⟩
  | append_singleton es e ih =>
    rw [run_append, run_append]
    exact tracks_step (ih valid.left) (valid es e [] rfl)

/-! ## Levels -/

/-- No gauge leaves its type: neither on a CPU nor as it is summed over them. -/
def NoOverflow (es : List (BlockEvent cpus)) : Prop :=
  ∀ pre ∈ es.inits, ∀ (gauge : Gauge) direction,
    (∀ cpu, Saturating.Signed (pre.map (gauge.flow direction cpu)).sum) ∧
      ∀ part ∈ (List.ofFn fun cpu => (pre.map (gauge.flow direction cpu)).sum).inits,
        Saturating.Signed part.sum

/-- What does not overflow does not before its last events. -/
theorem NoOverflow.left {es fs : List (BlockEvent cpus)} (fits : NoOverflow (es ++ fs)) :
    NoOverflow es := by
  intro pre mem
  refine fits pre ?_
  rw [List.mem_inits] at mem ⊢
  exact mem.trans (List.prefix_append es fs)

/-- The flows of a run over all CPUs, by their size, are at most what its events count for. -/
theorem sum_abs_flow_le (gauge : Gauge) (direction : UInt8) (es : List (BlockEvent cpus)) :
    ∑ cpu, |(es.map (gauge.flow direction cpu)).sum| ≤
      ((es.map fun e => gauge.weight e.request).sum : Int) := by
  induction es with
  | nil => simp
  | cons e es ih =>
    have one : ∑ cpu, |gauge.flow direction cpu e| ≤ (gauge.weight e.request : Int) := by
      have each (cpu : Fin cpus) : |gauge.flow direction cpu e| ≤
          if e.cpu = cpu then (gauge.weight e.request : Int) else 0 := by
        by_cases here : e.cpu = cpu
        · by_cases own : e.request.direction = direction
          · rw [Gauge.flow, if_pos ⟨here, own⟩, if_pos here]
            split
            next => rw [Nat.abs_cast]
            next => rw [abs_neg, Nat.abs_cast]
          · rw [Gauge.flow, if_neg fun h => own h.2, if_pos here, abs_zero]
            exact Int.natCast_nonneg _
        · rw [Gauge.flow, if_neg fun h => here h.1, if_neg here, abs_zero]
      refine (Finset.sum_le_sum fun cpu _ => each cpu).trans (le_of_eq ?_)
      rw [Finset.sum_ite_eq, if_pos (Finset.mem_univ _)]
    have both : ∑ cpu, |((e :: es).map (gauge.flow direction cpu)).sum| ≤
        ∑ cpu, (|gauge.flow direction cpu e| + |(es.map (gauge.flow direction cpu)).sum|) := by
      refine Finset.sum_le_sum fun cpu _ => ?_
      rw [List.map_cons, List.sum_cons]
      exact abs_add_le _ _
    rw [Finset.sum_add_distrib] at both
    rw [List.map_cons, List.sum_cons, Nat.cast_add]
    omega

/-- A run that moves fewer than `2 ^ 63` bytes and operations in all overflows nothing. -/
theorem noOverflow_of_moved {es : List (BlockEvent cpus)}
    (moved : ∀ gauge : Gauge, (es.map fun e => gauge.weight e.request).sum < 2 ^ 63) :
    NoOverflow es := by
  intro pre mem gauge direction
  obtain ⟨post, rfl⟩ := (List.mem_inits _ _).mp mem
  have total := sum_abs_flow_le gauge direction pre
  have bound := moved gauge
  rw [List.map_append, List.sum_append] at bound
  have signed {n : Int} (small : |n| ≤ ∑ cpu, |(pre.map (gauge.flow direction cpu)).sum|) :
      Saturating.Signed n := by
    obtain ⟨lower, upper⟩ := abs_le.mp small
    constructor <;> omega
  refine ⟨fun cpu => signed ?_, fun part starts => signed ?_⟩
  · exact Finset.single_le_sum (f := fun cpu => |(pre.map (gauge.flow direction cpu)).sum|)
      (fun _ _ => abs_nonneg _) (Finset.mem_univ cpu)
  · obtain ⟨rest, whole⟩ := (List.mem_inits _ _).mp starts
    have sizes := congrArg (fun sums => (sums.map abs).sum) whole
    simp only [List.map_append, List.sum_append, List.map_ofFn, List.sum_ofFn,
      Function.comp_def] at sizes
    have nonneg : 0 ≤ (rest.map abs).sum := List.sum_nonneg fun n mem => by
      obtain ⟨m, -, rfl⟩ := List.mem_map.mp mem
      exact abs_nonneg m
    have small : |part.sum| ≤ (part.map abs).sum := by
      simpa using (part : Multiset Int).abs_sum_le_sum_abs
    omega

/-- A level that stays in its type moves by what flows. -/
theorem toInt_move (level : Int64) {weight : Nat} (word : weight < 2 ^ 32) :
    (Saturating.Signed (level.toInt + weight) →
      (level + .ofNat weight).toInt = level.toInt + weight) ∧
    (Saturating.Signed (level.toInt - weight) →
      (level - .ofNat weight).toInt = level.toInt - weight) := by
  have small : (Int64.ofNat weight).toInt = weight := Int64.toInt_ofNat_of_lt (by omega)
  constructor
  · intro signed
    rw [Int64.toInt_add, small]
    exact Int.bmod_eq_of_le signed.1 signed.2
  · intro signed
    rw [Int64.toInt_sub, small]
    exact Int.bmod_eq_of_le signed.1 signed.2

/-- **The level of a gauge on a CPU** is what flowed there. -/
theorem level_run {es : List (BlockEvent cpus)} (valid : StepsMeet settle Valid 0 es)
    (fits : NoOverflow es) (finds : StepsMeet step FindsStart new es) (gauge : Gauge)
    (direction : UInt8) (cpu : Fin cpus) :
    ((run step new es).level gauge direction cpu).toInt =
      (es.map (gauge.flow direction cpu)).sum := by
  induction es using List.reverseRecOn with
  | nil => cases gauge <;> rfl
  | append_singleton es e ih =>
    have before := ih valid.left fits.left finds.left
    have last := valid es e [] rfl
    have after := ((fits (es ++ [e]) ((List.mem_inits _ _).mpr (List.prefix_refl _))) gauge direction).1
      cpu
    rw [List.map_append, List.sum_append, List.map_singleton, List.sum_singleton] at after ⊢
    rw [← before] at after ⊢
    rw [run_append, run_cons, run_nil]
    obtain ⟨up, down⟩ := toInt_move ((run step new es).level gauge direction cpu)
      (gauge.weight_lt e.request)
    cases issues : e.issues with
    | true =>
      have room := ((tracks_run valid.left).length_le e.request).trans_lt (last.room issues)
      rw [(step_issue last issues room).2]
      by_cases own : e.cpu = cpu ∧ e.request.direction = direction
      · rw [Gauge.flow, if_pos own, issues, if_pos rfl] at after ⊢
        rw [if_pos own]
        exact up after
      · rw [Gauge.flow, if_neg own, if_neg own, Int.add_zero]
    | false =>
      rw [(step_complete last issues).2]
      have found := finds es e [] rfl issues
      by_cases own : e.cpu = cpu ∧ e.request.direction = direction
      · rw [Gauge.flow, if_pos own, issues, if_neg Bool.false_ne_true] at after ⊢
        rw [if_pos ⟨own, found⟩]
        exact down after
      · rw [Gauge.flow, if_neg own, if_neg fun h => own h.1, Int.add_zero]

/-! ## Totals -/

/-- What is summed for a direction is its levels on the CPUs, with saturation. -/
theorem value_summed (s : DiskIoMaps cpus) (gauge : Gauge) (direction : UInt8) :
    gauge.value (s.summed direction) =
      (List.ofFn (s.level gauge direction)).foldl Saturating.signedAdd 0 := by
  rw [summed, gauge.value_sumCounters, List.map_ofFn]
  rfl

/-- **The gauges are right**: what the collector sums is what is outstanding. -/
def Accurate (es : List (BlockEvent cpus)) : Prop :=
  ∀ (gauge : Gauge) direction,
    (gauge.value ((run step new es).summed direction)).toInt =
      gauge.amount direction (run settle 0 es)

/-- **A run whose completions find their starts is accurate.** -/
theorem accurate {es : List (BlockEvent cpus)} (valid : StepsMeet settle Valid 0 es)
    (fits : NoOverflow es) (finds : StepsMeet step FindsStart new es) : Accurate es := by
  intro gauge direction
  have levels : (List.ofFn ((run step new es).level gauge direction)).map Int64.toInt =
      List.ofFn fun cpu => (es.map (gauge.flow direction cpu)).sum := by
    rw [List.map_ofFn]
    exact congrArg List.ofFn (funext fun cpu => level_run valid fits finds gauge direction cpu)
  have parts := (fits es ((List.mem_inits _ _).mpr (List.prefix_refl es)) gauge direction).2
  rw [value_summed, Saturating.toInt_foldl_signedAdd, levels, List.sum_ofFn,
    gauge.sum_flow direction valid]
  · exact Int.zero_add _
  · intro part starts
    show Saturating.Signed (0 + _)
    rw [Int.zero_add]
    refine parts _ ((List.mem_inits _ _).mpr ?_)
    rw [← levels]
    exact starts.map Int64.toInt

/-- A completion that finds no start is not counted down. -/
theorem summed_missing {s : DiskIoMaps cpus} {outstanding : Multiset DiskIoRequestKey}
    {e : BlockEvent cpus} (valid : Valid outstanding e) (completes : e.issues = false)
    (missing : (s.start e.request).isSome = false) (gauge : Gauge) (direction : UInt8) :
    gauge.value ((s.step e).summed direction) = gauge.value (s.summed direction) := by
  have same : (s.step e).level gauge direction = s.level gauge direction := by
    funext cpu
    rw [(step_complete valid completes).2, missing, if_neg fun h => Bool.false_ne_true h.2]
  rw [value_summed, value_summed, same]

end DiskIoMaps

open DiskIoMaps in
/-- **When the gauges are right**: as long as every completion finds the start of its request. -/
theorem in_flight_accurate_iff {es : List (BlockEvent cpus)}
    (valid : StepsMeet settle Valid 0 es) (fits : NoOverflow es) :
    (∀ pre, pre <+: es → Accurate pre) ↔ StepsMeet step FindsStart new es := by
  constructor
  · intro right pre e post split completes
    by_contra missing
    have missing : ((run step new pre).start e.request).isSome = false := by
      simpa using missing
    have last := valid pre e post split
    have before := right pre (by rw [split]; exact List.prefix_append _ _) .operations
      e.request.direction
    have after := right (pre ++ [e]) (by rw [split]; simp) .operations e.request.direction
    rw [run_append, run_append, run_cons, run_nil, run_cons, run_nil,
      summed_missing last completes missing, before, settle, completes,
      if_neg Bool.false_ne_true] at after
    have erased := Gauge.operations.amount_erase e.request.direction (last.finishes completes)
    rw [if_pos rfl] at erased
    have one : Gauge.operations.weight e.request = 1 := rfl
    omega
  · intro finds pre starts
    obtain ⟨post, rfl⟩ := starts
    exact accurate valid.left fits.left finds.left

/-! ## Distinct requests -/

namespace DiskIoMaps

/-- No request is issued while an identical one is outstanding. -/
def Fresh (outstanding : Multiset DiskIoRequestKey) (e : BlockEvent cpus) : Prop :=
  e.issues = true → e.request ∉ outstanding

/-- A start is found for a key that has one. -/
theorem isSome_start {s : DiskIoMaps cpus} {key : DiskIoRequestKey} :
    (s.start key).isSome = true ↔ key ∈ s.starts.map Prod.fst := by
  rw [start, Option.isSome_map, List.find?_isSome, List.mem_map]
  simp only [decide_eq_true_eq]

/-- While requests are distinct, every one that is outstanding has a start. -/
theorem started_run {es : List (BlockEvent cpus)} (valid : StepsMeet settle Valid 0 es)
    (fresh : StepsMeet settle Fresh 0 es) :
    (run settle 0 es).Nodup ∧
      ∀ key ∈ run settle 0 es, ((run step new es).start key).isSome = true := by
  induction es using List.reverseRecOn with
  | nil => exact ⟨Multiset.nodup_zero, fun key mem => absurd mem (Multiset.notMem_zero key)⟩
  | append_singleton es e ih =>
    obtain ⟨distinct, started⟩ := ih valid.left fresh.left
    have last := valid es e [] rfl
    have unseen := fresh es e [] rfl
    simp only [isSome_start] at started ⊢
    rw [run_append, run_cons, run_nil, run_append, run_cons, run_nil, settle]
    cases issues : e.issues with
    | true =>
      have room := ((tracks_run valid.left).length_le e.request).trans_lt (last.room issues)
      obtain ⟨⟨start, starts⟩, -⟩ := step_issue last issues room
      rw [if_pos rfl, starts, List.map_cons, keys_filter]
      refine ⟨Multiset.nodup_cons.mpr ⟨unseen issues, distinct⟩, fun key mem => ?_⟩
      by_cases own : key = e.request
      · rw [own]
        exact List.mem_cons_self
      · rcases Multiset.mem_cons.mp mem with same | mem
        · exact absurd same own
        · refine List.mem_cons_of_mem _ (List.mem_filter.mpr ⟨started key mem, ?_⟩)
          exact decide_eq_true own
    | false =>
      rw [if_neg Bool.false_ne_true, (step_complete last issues).1, keys_filter]
      refine ⟨distinct.erase _, fun key mem => ?_⟩
      obtain ⟨other, mem⟩ := distinct.mem_erase_iff.mp mem
      exact List.mem_filter.mpr ⟨started key mem, decide_eq_true other⟩

/-- **Distinct requests are all counted down.** -/
theorem findsStart_of_fresh {es : List (BlockEvent cpus)} (valid : StepsMeet settle Valid 0 es)
    (fresh : StepsMeet settle Fresh 0 es) : StepsMeet step FindsStart new es := by
  intro pre e post split completes
  subst split
  exact (started_run valid.left fresh.left).2 _ ((valid pre e post rfl).finishes completes)

/-! ## Which completions find a start -/

/-- The last event of a request is its issue. -/
def IssuedLast (es : List (BlockEvent cpus)) (key : DiskIoRequestKey) : Prop :=
  ∃ before i after, es = before ++ i :: after ∧ i.issues = true ∧ i.request = key ∧
    ∀ e ∈ after, e.request ≠ key

/-- An event of another key does not change which event of a key was the last. -/
theorem IssuedLast.concat {es : List (BlockEvent cpus)} {key : DiskIoRequestKey}
    (issued : IssuedLast es key) {e : BlockEvent cpus} (other : e.request ≠ key) :
    IssuedLast (es ++ [e]) key := by
  obtain ⟨before, i, after, rfl, issues, own, others⟩ := issued
  refine ⟨before, i, after ++ [e], by simp, issues, own, fun e' mem => ?_⟩
  rcases List.mem_append.mp mem with mem | mem
  · exact others e' mem
  · rw [List.mem_singleton.mp mem]
    exact other

/-- **A request has a start while its last event is its issue.** -/
theorem issuedLast_of_start {es : List (BlockEvent cpus)} (valid : StepsMeet settle Valid 0 es)
    {key : DiskIoRequestKey} (found : ((run step new es).start key).isSome = true) :
    IssuedLast es key := by
  induction es using List.reverseRecOn with
  | nil => cases found
  | append_singleton es e ih =>
    have last := valid es e [] rfl
    rw [isSome_start, run_append, run_cons, run_nil] at found
    rw [isSome_start] at ih
    cases issues : e.issues with
    | true =>
      have room := ((tracks_run valid.left).length_le e.request).trans_lt (last.room issues)
      obtain ⟨⟨start, starts⟩, -⟩ := step_issue last issues room
      rw [starts, List.map_cons, keys_filter] at found
      rcases List.mem_cons.mp found with own | kept
      · exact ⟨es, e, [], rfl, issues, own.symm, fun e' mem => absurd mem List.not_mem_nil⟩
      · obtain ⟨mem, other⟩ := List.mem_filter.mp kept
        exact (ih valid.left mem).concat (Ne.symm (of_decide_eq_true other))
    | false =>
      rw [(step_complete last issues).1, keys_filter] at found
      obtain ⟨mem, other⟩ := List.mem_filter.mp found
      exact (ih valid.left mem).concat (Ne.symm (of_decide_eq_true other))

/-- A key whose last event is an issue has its start. -/
theorem start_of_issuedLast {es : List (BlockEvent cpus)} (valid : StepsMeet settle Valid 0 es)
    {key : DiskIoRequestKey} (issued : IssuedLast es key) :
    ((run step new es).start key).isSome = true := by
  obtain ⟨before, i, after, rfl, issues, rfl, others⟩ := issued
  induction after using List.reverseRecOn with
  | nil =>
    have last := valid before i [] rfl
    have room := ((tracks_run valid.left).length_le i.request).trans_lt (last.room issues)
    obtain ⟨⟨start, starts⟩, -⟩ := step_issue last issues room
    rw [isSome_start, run_append, run_cons, run_nil, starts, List.map_cons]
    exact List.mem_cons_self
  | append_singleton after e ih =>
    rw [← List.cons_append, ← List.append_assoc] at valid ⊢
    have last := valid (before ++ i :: after) e [] rfl
    have other : e.request ≠ i.request := others e (List.mem_append_right _ List.mem_cons_self)
    have found := ih valid.left fun e' mem => others e' (List.mem_append_left _ mem)
    rw [isSome_start] at found ⊢
    have kept : i.request ∈ ((run step new (before ++ i :: after)).starts.map Prod.fst).filter
        (· ≠ e.request) := List.mem_filter.mpr ⟨found, decide_eq_true other.symm⟩
    rw [run_append, run_cons, run_nil]
    cases issued : e.issues with
    | true =>
      have room := ((tracks_run valid.left).length_le e.request).trans_lt (last.room issued)
      obtain ⟨⟨start, starts⟩, -⟩ := step_issue last issued room
      rw [starts, List.map_cons, keys_filter]
      exact List.mem_cons_of_mem _ kept
    | false =>
      rw [(step_complete last issued).1, keys_filter]
      exact kept

/-- The last event of an outstanding request is its issue, or an identical one's completion. -/
theorem issuedLast_or_completed {es : List (BlockEvent cpus)} {key : DiskIoRequestKey}
    (outstanding : key ∈ run settle 0 es) :
    IssuedLast es key ∨ ∃ before c between, es = before ++ c :: between ∧ c.issues = false ∧
      c.request = key ∧ ∀ e ∈ between, e.request ≠ key := by
  induction es using List.reverseRecOn with
  | nil => exact absurd outstanding (Multiset.notMem_zero key)
  | append_singleton es e ih =>
    rw [run_append, run_cons, run_nil, settle] at outstanding
    by_cases own : e.request = key
    · cases issues : e.issues with
      | true => exact .inl ⟨es, e, [], rfl, issues, own, fun e' mem => absurd mem List.not_mem_nil⟩
      | false =>
        exact .inr ⟨es, e, [], rfl, issues, own, fun e' mem => absurd mem List.not_mem_nil⟩
    · have pending : key ∈ run settle 0 es := by
        split at outstanding
        next => exact (Multiset.mem_cons.mp outstanding).resolve_left (Ne.symm own)
        next => exact Multiset.mem_of_mem_erase outstanding
      rcases ih pending with issued | ⟨before, c, between, rfl, completes, same, others⟩
      · exact .inl (issued.concat own)
      · refine .inr ⟨before, c, between ++ [e], by simp, completes, same, fun e' mem => ?_⟩
        rcases List.mem_append.mp mem with mem | mem
        · exact others e' mem
        · rw [List.mem_singleton.mp mem]
          exact own

/-- Between two completions of identical requests one is issued. -/
def IssuedBetween (es : List (BlockEvent cpus)) : Prop :=
  ∀ before c between e after, es = before ++ c :: (between ++ e :: after) → c.issues = false →
    e.issues = false → c.request = e.request → ∃ i ∈ between, i.issues = true ∧ i.request = e.request

/-- **Every completion finds its start** exactly where between two completions of identical requests
one is issued. -/
theorem findsStart_iff_issuedBetween {es : List (BlockEvent cpus)}
    (valid : StepsMeet settle Valid 0 es) :
    StepsMeet step FindsStart new es ↔ IssuedBetween es := by
  constructor
  · rintro finds before c between e after split completed completes same
    have regroup : es = (before ++ c :: between) ++ e :: after := by
      rw [split, List.append_assoc, List.cons_append]
    have found := finds _ e after regroup completes
    rw [regroup] at valid
    obtain ⟨before', i, after', parts, issues, own, others⟩ := issuedLast_of_start valid.left found
    rcases List.append_eq_append_iff.mp parts with ⟨part, rfl, rest⟩ | ⟨part, rfl, rest⟩
    · cases part with
      | nil =>
        cases rest
        cases completed.symm.trans issues
      | cons c' part =>
        cases rest
        exact ⟨i, by simp, issues, own⟩
    · cases part with
      | nil =>
        cases rest
        cases completed.symm.trans issues
      | cons i' part =>
        cases rest
        exact absurd same (others c (by simp))
  · intro between pre e post split completes
    subst split
    have last := valid pre e post rfl
    rcases issuedLast_or_completed (last.finishes completes) with issued |
      ⟨before, c, rest, rfl, completed, same, others⟩
    · exact start_of_issuedLast valid.left issued
    · obtain ⟨i, mem, -, own⟩ :=
        between before c rest e post (by simp) completed completes same
      exact absurd own (others i mem)

end DiskIoMaps

end Outstanding

/-! ## Identical requests -/

namespace DiskIoMaps

/-- Requests of 4 KiB: reads (`R`) and writes (`W`). -/
def requestIssued (cpu : Fin 2) (sector : UInt64) (rwbs : Char) : BlockEvent 2 :=
  .issue cpu ⟨8, sector, 4096, .replicate 10 rwbs.toUInt8⟩ 5 ⟨true, ⟨0, 0, 0, 0⟩, true⟩

def requestCompleted (cpu : Fin 2) (sector : UInt64) (rwbs : Char) (error : Int32) : BlockEvent 2 :=
  .complete cpu ⟨8, sector, 8, error, .replicate 10 rwbs.toUInt8⟩ 9 ⟨true, ⟨0, 0, 0, 0⟩, true⟩

section Requests

variable {outstanding : Multiset DiskIoRequestKey} {cpu : Fin 2} {sector : UInt64} {rwbs : Char}
  (known : diskIoDirectionFromRwbs (.replicate 10 rwbs.toUInt8) = diskIoDirectionRead ∨
    diskIoDirectionFromRwbs (.replicate 10 rwbs.toUInt8) = diskIoDirectionWrite)

include known

/-- Requests in `interleaved` are issued where there is room. -/
theorem valid_requestIssued (room : outstanding.card < maxInFlightRequests) :
    Valid outstanding (requestIssued cpu sector rwbs) where
  direction := known
  sized := ⟨by show 0 < (4096 : UInt64).toNat; decide, by show 512 ∣ (4096 : UInt64).toNat; decide⟩
  startUpdated := rfl
  countersCreated := rfl
  room _ := room
  finishes completes := nomatch completes

/-- They are completed while they are outstanding. -/
theorem valid_requestCompleted {error : Int32}
    (mem : (requestCompleted cpu sector rwbs error).request ∈ outstanding) :
    Valid outstanding (requestCompleted cpu sector rwbs error) where
  direction := known
  sized := ⟨by show 0 < (8 : UInt32).toNat; decide,
    by show (8 : UInt32).toNat * 512 < 2 ^ 32; decide⟩
  startUpdated := rfl
  countersCreated := rfl
  room issues := nomatch issues
  finishes _ := mem

end Requests

/-- A read and a write overlap on two CPUs. The write fails, and the read is issued again once it has
completed. -/
def interleaved : List (BlockEvent 2) :=
  [requestIssued 0 2048 'R', requestIssued 1 4096 'W', requestCompleted 1 2048 'R' 0,
    requestIssued 1 2048 'R', requestCompleted 0 4096 'W' (-5), requestCompleted 0 2048 'R' 0]

/-- Each event of the run is one the kernel may report. -/
theorem valid_interleaved : StepsMeet settle Valid 0 interleaved := by
  have read : diskIoDirectionFromRwbs (.replicate 10 'R'.toUInt8) = diskIoDirectionRead ∨
      diskIoDirectionFromRwbs (.replicate 10 'R'.toUInt8) = diskIoDirectionWrite := by decide
  have write : diskIoDirectionFromRwbs (.replicate 10 'W'.toUInt8) = diskIoDirectionRead ∨
      diskIoDirectionFromRwbs (.replicate 10 'W'.toUInt8) = diskIoDirectionWrite := by decide
  refine stepsMeet_cons.mpr ⟨valid_requestIssued read (by decide), ?_⟩
  refine stepsMeet_cons.mpr ⟨valid_requestIssued write (by decide), ?_⟩
  refine stepsMeet_cons.mpr ⟨valid_requestCompleted read (by decide), ?_⟩
  refine stepsMeet_cons.mpr ⟨valid_requestIssued read (by decide), ?_⟩
  refine stepsMeet_cons.mpr ⟨valid_requestCompleted write (by decide), ?_⟩
  exact stepsMeet_cons.mpr ⟨valid_requestCompleted read (by decide), stepsMeet_nil _ _ _⟩

end DiskIoMaps

open DiskIoMaps in
theorem in_flight_accurate_one :
    StepsMeet settle Valid 0 interleaved ∧ ∀ pre, pre <+: interleaved → Accurate pre := by
  refine ⟨valid_interleaved, (in_flight_accurate_iff valid_interleaved ?_).mpr ?_⟩
  · exact noOverflow_of_moved fun gauge => by cases gauge <;> decide
  · refine findsStart_of_fresh valid_interleaved ?_
    refine stepsMeet_cons.mpr ⟨fun _ => by decide, ?_⟩
    refine stepsMeet_cons.mpr ⟨fun _ => by decide, ?_⟩
    refine stepsMeet_cons.mpr ⟨fun issues => (nomatch issues), ?_⟩
    refine stepsMeet_cons.mpr ⟨fun _ => by decide, ?_⟩
    refine stepsMeet_cons.mpr ⟨fun issues => (nomatch issues), ?_⟩
    exact stepsMeet_cons.mpr ⟨fun issues => (nomatch issues), stepsMeet_nil _ _ _⟩

open DiskIoMaps in
/-- **Identical requests leak**: after two identical reads have been issued and have completed, one
operation of 4 KiB stays in flight. -/
theorem in_flight_leaks :
    let es := [requestIssued 0 2048 'R', requestIssued 0 2048 'R', requestCompleted 1 2048 'R' 0,
      requestCompleted 1 2048 'R' 0]
    StepsMeet settle Valid 0 es ∧ NoOverflow es ∧ run settle 0 es = 0 ∧
      ((run step new es).summed diskIoDirectionRead).inFlightOperations = 1 ∧
      ((run step new es).summed diskIoDirectionRead).inFlightBytes = 4096 := by
  have read : diskIoDirectionFromRwbs (.replicate 10 'R'.toUInt8) = diskIoDirectionRead ∨
      diskIoDirectionFromRwbs (.replicate 10 'R'.toUInt8) = diskIoDirectionWrite := by decide
  refine ⟨?_, ?_, by decide, by decide +kernel, by decide +kernel⟩
  · refine stepsMeet_cons.mpr ⟨valid_requestIssued read (by decide), ?_⟩
    refine stepsMeet_cons.mpr ⟨valid_requestIssued read (by decide), ?_⟩
    refine stepsMeet_cons.mpr ⟨valid_requestCompleted read (by decide), ?_⟩
    exact stepsMeet_cons.mpr ⟨valid_requestCompleted read (by decide), stepsMeet_nil _ _ _⟩
  · exact noOverflow_of_moved fun gauge => by cases gauge <;> decide

end Talia
