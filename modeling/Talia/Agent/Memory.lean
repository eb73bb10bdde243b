import Talia.Lib.OrdMap
import Talia.Lib.Runs
import Talia.Lib.Saturating
import Talia.Lib.Split

/-!
# Memory and swap

The memory collector reads two files. One is a table of amounts, the other has counters of pages
swapped in and out since the host was started, and a sample reports by how much these grew. Either
file may be unreadable or make no sense, and then the collector reports an error and is as it was.

So what the samples report is a matter of the counters that were read in successful collections
alone (`samples_eq`): the first sample reports nothing swapped, each later one the growth since the
sample before it, and as long as the counters do not fall the reports add up
(`swap_accounting`).
-/

namespace Talia

open Saturating Transition

/-! ## Samples -/

def meminfoPath : String := "/proc/meminfo"

def vmstatPath : String := "/proc/vmstat"

/-- What a call reports. -/
structure MemorySample where
  totalBytes : UInt64
  availableBytes : UInt64
  usedBytes : UInt64
  freeBytes : UInt64
  cachedBytes : UInt64
  swapTotalBytes : UInt64
  swapFreeBytes : UInt64
  swapUsedBytes : UInt64
  usedRatio : Float
  swapUsedRatio : Float
  swapInBytes : UInt64
  swapOutBytes : UInt64

/-- What a call can fail with. -/
inductive MemoryError where
  | readProc (path source : String)
  | missingField (path field : String)
  | invalidField (path field value : String)
  deriving DecidableEq

/-- The fields of `/proc/meminfo` that are read, in bytes. -/
structure MemInfo where
  totalBytes : UInt64
  availableBytes : UInt64
  freeBytes : UInt64
  cachedBytes : UInt64
  swapTotalBytes : UInt64
  swapFreeBytes : UInt64
  deriving DecidableEq

/-- The fields of `/proc/vmstat` that are read: the pages swapped in and out since the system was
booted. -/
structure SwapCounters where
  inPages : UInt64
  outPages : UInt64
  deriving DecidableEq

/-! ## Parsing -/

/-- The value of a line of `/proc/meminfo`, in bytes, under its name. Lines without a name or a
value are passed over. -/
def parseKibField (path line : String) : Except MemoryError (Option (String × UInt64)) :=
  match Text.splitOnce ":" line with
  | none => .ok none
  | some (name, rest) =>
    match (Text.splitWhitespace rest).head? with
    | none => .ok none
    | some rawValue =>
      match Text.parseU64 rawValue with
      | none => .error (.invalidField path name rawValue)
      | some value => .ok (some (name, mul value 1024))

/-- Each line that is not blank has a field. A field that is there twice has its last value. -/
def parseKibFields (path contents : String) : Except MemoryError (BTreeMap String UInt64) :=
  ((Text.lines contents).filter fun line => !Text.isBlank line).foldlM
    (fun fields line => do
      match ← parseKibField path line with
      | none => return fields
      | some (name, value) => return fields.insert name value) ∅

/-- A field that must be there. -/
def requiredField (fields : BTreeMap String UInt64) (path field : String) :
    Except MemoryError UInt64 :=
  match fields[field]? with
  | some value => .ok value
  | none => .error (.missingField path field)

/-- `parse_meminfo`: the fields are looked up one after the other, and the first that lacks is
reported. -/
def parseMeminfo (contents : String) : Except MemoryError MemInfo := do
  let fields ← parseKibFields meminfoPath contents
  let totalBytes ← requiredField fields meminfoPath "MemTotal"
  let availableBytes ← requiredField fields meminfoPath "MemAvailable"
  let freeBytes ← requiredField fields meminfoPath "MemFree"
  let cached ← requiredField fields meminfoPath "Cached"
  let cachedBytes := add cached (fields["SReclaimable"]?.getD 0)
  let swapTotalBytes ← requiredField fields meminfoPath "SwapTotal"
  let swapFreeBytes ← requiredField fields meminfoPath "SwapFree"
  return { totalBytes, availableBytes, freeBytes, cachedBytes, swapTotalBytes, swapFreeBytes }

/-- What a line of `/proc/vmstat` says of the pages swapped in and out. The last line of a name
counts. -/
def parseVmstatLine (pages : Option UInt64 × Option UInt64) (line : String) :
    Except MemoryError (Option UInt64 × Option UInt64) :=
  match Text.splitWhitespace line with
  | name :: rawValue :: _ =>
    if name ≠ "pswpin" ∧ name ≠ "pswpout" then .ok pages
    else
      match Text.parseU64 rawValue with
      | none => .error (.invalidField vmstatPath name rawValue)
      | some value =>
        .ok (if name = "pswpin" then (some value, pages.2) else (pages.1, some value))
  | _ => .ok pages

/-- `parse_vmstat_swap`: the two fields among those of other meaning. -/
def parseVmstatSwap (contents : String) : Except MemoryError SwapCounters := do
  let pages ← ((Text.lines contents).filter fun line => !Text.isBlank line).foldlM
    parseVmstatLine (none, none)
  match pages.1 with
  | none => .error (.missingField vmstatPath "pswpin")
  | some inPages =>
    match pages.2 with
    | none => .error (.missingField vmstatPath "pswpout")
    | some outPages => .ok { inPages, outPages }

/-! ## The collector -/

/-- No part of nothing. -/
def ratio (value total : UInt64) : Float :=
  if total = 0 then 0.0 else value.toFloat / total.toFloat

/-- What is used is what is not available; what was swapped is counted in pages since the previous
call. -/
def sampleFromProc (meminfo : MemInfo) (swap previousSwap : SwapCounters) (pageSizeBytes : UInt64) :
    MemorySample :=
  let usedBytes := sub meminfo.totalBytes meminfo.availableBytes
  let swapUsedBytes := sub meminfo.swapTotalBytes meminfo.swapFreeBytes
  { totalBytes := meminfo.totalBytes
    availableBytes := meminfo.availableBytes
    usedBytes
    freeBytes := meminfo.freeBytes
    cachedBytes := meminfo.cachedBytes
    swapTotalBytes := meminfo.swapTotalBytes
    swapFreeBytes := meminfo.swapFreeBytes
    swapUsedBytes
    usedRatio := ratio usedBytes meminfo.totalBytes
    swapUsedRatio := ratio swapUsedBytes meminfo.swapTotalBytes
    swapInBytes := mul (sub swap.inPages previousSwap.inPages) pageSizeBytes
    swapOutBytes := mul (sub swap.outPages previousSwap.outPages) pageSizeBytes }

/-- What reading the two files comes to: the contents, or why there are none. -/
structure MemoryFiles where
  meminfo : Except String String
  vmstat : Except String String

/-- The first file that a call reads. -/
def readMeminfo (files : MemoryFiles) : Except MemoryError MemInfo :=
  match files.meminfo with
  | .error source => .error (.readProc meminfoPath source)
  | .ok contents => parseMeminfo contents

/-- The second. -/
def readVmstatSwap (files : MemoryFiles) : Except MemoryError SwapCounters :=
  match files.vmstat with
  | .error source => .error (.readProc vmstatPath source)
  | .ok contents => parseVmstatSwap contents

/-- The collector keeps the swap counters of the last call that read them. -/
structure MemoryCollector where
  pageSizeBytes : UInt64
  previousSwap : Option SwapCounters

namespace MemoryCollector

/-- A collector that has read nothing. -/
def new (pageSize : UInt64) : MemoryCollector := ⟨pageSize, none⟩

/-- A call that fails leaves the collector as it was. -/
def collect (collector : MemoryCollector) (files : MemoryFiles) :
    Except MemoryError MemorySample × MemoryCollector :=
  match readMeminfo files with
  | .error error => (.error error, collector)
  | .ok meminfo =>
    match readVmstatSwap files with
    | .error error => (.error error, collector)
    | .ok swap =>
      let previous := collector.previousSwap.getD swap
      (.ok (sampleFromProc meminfo swap previous collector.pageSizeBytes),
        { collector with previousSwap := some swap })

/-- The collector after a collection. -/
def after (collector : MemoryCollector) (files : MemoryFiles) : MemoryCollector :=
  (collector.collect files).2

/-- The sample of a collection, if it is successful. -/
def sample (collector : MemoryCollector) (files : MemoryFiles) : Option MemorySample :=
  (collector.collect files).1.toOption

end MemoryCollector

/-- What a collection reads, if it is successful. -/
def readBoth (files : MemoryFiles) : Option (MemInfo × SwapCounters) :=
  match readMeminfo files, readVmstatSwap files with
  | .ok meminfo, .ok swap => some (meminfo, swap)
  | _, _ => none

/-- The samples of successful collections. -/
def samplesOf (pageSize : UInt64) :
    Option SwapCounters → List (MemInfo × SwapCounters) → List MemorySample
  | _, [] => []
  | previous, (meminfo, swap) :: reads =>
    sampleFromProc meminfo swap (previous.getD swap) pageSize :: samplesOf pageSize (some swap) reads

namespace MemoryCollector

variable (collector : MemoryCollector)

/-- What a collection does: it takes in what was read, or does nothing. -/
theorem collect_eq (files : MemoryFiles) :
    collector.after files = (readBoth files).elim collector
        (fun read => { collector with previousSwap := some read.2 }) ∧
      collector.sample files = (readBoth files).map fun read =>
        sampleFromProc read.1 read.2 (collector.previousSwap.getD read.2) collector.pageSizeBytes := by
  rw [after, sample, collect, readBoth]
  cases readMeminfo files with
  | error error => exact ⟨rfl, rfl⟩
  | ok meminfo =>
    cases readVmstatSwap files with
    | error error => exact ⟨rfl, rfl⟩
    | ok swap => exact ⟨rfl, rfl⟩

/-- **A failed collection changes nothing.** -/
theorem after_of_error {files : MemoryFiles} {error : MemoryError}
    (failed : (collector.collect files).1 = .error error) : (collector.collect files).2 = collector := by
  have both := collector.collect_eq files
  rw [sample, failed] at both
  cases read : readBoth files with
  | none =>
    rw [read] at both
    exact both.1
  | some read' =>
    rw [read] at both
    cases both.2

/-- The samples are those of the successful collections. -/
theorem samples_eq (calls : List MemoryFiles) :
    outputs after sample collector calls =
      samplesOf collector.pageSizeBytes collector.previousSwap (calls.filterMap readBoth) := by
  induction calls generalizing collector with
  | nil => rfl
  | cons files calls ih =>
    obtain ⟨next, sampled⟩ := collector.collect_eq files
    rw [outputs, ih, next, sampled, List.filterMap_cons]
    cases readBoth files with
    | none => rfl
    | some read => rfl

end MemoryCollector

/-! ## Swapped pages -/

/-- The two directions of swapping. -/
inductive SwapDirection where
  | inward
  | outward

namespace SwapDirection

/-- The pages counted in a direction. -/
def pages : SwapDirection → SwapCounters → UInt64
  | .inward => SwapCounters.inPages
  | .outward => SwapCounters.outPages

/-- The bytes reported in it. -/
def bytes : SwapDirection → MemorySample → UInt64
  | .inward => MemorySample.swapInBytes
  | .outward => MemorySample.swapOutBytes

variable (direction : SwapDirection) (pageSize : UInt64)

/-- A sample reports the growth of a counter. -/
theorem toNat_bytes (meminfo : MemInfo) (swap previous : SwapCounters) :
    (direction.bytes (sampleFromProc meminfo swap previous pageSize)).toNat =
      min (pageSize.toNat * ((direction.pages swap).toNat - (direction.pages previous).toNat))
        (2 ^ 64 - 1) := by
  have report : direction.bytes (sampleFromProc meminfo swap previous pageSize) =
      mul (sub (direction.pages swap) (direction.pages previous)) pageSize := by
    cases direction <;> rfl
  rw [report, toNat_mul, toNat_sub, Nat.mul_comm]

/-- A counter does not fall, and its growth in bytes fits. -/
def Grows (a b : SwapCounters) : Prop :=
  direction.pages a ≤ direction.pages b ∧
    pageSize.toNat * ((direction.pages b).toNat - (direction.pages a).toNat) < 2 ^ 64

/-- **The reports add up** while the counter does not fall. -/
theorem sum_samplesOf {first : SwapCounters} {reads : List (MemInfo × SwapCounters)}
    (grows : List.IsChain (direction.Grows pageSize) (first :: reads.map Prod.snd)) :
    ((samplesOf pageSize (some first) reads).map fun sample => (direction.bytes sample).toNat).sum =
        pageSize.toNat * ((direction.pages ((reads.map Prod.snd).getLastD first)).toNat -
          (direction.pages first).toNat) ∧
      direction.pages first ≤ direction.pages ((reads.map Prod.snd).getLastD first) := by
  induction reads generalizing first with
  | nil => simp [samplesOf]
  | cons read reads ih =>
    obtain ⟨meminfo, swap⟩ := read
    rw [List.map_cons, List.isChain_cons_cons] at grows
    obtain ⟨grown, rest⟩ := grows
    obtain ⟨sum, later⟩ := ih rest
    obtain ⟨rises, fits⟩ := grown
    dsimp only at sum later rises fits
    rw [List.map_cons, List.getLastD_cons]
    rw [UInt64.le_iff_toNat_le] at rises later ⊢
    refine ⟨?_, Nat.le_trans rises later⟩
    rw [samplesOf, List.map_cons, List.sum_cons, sum, Option.getD_some, toNat_bytes,
      Nat.min_eq_left (by omega), ← Nat.mul_add]
    dsimp only
    congr 1
    omega

end SwapDirection

/-- What a collection reads of the swap counters, if it is successful. -/
def swapRead (files : MemoryFiles) : Option SwapCounters := (readBoth files).map Prod.snd

/-- The calls that read swap are those that read both files. -/
theorem filterMap_swapRead (calls : List MemoryFiles) :
    calls.filterMap swapRead = (calls.filterMap readBoth).map Prod.snd := by
  rw [List.map_filterMap]
  rfl

/-- A call that reads swap keeps what it read for the next one. -/
theorem MemoryCollector.after_of_swapRead (collector : MemoryCollector) {files : MemoryFiles}
    {swap : SwapCounters} (read : swapRead files = some swap) :
    collector.after files = ⟨collector.pageSizeBytes, some swap⟩ := by
  obtain ⟨both, known, rfl⟩ := Option.map_eq_some_iff.mp read
  rw [(collector.collect_eq files).1, known]
  rfl

/-- No call changes the page size. -/
theorem MemoryCollector.pageSizeBytes_run (collector : MemoryCollector) (calls : List MemoryFiles) :
    (run after collector calls).pageSizeBytes = collector.pageSizeBytes := by
  have preserved (c : MemoryCollector) (files : MemoryFiles)
      (same : c.pageSizeBytes = collector.pageSizeBytes) :
      (c.after files).pageSizeBytes = collector.pageSizeBytes := by
    rw [← same, (c.collect_eq files).1]
    cases readBoth files <;> rfl
  exact run_invariant preserved rfl calls

/-- Each call that reads both files makes a sample. -/
theorem length_samplesOf (pageSize : UInt64) (previous : Option SwapCounters)
    (reads : List (MemInfo × SwapCounters)) :
    (samplesOf pageSize previous reads).length = reads.length := by
  induction reads generalizing previous with
  | nil => rfl
  | cons read reads ih => rw [samplesOf, List.length_cons, ih, List.length_cons]

/-- A sample is made of what was read for it and for the sample before. -/
theorem getElem?_samplesOf (pageSize : UInt64) {previous : Option SwapCounters}
    {reads : List (MemInfo × SwapCounters)} {k : ℕ} {sample : MemorySample}
    (known : (samplesOf pageSize previous reads)[k]? = some sample) :
    ∃ meminfo swap, reads[k]? = some (meminfo, swap) ∧ sample = sampleFromProc meminfo swap
      ((match k with
        | 0 => previous
        | j + 1 => (reads.map Prod.snd)[j]?).getD swap) pageSize := by
  induction reads generalizing previous k with
  | nil => cases known
  | cons read reads ih =>
    obtain ⟨meminfo, swap⟩ := read
    cases k with
    | zero =>
      cases known
      exact ⟨meminfo, swap, rfl, rfl⟩
    | succ k =>
      obtain ⟨meminfo', swap', here, made⟩ := ih (known : (samplesOf _ _ reads)[k]? = _)
      refine ⟨meminfo', swap', here, ?_⟩
      cases k with
      | zero => exact made
      | succ k => exact made

open MemoryCollector in
/-- **Swap accounting.** A failed collection leaves the collector as it was. The first sample
reports nothing, and each later one by how much the counters grew since the sample before it. Over
a stretch of collections, failed ones among them, in which a counter does not fall and no report
saturates, the reports add up. -/
theorem swap_accounting (pageSize : UInt64) :
    (∀ (collector : MemoryCollector) files error,
      (collector.collect files).1 = .error error → (collector.collect files).2 = collector) ∧
    (∀ (calls : List MemoryFiles) (direction : SwapDirection),
      let samples := outputs after sample (new pageSize) calls
      let counters := calls.filterMap swapRead
      samples.length = counters.length ∧
      (∀ first, samples[0]? = some first → direction.bytes first = 0) ∧
      ∀ k a b sample, counters[k]? = some a → counters[k + 1]? = some b →
        samples[k + 1]? = some sample →
        (direction.bytes sample).toNat = min (pageSize.toNat *
          ((direction.pages b).toNat - (direction.pages a).toNat)) (2 ^ 64 - 1)) ∧
    (∀ (before : List MemoryFiles) (call : MemoryFiles) (stretch : List MemoryFiles) (first last)
      (direction : SwapDirection),
      swapRead call = some first → (stretch.filterMap swapRead).getLastD first = last →
      List.IsChain (direction.Grows pageSize) (first :: stretch.filterMap swapRead) →
      ((outputs after sample (run after (new pageSize) (before ++ [call])) stretch).map
        fun sample => (direction.bytes sample).toNat).sum =
          pageSize.toNat * ((direction.pages last).toNat - (direction.pages first).toNat)) := by
  refine ⟨?_, ?_, ?_⟩
  · intro collector files error failed
    exact collector.after_of_error failed
  · intro calls direction samples counters
    have samplesAre : samples = samplesOf pageSize none (calls.filterMap readBoth) :=
      (new pageSize).samples_eq calls
    have countersAre : counters = (calls.filterMap readBoth).map Prod.snd :=
      filterMap_swapRead calls
    refine ⟨?_, ?_, ?_⟩
    · rw [samplesAre, countersAre, length_samplesOf, List.length_map]
    · intro first known
      rw [samplesAre] at known
      obtain ⟨meminfo, swap, -, rfl⟩ := getElem?_samplesOf pageSize known
      rw [← UInt64.toNat_inj, SwapDirection.toNat_bytes]
      simp
    · intro k a b sample before now known
      rw [samplesAre] at known
      obtain ⟨meminfo, swap, here, rfl⟩ := getElem?_samplesOf pageSize known
      rw [countersAre] at before now
      rw [List.getElem?_map, here, Option.map_some, Option.some.injEq] at now
      rw [SwapDirection.toNat_bytes]
      dsimp only
      rw [before, Option.getD_some]
      dsimp only at now
      rw [now]
  · intro before call stretch first last direction read ends grows
    have baseline : run after (new pageSize) (before ++ [call]) = ⟨pageSize, some first⟩ := by
      rw [run_append, run_cons, run_nil, after_of_swapRead _ read, pageSizeBytes_run]
      rfl
    rw [filterMap_swapRead] at ends grows
    rw [baseline, MemoryCollector.samples_eq, ← ends]
    exact (direction.sum_samplesOf pageSize grows).1

/-- Two files that make sense, with these numbers of pages swapped in and out. -/
def filesOf (inPages outPages : String) : MemoryFiles where
  meminfo := .ok "MemTotal: 1 kB\nMemAvailable: 1 kB\nMemFree: 1 kB\nCached: 1 kB\nSwapTotal: 1 kB\nSwapFree: 1 kB\n"
  vmstat := .ok ("pswpin " ++ inPages ++ "\npswpout " ++ outPages ++ "\n")

/-- The files of the example are read. -/
theorem readBoth_filesOf :
    readBoth (filesOf "3" "7") = some (⟨1024, 1024, 1024, 1024, 1024, 1024⟩, ⟨3, 7⟩) ∧
      readBoth (filesOf "5" "7") = some (⟨1024, 1024, 1024, 1024, 1024, 1024⟩, ⟨5, 7⟩) :=
  ⟨rfl, rfl⟩

/-- Two pages are swapped in, over a collection that fails. -/
theorem swap_accounting_two :
    let failed : MemoryFiles := ⟨.error "gone", .ok ""⟩
    ((outputs MemoryCollector.after MemoryCollector.sample
      (run MemoryCollector.after (.new 4096) [filesOf "3" "7"]) [failed, filesOf "5" "7"]).map
        fun sample => sample.swapInBytes.toNat).sum = 4096 * 2 := by
  intro failed
  have first : swapRead (filesOf "3" "7") = some ⟨3, 7⟩ := by
    rw [swapRead, readBoth_filesOf.1]
    rfl
  have second : swapRead (filesOf "5" "7") = some ⟨5, 7⟩ := by
    rw [swapRead, readBoth_filesOf.2]
    rfl
  have reads : [failed, filesOf "5" "7"].filterMap swapRead = [⟨5, 7⟩] := by
    rw [List.filterMap_cons_none rfl, List.filterMap_cons_some second, List.filterMap_nil]
  refine (swap_accounting 4096).2.2 [] _ _ ⟨3, 7⟩ ⟨5, 7⟩ .inward first ?_ ?_
  · rw [reads]
    rfl
  · rw [reads, List.isChain_cons_cons]
    exact ⟨⟨by decide, by decide⟩, by simp⟩

end Talia
