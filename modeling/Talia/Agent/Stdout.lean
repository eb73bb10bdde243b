import Talia.Agent.Collect
import Talia.Agent.Samples
import Talia.Lib.JsonLines

/-!
# What `collect` prints

The foreground sink prints each sample it is given as a JSON object on a line of its own. Whenever
`collect` is between two turns of its loop, so also when Ctrl-C ends it, and when it ends by itself,
what the sink has printed falls into lines, and these are the samples of the successful collections,
in order, without those whose names have none of the prefixes to keep; each line is read back as the
object that was printed (`collect_prints`).

What decimals a finite number is printed with is up to the JSON library (`decimals`). Nothing is said
of what else is on stdout: the log is written there too, so a reader of `collect`'s output meets a
warning between two samples whenever a collection fails. Nor is a write that fails modelled.
-/

namespace Talia

open Loop Serde

variable (decimals : Float → Json.Fraction)

/-! ## The sink -/

/-- A number that is not finite is printed as null. -/
def floatContent (x : Float) : Content :=
  if x.isFinite then .float (decimals x).spelling else .unit

def SampleValue.content : SampleValue → Content
  | .counter value => .int value.toNat
  | .gaugeU64 value => .int value.toNat
  | .gaugeI64 value => .int value.toInt
  | .gaugeF64 value => floatContent decimals value

namespace StdoutSink

/-- The object that is printed for a sample. Objects have their keys in order. -/
def record (configVersion : String) (sample : Sample) : List (String × Content) :=
  [("attributes", .map (sample.attributes.toList.map fun (key, value) => (key, .str value))),
    ("config_version", .str configVersion),
    ("name", .str sample.name),
    ("timestamp", floatContent decimals (Duration.asSecsF64 sample.timestamp)),
    ("value", sample.value.content decimals)]

def line (configVersion : String) (sample : Sample) : String :=
  Json.printText Json.compact (.map (record decimals configVersion sample))

/-- What is printed for a sample. -/
def emit (configVersion : String) (sample : Sample) : String :=
  line decimals configVersion sample ++ "\n"

end StdoutSink

variable {ε : Type}

/-- What the sink prints in the actions of a collection. What they log is not among it. -/
def printed (log : List (Timed ε Unit)) : String :=
  .ofList ((log.filterMap (·.action.emit?)).flatMap fun (_, sample, configVersion) =>
    (StdoutSink.emit decimals configVersion sample).toList)

/-! ## What is kept -/

/-- The name of the sample has one of the prefixes, if there are any. -/
def Kept (keep : List String) (sample : Sample) : Prop :=
  keep = [] ∨ ∃ start ∈ keep, start.toList <+: sample.name.toList

instance (keep : List String) (sample : Sample) : Decidable (Kept keep sample) :=
  inferInstanceAs (Decidable (_ ∨ _))

/-- The processors of `collect --keep`. -/
def keepProcessors (keep : List String) : List (Processor Unit) :=
  if keep.isEmpty then [] else [nameFilter keep]

/-- Some prefix can be stripped if the name has one of them. -/
theorem any_stripPrefix_iff {keep : List String} {name : String} :
    (keep.any fun start => (Text.stripPrefix start name).isSome) = true ↔
      ∃ start ∈ keep, start.toList <+: name.toList := by
  rw [List.any_eq_true]
  refine exists_congr fun start => and_congr_right fun _ => ?_
  rw [Option.isSome_iff_exists]
  constructor
  · rintro ⟨rest, stripped⟩
    rw [Text.stripPrefix_eq_some_iff] at stripped
    exact ⟨rest.toList, by rw [stripped, String.toList_append]⟩
  · rintro ⟨rest, split⟩
    refine ⟨.ofList rest, Text.stripPrefix_eq_some_iff.mpr ?_⟩
    rw [← String.toList_inj, String.toList_append, String.toList_ofList, split]

/-- A sample passes if it is to be kept. -/
theorem processSample_keep (keep : List String) (sample : Sample) :
    processSample (keepProcessors keep) () sample =
      (if Kept keep sample then some sample else none, ()) := by
  rw [keepProcessors]
  by_cases all : keep = []
  · rw [if_pos (List.isEmpty_iff.mpr all), if_pos (.inl all)]
    rfl
  have some : keep.isEmpty = false := Bool.eq_false_iff.mpr (mt List.isEmpty_iff.mp all)
  have kept : Kept keep sample ↔
      (keep.any fun start => (Text.stripPrefix start sample.name).isSome) = true := by
    rw [any_stripPrefix_iff, Kept, or_iff_right all]
  simp only [some, Bool.false_eq_true, if_false, processSample, nameFilter, Bool.false_or, kept]
  cases keep.any fun start => (Text.stripPrefix start sample.name).isSome <;> rfl

/-- The filter lets through what is to be kept. -/
theorem survivors_keep (keep : List String) (samples : List Sample) :
    survivors (keepProcessors keep) () samples = samples.filter fun sample => Kept keep sample := by
  induction samples with
  | nil => rfl
  | cons sample samples ih =>
    rw [survivors, processSample_keep, List.filter_cons]
    by_cases kept : Kept keep sample
    · simp only [kept, if_true, decide_true, ih]
    · simp only [kept, if_false, decide_false, Bool.false_eq_true, ih]

/-! ## What is printed -/

/-- The samples of the successful collections that are to be kept. -/
def kept (keep : List String) (log : List (Timed ε Unit)) : List Sample :=
  (log.flatMap (·.action.samples)).filter fun sample => Kept keep sample

/-- The sink is given what is to be kept. -/
def Faithful (keep : List String) (configVersion : String) (log : List (Timed ε Unit)) : Prop :=
  log.filterMap (·.action.emit?) = (kept keep log).map fun sample => ((), sample, configVersion)

/-- Stretches that are faithful are so together. -/
theorem Faithful.append {keep : List String} {configVersion : String}
    {log more : List (Timed ε Unit)} (faithful : Faithful keep configVersion log)
    (faithful' : Faithful keep configVersion more) : Faithful keep configVersion (log ++ more) := by
  unfold Faithful at faithful faithful' ⊢
  rw [List.filterMap_append, faithful, faithful', kept, kept, kept, List.flatMap_append,
    List.filter_append, List.map_append]

/-- An action that neither collects nor emits. -/
theorem Faithful.silent {keep : List String} {configVersion : String} {log : List (Timed ε Unit)}
    (faithful : Faithful keep configVersion log) {timed : Timed ε Unit}
    (emits : timed.action.emit? = none) (samples : timed.action.samples = []) :
    Faithful keep configVersion (log ++ [timed]) := by
  refine faithful.append ?_
  simp [Faithful, kept, emits, samples]

section Turn

variable [ToString ε] {spec : CollectorSpec} {interval : Duration} {duration : Option Duration}
  {keep : List String} {configVersion : String} {collects : Collects ε}

omit [ToString ε] in
/-- What is emitted after a collection is what is kept of what it collected. -/
theorem faithful_emitSamples {timed : Timed ε Unit} {samples : List Sample}
    (silent : timed.action.emit? = none) (returned : timed.action.samples = samples)
    (elapsed : Duration) :
    Faithful keep configVersion ([timed] ++
      (emitSamples (keepProcessors keep) [()] configVersion () samples).map
        (⟨·, elapsed, elapsed⟩)) := by
  have emits := emits_emitSamples (ε := ε) (keepProcessors keep) [()] configVersion () samples
  have none := samples_emitSamples (ε := ε) (keepProcessors keep) [()] configVersion () samples
  rw [survivors_keep] at emits
  have collected : ([timed] ++
      (emitSamples (ε := ε) (keepProcessors keep) [()] configVersion () samples).map
        fun action => (⟨action, elapsed, elapsed⟩ : Timed ε Unit)).flatMap (·.action.samples) =
          samples := by
    rw [List.flatMap_append, List.flatMap_map, List.flatMap_singleton, returned]
    exact (congrArg (samples ++ ·) none).trans (List.append_nil samples)
  unfold Faithful kept
  rw [collected, List.filterMap_append, List.filterMap_map]
  simp only [List.filterMap_cons, silent, List.filterMap_nil, List.nil_append]
  exact emits.trans (List.flatMap_pure_eq_map ..)

/-- What a collection emits is what is kept of what it collects. -/
theorem faithful_collect {s : Collection ε Unit} (faithful : Faithful keep configVersion s.log) :
    Faithful keep configVersion
      (s.collect interval (keepProcessors keep) () configVersion collects).log := by
  rw [Collection.collect]
  have window : Faithful keep configVersion (s.act (.setWindow 0 interval) 0).log :=
    faithful.silent rfl rfl
  obtain ⟨took, outcome⟩ := collects s.attempts
  cases outcome with
  | error error => exact window.silent rfl rfl
  | ok samples =>
    show Faithful keep configVersion ((_ ++ [_]) ++ _)
    rw [List.append_assoc]
    exact window.append (faithful_emitSamples rfl rfl _)

omit [ToString ε] in
/-- To sleep emits nothing. -/
theorem faithful_sleep {s : Collection ε Unit} (faithful : Faithful keep configVersion s.log)
    (time : Duration) : Faithful keep configVersion (s.sleep time).log :=
  faithful.silent rfl rfl

/-- **Each turn emits what is kept** of what it collects. -/
theorem faithful_turn {s : Collection ε Unit} (faithful : Faithful keep configVersion s.log) :
    (Collection.turn spec interval duration (keepProcessors keep) () configVersion collects s).Keeps
      (fun s => Faithful keep configVersion s.log) (fun s => Faithful keep configVersion s.log) := by
  have collected : Faithful keep configVersion
      ((if spec.sleepBeforeCollect then s.sleep interval else s).collect interval
        (keepProcessors keep) () configVersion collects).log := by
    refine faithful_collect ?_
    split
    next => exact faithful_sleep faithful interval
    next => exact faithful
  unfold Collection.turn
  dsimp only
  generalize (if spec.sleepBeforeCollect then s.sleep interval else s).collect interval
    (keepProcessors keep) () configVersion collects = s' at collected ⊢
  split
  next => exact collected
  next =>
    split
    next => exact collected
    next =>
      split
      next => exact faithful_sleep collected interval
      next => exact faithful_sleep collected _

end Turn

/-! ## What is read -/

/-- Every float is printed legibly: as a fraction, or as null. -/
theorem legible_floatContent (depth : ℕ) (x : Float) :
    Json.Legible depth (floatContent decimals x) := by
  rw [floatContent]
  split
  next => exact Json.legible_fraction _
  next => exact Json.legible_unit

/-- So is every value. -/
theorem legible_content (depth : ℕ) (value : SampleValue) :
    Json.Legible depth (value.content decimals) := by
  have unsigned (value : UInt64) : Json.Legible depth (.int value.toNat) := by
    have low := value.toNat_lt
    exact Json.legible_int (by omega) (by omega)
  cases value with
  | counter value => exact unsigned value
  | gaugeU64 value => exact unsigned value
  | gaugeI64 value =>
    have low := value.le_toInt
    have high := value.toInt_lt
    exact Json.legible_int low (by omega)
  | gaugeF64 value => exact legible_floatContent decimals depth value

/-- Every entry of a record is read back. -/
theorem legible_record (configVersion : String) (sample : Sample) :
    Json.Legible Json.depthLimit (.map (StdoutSink.record decimals configVersion sample)) := by
  refine Json.legible_map fun entry mem => ?_
  have attributes : Json.Legible 126
      (.map (sample.attributes.toList.map fun (key, value) => (key, .str value))) := by
    refine Json.legible_map fun entry mem => ?_
    obtain ⟨⟨key, value⟩, _, rfl⟩ := List.mem_map.mp mem
    exact Json.legible_str value
  simp only [StdoutSink.record, List.mem_cons, List.not_mem_nil, or_false] at mem
  rcases mem with rfl | rfl | rfl | rfl | rfl
  · exact attributes
  · exact Json.legible_str configVersion
  · exact Json.legible_str sample.name
  · exact legible_floatContent decimals 126 _
  · exact legible_content decimals 126 sample.value

/-- What the sink printed falls into the lines of what is kept, each of which is read back. -/
def Prints (keep : List String) (configVersion : String) (log : List (Timed ε Unit)) : Prop :=
  Text.lines (printed decimals log) =
      (kept keep log).map (StdoutSink.line decimals configVersion) ∧
    ∀ sample ∈ kept keep log, Json.parseText (StdoutSink.line decimals configVersion sample) =
      some (.map (StdoutSink.record decimals configVersion sample))

/-- A faithful log prints what is kept. -/
theorem prints_of_faithful {keep : List String} {configVersion : String}
    {log : List (Timed ε Unit)} (faithful : Faithful keep configVersion log) :
    Prints decimals keep configVersion log := by
  refine ⟨?_, fun sample _ => Json.parseText_of_legible (legible_record decimals _ sample)⟩
  have output : printed decimals log =
      Json.printLines ((kept keep log).map (StdoutSink.record decimals configVersion)) := by
    rw [printed, faithful, Json.printLines, List.flatMap_map, List.flatMap_map]
    refine congrArg (fun f => String.ofList ((kept keep log).flatMap f)) (funext fun sample => ?_)
    show (StdoutSink.emit decimals configVersion sample).toList = _
    rw [StdoutSink.emit, String.toList_append, StdoutSink.line, Json.printText,
      String.toList_ofList]
    rfl
  rw [output, Json.lines_printLines, List.map_map]
  · rfl
  · intro entries mem
    obtain ⟨sample, _, rfl⟩ := List.mem_map.mp mem
    exact (legible_record decimals configVersion sample).oneLine

/-- **What `collect` prints.** Whenever the loop is between two turns, and when it ends, what the sink
has printed falls into lines, which are the samples of the successful collections so far that are to
be kept, in order, with the version of the configuration; and each line is read back as the object
printed. -/
theorem collect_prints [ToString ε] {name : String} {spec : CollectorSpec}
    (known : collectorSpec name = .ok spec) (duration interval : Option Duration)
    (keep : List String) (config : AgentRuntimeConfig) (collects : Collects ε) :
    let every := interval.getD (spec.schedule config).2
    (∀ s, Reaches (Collection.turn spec every duration (keepProcessors keep) () config.version
        collects) (.start every config) s → Prints decimals keep config.version s.log) ∧
    ∀ load turns result log, collectProvider name duration interval keep () config load collects
      turns = some (result, log) → Prints decimals keep config.version log := by
  intro every
  have start : Faithful keep config.version (Collection.start every config : Collection ε Unit).log :=
    rfl
  constructor
  · intro s reached
    exact prints_of_faithful decimals (reached.keeps (fun _ => faithful_turn) start)
  · intro load turns result log ended
    refine prints_of_faithful decimals ?_
    rw [collectProvider, known] at ended
    dsimp only at ended
    split at ended
    next =>
      cases ended
      rfl
    next =>
      cases load with
      | error error =>
        cases ended
        rfl
      | ok =>
        obtain ⟨s, came, shown⟩ := Option.map_eq_some_iff.mp ended
        have faithful : Faithful keep config.version s.log :=
          keeps_of_run (fun _ => faithful_turn) start came
        split at shown
        all_goals
          cases shown
          exact faithful

/-- How zero is printed. -/
def zeroPointZero : Json.Fraction where
  negative := false
  whole := ['0']
  decimals := some ['0']
  exponent := none
  whole_digits := ⟨List.cons_ne_nil _ _, List.forall_mem_singleton.mpr rfl⟩
  no_leading_zero := fun leading => leading.2 rfl
  decimals_digits := by
    rintro ds ⟨⟩
    exact ⟨List.cons_ne_nil _ _, List.forall_mem_singleton.mpr rfl⟩
  exponent_digits := by rintro e ⟨⟩
  fractional := .inl (Option.some_ne_none _)

def cpuSample : Sample := ⟨"cpu", .counter 2, ∅, 0⟩

def netSample : Sample := ⟨"net", .counter 7, ∅, 0⟩

/-- Two samples are collected, of which one has the prefix. -/
theorem collect_prints_one : ∃ log,
    collectProvider "tcp" (some 0) (some 5) ["n"] () AgentRuntimeConfig.default (.ok ())
      (fun _ => (0, (.ok [cpuSample, netSample] : Except String (List Sample)))) 1 =
        some (.ok (), log) ∧
    Text.lines (printed (fun _ => zeroPointZero) log) =
      [StdoutSink.line (fun _ => zeroPointZero) AgentRuntimeConfig.default.version netSample] := by
  obtain ⟨spec, known⟩ : ∃ spec, collectorSpec "tcp" = .ok spec := ⟨_, rfl⟩
  let emitted := emitSamples (ε := String) (keepProcessors ["n"]) [()]
    AgentRuntimeConfig.default.version () [cpuSample, netSample]
  let log : List (Timed String Unit) :=
    [⟨.load 5, 0, 0⟩, ⟨.reconfigure 0 AgentRuntimeConfig.default, 0, 0⟩, ⟨.setWindow 0 5, 0, 0⟩,
      ⟨.collect 0 (some (.ok [cpuSample, netSample])), 0, 0⟩] ++ emitted.map (⟨·, 0, 0⟩)
  have ended : collectProvider "tcp" (some 0) (some 5) ["n"] () AgentRuntimeConfig.default (.ok ())
      (fun _ => (0, (.ok [cpuSample, netSample] : Except String (List Sample)))) 1 =
        some (.ok (), log) := rfl
  have one : kept ["n"] log = [netSample] := by
    have none : emitted.flatMap (·.samples) = [] := samples_emitSamples ..
    have collected : log.flatMap (·.action.samples) = [cpuSample, netSample] := by
      rw [List.flatMap_append, List.flatMap_map]
      exact congrArg ([cpuSample, netSample] ++ ·) none
    rw [kept, collected, List.filter_cons_of_neg (by decide +kernel),
      List.filter_cons_of_pos (by decide +kernel), List.filter_nil]
  obtain ⟨-, prints⟩ := collect_prints (fun _ => zeroPointZero) known (some 0) (some 5) ["n"]
    AgentRuntimeConfig.default
    (fun _ => (0, (.ok [cpuSample, netSample] : Except String (List Sample))))
  obtain ⟨lines, -⟩ := prints (.ok ()) 1 _ log ended
  rw [one] at lines
  exact ⟨log, ended, lines⟩

end Talia
