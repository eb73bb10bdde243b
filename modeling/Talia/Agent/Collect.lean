import Talia.Agent.Overrides
import Talia.Lib.Loop

/-!
# Collecting in the foreground

`collect` runs one provider until Ctrl-C, or for a time. It looks at the clock after each
collection, and stops when the time is up. A provider that collects at once sleeps after the
collection, for no longer than there is time left. One that measures over a window sleeps before the
collection, and always for the whole window.

So the first kind never sleeps past the limit. The second kind may, but in no sleep other than the
one before its last collection (`collect_keeps_to_limit`).

Nothing is said here of a run that Ctrl-C ends, nor of one without a limit.
-/

namespace Talia

open Loop

/-! ## The command -/

/-- Keeps samples whose name starts with one of the prefixes, drops the rest. An empty list keeps
everything. -/
def nameFilter {σ : Type} (prefixes : List String) : Processor σ := fun memory sample =>
  if prefixes.isEmpty || prefixes.any (fun start => (Text.stripPrefix start sample.name).isSome) then
    (some sample, memory)
  else (none, memory)

inductive CollectError where
  | collector (error : OverrideError)
  | zeroInterval
  | load (name : String)
  | unsuccessful (name : String) (lastError : Option String)
  deriving DecidableEq

/-- The text an error is shown as, before its cause. -/
def CollectError.message : CollectError → String
  | .collector error => error.message
  | .zeroInterval => "collection interval must be greater than zero"
  | .load name => "failed to load provider '" ++ name ++ "'"
  | .unsuccessful name lastError =>
    "provider '" ++ name ++ "' did not collect successfully: " ++
      lastError.getD "no collection was attempted"

/-- An action, and when it began and ended, from the start of the loop on. -/
structure Timed (ε ς : Type) where
  action : Action ε ς
  start : Duration
  stop : Duration

variable {ε ς : Type}

namespace Timed

def isSleep (timed : Timed ε ς) : Bool := timed.action.sleep?.isSome

def isCollect (timed : Timed ε ς) : Bool := timed.action.collect?.isSome

def isEmit (timed : Timed ε ς) : Bool := timed.action.emit?.isSome

/-- A sleep or a collection: what takes time. -/
def takesTime (timed : Timed ε ς) : Bool := timed.isSleep || timed.isCollect

/-- A collection that was successful. -/
def succeeded (timed : Timed ε ς) : Bool :=
  match timed.action with
  | .collect _ (some (.ok _)) => true
  | _ => false

/-- An emit is nothing else. -/
theorem of_isEmit {timed : Timed ε ς} (emit : timed.isEmit) :
    timed.isSleep = false ∧ timed.isCollect = false ∧ timed.succeeded = false := by
  obtain ⟨action, start, stop⟩ := timed
  cases action with
  | emit => exact ⟨rfl, rfl, rfl⟩
  | _ => cases emit

theorem isSleep_of_isCollect {timed : Timed ε ς} (collect : timed.isCollect) :
    timed.isSleep = false := by
  obtain ⟨action, start, stop⟩ := timed
  cases action with
  | collect => rfl
  | _ => cases collect

end Timed

/-- How collections go: how long each takes, its emits included, and what it comes to. -/
abbrev Collects (ε : Type) : Type := ℕ → Duration × Except ε (List Sample)

/-- The state of the loop. Time passes in sleeps and collections. -/
structure Collection (ε ς : Type) where
  elapsed : Duration
  attempts : ℕ
  collected : Bool
  lastError : Option String
  /-- What was done, in order. -/
  log : List (Timed ε ς)

namespace Collection

/-- The loop begins with a provider that was loaded and configured. -/
def start (interval : Duration) (config : AgentRuntimeConfig) : Collection ε ς :=
  ⟨0, 0, false, none, [⟨.load interval, 0, 0⟩, ⟨.reconfigure 0 config, 0, 0⟩]⟩

def act (s : Collection ε ς) (action : Action ε ς) (took : Duration) : Collection ε ς :=
  { s with
    elapsed := s.elapsed + took
    log := s.log ++ [⟨action, s.elapsed, s.elapsed + took⟩] }

def sleep (s : Collection ε ς) (duration : Duration) : Collection ε ς :=
  s.act (.sleep duration) duration

section Turn

variable [ToString ε] (spec : CollectorSpec) (interval : Duration) (duration : Option Duration)
  (processors : List (Processor Unit)) (sink : ς) (configVersion : String) (collects : Collects ε)

/-- One collection. -/
def collect (s : Collection ε ς) : Collection ε ς :=
  let (took, outcome) := collects s.attempts
  let s := (s.act (.setWindow 0 interval) 0).act (.collect 0 (some outcome)) took
  let s := { s with attempts := s.attempts + 1 }
  match outcome with
  | .ok samples =>
    { s with
      collected := true
      log := s.log ++ (emitSamples processors [sink] configVersion () samples).map
        (⟨·, s.elapsed, s.elapsed⟩) }
  | .error error => { s with lastError := some (toString error) }

/-- A turn of the loop. -/
def turn (s : Collection ε ς) : Turn (Collection ε ς) (Collection ε ς) :=
  let s := if spec.sleepBeforeCollect then s.sleep interval else s
  let s := s.collect interval processors sink configVersion collects
  if duration.any (· ≤ s.elapsed) then .done s
  else if spec.sleepBeforeCollect then .next s
  else
    match duration with
    | none => .next (s.sleep interval)
    | some limit => .next (s.sleep (min interval (limit - s.elapsed)))

end Turn

end Collection

/-- Collects one provider's samples until the optional duration is over, if that is within so many
turns. -/
def collectProvider [ToString ε] (name : String) (duration interval : Option Duration)
    (keep : List String) (sink : ς) (config : AgentRuntimeConfig) (load : Except ε Unit)
    (collects : Collects ε) (turns : ℕ) : Option (Except CollectError Unit × List (Timed ε ς)) :=
  match collectorSpec name with
  | .error error => some (.error (.collector error), [])
  | .ok spec =>
    let interval := interval.getD (spec.schedule config).2
    if interval = 0 then some (.error .zeroInterval, [])
    else
      match load with
      | .error _ => some (.error (.load name), [⟨.load interval, 0, 0⟩])
      | .ok () =>
        let processors := if keep.isEmpty then [] else [nameFilter keep]
        let turn := Collection.turn spec interval duration processors sink config.version collects
        (run turn turns (.start interval config)).map fun s =>
          if s.collected then (.ok (), s.log)
          else (.error (.unsuccessful name s.lastError), s.log)

/-! ## Limits -/

/-- The log ends with the first collection to end at the limit or later, and its emits. -/
def StopsAt (limit : Duration) (log : List (Timed ε ς)) : Prop :=
  ∃ earlier last emitted, log = earlier ++ last :: emitted ∧ last.isCollect ∧
    limit ≤ last.stop ∧ (∀ timed ∈ earlier, timed.isCollect → timed.stop < limit) ∧
    ∀ timed ∈ emitted, timed.isEmit

/-- No sleep ends later than the limit. -/
def SleepsWithin (limit : Duration) (log : List (Timed ε ς)) : Prop :=
  ∀ timed ∈ log.filter Timed.isSleep, timed.stop ≤ limit

/-- Every sleep is for the whole interval. The last one begins before the limit unless it is the
first action at all; the others end before the limit. -/
def SleepsWhole (interval limit : Duration) (log : List (Timed ε ς)) : Prop :=
  ∃ earlier last, log.filter Timed.isSleep = earlier ++ [last] ∧
    (∀ timed ∈ earlier ++ [last], timed.stop = timed.start + interval) ∧
    (∀ timed ∈ earlier, timed.stop < limit) ∧ (last.start < limit ∨ last.start = 0)

/-- Each collection comes right after a sleep for the whole interval, and each sleep is before a
collection: sleeps and collections take turns, the first being a sleep, the last a collection. -/
def Alternates (interval : Duration) (log : List (Timed ε ς)) : Prop :=
  ∃ rounds : List (Timed ε ς × Timed ε ς),
    log.filter Timed.takesTime = rounds.flatMap (fun round => [round.1, round.2]) ∧
    ∀ round ∈ rounds, round.1.isSleep ∧ round.2.isCollect ∧
      round.1.stop = round.1.start + interval ∧ round.2.start = round.1.stop

/-- Another round. -/
theorem Alternates.concat {interval : Duration} {log log' : List (Timed ε ς)}
    (alternates : Alternates interval log) (sleep collect : Timed ε ς)
    (more : log'.filter Timed.takesTime = log.filter Timed.takesTime ++ [sleep, collect])
    (isSleep : sleep.isSleep) (isCollect : collect.isCollect)
    (whole : sleep.stop = sleep.start + interval) (next : collect.start = sleep.stop) :
    Alternates interval log' := by
  obtain ⟨rounds, same, each⟩ := alternates
  refine ⟨rounds ++ [(sleep, collect)], ?_, fun round mem => ?_⟩
  · rw [more, same, List.flatMap_append, List.flatMap_singleton]
  · rcases List.mem_append.mp mem with before | last
    · exact each round before
    · rw [List.mem_singleton.mp last]
      exact ⟨isSleep, isCollect, whole, next⟩

namespace Collection

section Turn

variable [ToString ε] {spec : CollectorSpec} {interval limit : Duration}
  {processors : List (Processor Unit)} {sink : ς} {configVersion : String} {collects : Collects ε}

/-- What a collection adds to the log. -/
structure Adds (limit : Duration) (s s' : Collection ε ς) (last : Timed ε ς) : Prop where
  isCollect : last.isCollect
  begins : last.start = s.elapsed
  ends : last.stop = s'.elapsed
  takesTime : s'.log.filter Timed.takesTime = s.log.filter Timed.takesTime ++ [last]
  later : s.elapsed ≤ s'.elapsed
  sleeps : s'.log.filter Timed.isSleep = s.log.filter Timed.isSleep
  collected : s.collected = s.log.any Timed.succeeded → s'.collected = s'.log.any Timed.succeeded
  collects : ∀ timed ∈ s'.log, timed.isCollect → timed ∈ s.log ∨ timed = last
  stops : (∀ timed ∈ s.log, timed.isCollect → timed.stop < limit) → limit ≤ s'.elapsed →
    StopsAt limit s'.log

omit [ToString ε] in
theorem adds_of_log {s s' : Collection ε ς} {last : Timed ε ς} (window : Timed ε ς)
    (emitted : List (Timed ε ς)) (log : s'.log = s.log ++ window :: last :: emitted)
    (isCollect : last.isCollect)
    (quiet : window.isSleep = false ∧ window.isCollect = false ∧ window.succeeded = false)
    (emits : ∀ timed ∈ emitted, timed.isEmit) (begins : last.start = s.elapsed)
    (ends : last.stop = s'.elapsed)
    (later : s.elapsed ≤ s'.elapsed) (collected : s'.collected = (s.collected || last.succeeded)) :
    Adds limit s s' last := by
  have emit : ∀ timed ∈ emitted, timed.isSleep = false ∧ timed.isCollect = false ∧
      timed.succeeded = false := fun timed mem => Timed.of_isEmit (emits timed mem)
  constructor
  · exact isCollect
  · exact begins
  · exact ends
  · have still : emitted.filter Timed.takesTime = [] := by
      refine List.filter_eq_nil_iff.mpr fun timed mem => ?_
      rw [Timed.takesTime, (emit timed mem).1, (emit timed mem).2.1]
      exact Bool.noConfusion
    rw [log, List.filter_append, List.filter_cons, Timed.takesTime, quiet.1, quiet.2.1,
      List.filter_cons, Timed.takesTime, isCollect, Bool.or_true, still]
    rfl
  · exact later
  · have unslept : emitted.filter Timed.isSleep = [] :=
      List.filter_eq_nil_iff.mpr fun timed mem => by rw [(emit timed mem).1]; exact Bool.noConfusion
    rw [log, List.filter_append, List.filter_cons, quiet.1, List.filter_cons,
      Timed.isSleep_of_isCollect isCollect, unslept]
    exact List.append_nil _
  · intro same
    have none_succeeded : emitted.any Timed.succeeded = false :=
      List.any_eq_false.mpr fun timed mem => by rw [(emit timed mem).2.2]; exact Bool.noConfusion
    rw [collected, same, log, List.any_append, List.any_cons, quiet.2.2, List.any_cons,
      none_succeeded, Bool.or_false]
    rfl
  · intro timed mem collect
    rw [log, List.mem_append, List.mem_cons, List.mem_cons] at mem
    rcases mem with before | rfl | rfl | sent
    · exact Or.inl before
    · rw [quiet.2.1] at collect
      cases collect
    · exact Or.inr rfl
    · rw [(emit timed sent).2.1] at collect
      cases collect
  · intro before past
    refine ⟨s.log ++ [window], last, emitted, ?_, isCollect, ends ▸ past, ?_, emits⟩
    · rw [log, List.append_assoc]
      rfl
    · intro timed mem collect
      rw [List.mem_append, List.mem_singleton] at mem
      rcases mem with earlier | rfl
      · exact before timed earlier collect
      · rw [quiet.2.1] at collect
        cases collect

variable (interval limit processors sink configVersion collects) in
theorem collect_adds (s : Collection ε ς) :
    ∃ last, Adds limit s (s.collect interval processors sink configVersion collects) last := by
  rw [collect]
  obtain ⟨took, outcome⟩ := collects s.attempts
  cases outcome with
  | error error =>
    refine ⟨⟨.collect 0 (some (.error error)), s.elapsed, s.elapsed + took⟩,
      adds_of_log ⟨.setWindow 0 interval, s.elapsed, s.elapsed⟩ [] (List.append_assoc ..) rfl
        ⟨rfl, rfl, rfl⟩ ?_ rfl rfl (Nat.le_add_right _ _) (Bool.or_false _).symm⟩
    intro timed mem
    cases mem
  | ok samples =>
    refine ⟨⟨.collect 0 (some (.ok samples)), s.elapsed, s.elapsed + took⟩,
      adds_of_log ⟨.setWindow 0 interval, s.elapsed, s.elapsed⟩
        ((emitSamples processors [sink] configVersion () samples).map
          (⟨·, s.elapsed + took, s.elapsed + took⟩))
        ?_ rfl ⟨rfl, rfl, rfl⟩ ?_ rfl rfl (Nat.le_add_right _ _) (Bool.or_true _).symm⟩
    · simp [act]
    · intro timed mem
      obtain ⟨action, emitted, rfl⟩ := List.mem_map.mp mem
      obtain ⟨sink, sample, rfl⟩ := mem_emitSamples _ _ emitted
      rfl

/-- What is so between turns. -/
structure Going (spec : CollectorSpec) (interval limit : Duration) (s : Collection ε ς) : Prop where
  collected : s.collected = s.log.any Timed.succeeded
  collects : ∀ timed ∈ s.log, timed.isCollect → timed.stop < limit
  sleeps : spec.sleepBeforeCollect = false → SleepsWithin limit s.log
  whole : spec.sleepBeforeCollect → ∀ timed ∈ s.log.filter Timed.isSleep,
    timed.stop = timed.start + interval ∧ timed.stop < limit
  alternates : spec.sleepBeforeCollect → Alternates interval s.log
  elapsed : spec.sleepBeforeCollect → s.elapsed < limit ∨ s.elapsed = 0

/-- What is so when the loop ends. -/
structure Ended (spec : CollectorSpec) (interval limit : Duration) (s : Collection ε ς) :
    Prop where
  collected : s.collected = s.log.any Timed.succeeded
  stops : StopsAt limit s.log
  sleeps : spec.sleepBeforeCollect = false → SleepsWithin limit s.log
  whole : spec.sleepBeforeCollect → SleepsWhole interval limit s.log
  alternates : spec.sleepBeforeCollect → Alternates interval s.log

omit [ToString ε] in
theorem going_start (config : AgentRuntimeConfig) :
    Going spec interval limit (start interval config : Collection ε ς) := by
  constructor
  · rfl
  · simp [start, Timed.isCollect, Action.collect?]
  · simp [SleepsWithin, start, Timed.isSleep, Action.sleep?]
  · simp [start, Timed.isSleep, Action.sleep?]
  · exact fun _ => ⟨[], rfl, fun _ mem => absurd mem List.not_mem_nil⟩
  · exact fun _ => Or.inr rfl

omit [ToString ε] in
/-- What a sleep adds to the log. -/
theorem sleep_adds (s : Collection ε ς) (time : Duration) :
    (s.sleep time).log.filter Timed.isSleep = s.log.filter Timed.isSleep ++
      [⟨.sleep time, s.elapsed, s.elapsed + time⟩] ∧
    (s.sleep time).log.filter Timed.takesTime = s.log.filter Timed.takesTime ++
      [⟨.sleep time, s.elapsed, s.elapsed + time⟩] ∧
    (s.sleep time).log.any Timed.succeeded = s.log.any Timed.succeeded ∧
    (∀ timed ∈ (s.sleep time).log, timed.isCollect → timed ∈ s.log) := by
  refine ⟨?_, ?_, ?_, ?_⟩
  · rw [sleep, act, List.filter_append]
    rfl
  · rw [sleep, act, List.filter_append]
    rfl
  · rw [sleep, act, List.any_append]
    exact Bool.or_false _
  · intro timed mem collect
    rw [sleep, act, List.mem_append, List.mem_singleton] at mem
    cases mem with
    | inl before => exact before
    | inr last =>
      rw [last] at collect
      cases collect

/-- A sleep that is clipped to the time left ends by the limit, and leaves less. -/
theorem clipped_sleep {elapsed later interval limit : ℕ} (positive : 0 < interval)
    (on : elapsed ≤ later) (left : later < limit) :
    later + min interval (limit - later) ≤ limit ∧
      limit - (later + min interval (limit - later)) < limit - elapsed := by
  omega

/-- A turn with the sleep after the collection. -/
theorem turn_keeps_at_once {s : Collection ε ς} (positive : 0 < interval)
    (atOnce : spec.sleepBeforeCollect = false) (going : Going spec interval limit s) :
    (turn spec interval (some limit) processors sink configVersion collects s).Keeps
      (fun s' => Going spec interval limit s' ∧ limit - s'.elapsed < limit - s.elapsed)
      (Ended spec interval limit) := by
  obtain ⟨last, adds⟩ := collect_adds interval limit processors sink configVersion collects s
  have unslept := going.sleeps atOnce
  rw [turn, atOnce, if_neg Bool.false_ne_true]
  generalize s.collect interval processors sink configVersion collects = s' at adds
  rw [Option.any_some, if_neg Bool.false_ne_true]
  by_cases past : limit ≤ s'.elapsed
  · rw [if_pos (decide_eq_true past), Turn.keeps_done]
    refine ⟨adds.collected going.collected, adds.stops going.collects past, fun _ => ?_,
      by simp [atOnce], by simp [atOnce]⟩
    rw [SleepsWithin, adds.sleeps]
    exact unslept
  · have left : s'.elapsed < limit := Nat.lt_of_not_le past
    obtain ⟨clipped, less⟩ := clipped_sleep positive adds.later left
    rw [if_neg (by simp [past]), Turn.keeps_next]
    obtain ⟨sleeps, -, succeeded, collects'⟩ := sleep_adds s' (min interval (limit - s'.elapsed))
    refine ⟨⟨?_, ?_, fun _ => ?_, by simp [atOnce], by simp [atOnce], by simp [atOnce]⟩, less⟩
    · rw [succeeded]
      exact adds.collected going.collected
    · intro timed mem collect
      cases adds.collects timed (collects' timed mem collect) collect with
      | inl before => exact going.collects timed before collect
      | inr same =>
        rw [same, adds.ends]
        exact left
    · intro timed mem
      rw [sleeps, List.mem_append, List.mem_singleton, adds.sleeps] at mem
      cases mem with
      | inl before => exact unslept timed before
      | inr same =>
        rw [same]
        exact clipped

/-- A turn with the sleep before the collection. -/
theorem turn_keeps_window {s : Collection ε ς} (positive : 0 < interval)
    (before : spec.sleepBeforeCollect) (going : Going spec interval limit s) :
    (turn spec interval (some limit) processors sink configVersion collects s).Keeps
      (fun s' => Going spec interval limit s' ∧ limit - s'.elapsed < limit - s.elapsed)
      (Ended spec interval limit) := by
  obtain ⟨last, adds⟩ :=
    collect_adds interval limit processors sink configVersion collects (s.sleep interval)
  obtain ⟨sleeps, timed, succeeded, collects'⟩ := sleep_adds s interval
  have whole := going.whole before
  have slept : s.elapsed + interval ≤ _ := adds.later
  rw [turn, before, if_pos rfl, if_pos rfl]
  generalize (s.sleep interval).collect interval processors sink configVersion collects = s'
    at adds slept
  have collected : s'.collected = s'.log.any Timed.succeeded := by
    apply adds.collected
    rw [succeeded]
    exact going.collected
  have alternates : Alternates interval s'.log := by
    refine (going.alternates before).concat ⟨.sleep interval, s.elapsed, s.elapsed + interval⟩ last
      ?_ rfl adds.isCollect rfl adds.begins
    rw [adds.takesTime, timed, List.append_assoc]
    rfl
  have earlier : ∀ timed ∈ (s.sleep interval).log, timed.isCollect → timed.stop < limit :=
    fun timed mem collect => going.collects timed (collects' timed mem collect) collect
  rw [Option.any_some]
  by_cases past : limit ≤ s'.elapsed
  · rw [if_pos (decide_eq_true past), Turn.keeps_done]
    refine ⟨collected, adds.stops earlier past, by simp [before], fun _ => ?_, fun _ => alternates⟩
    refine ⟨s.log.filter Timed.isSleep, ⟨.sleep interval, s.elapsed, s.elapsed + interval⟩,
      adds.sleeps.trans sleeps, ?_, fun timed mem => (whole timed mem).2, going.elapsed before⟩
    intro timed mem
    rw [List.mem_append, List.mem_singleton] at mem
    cases mem with
    | inl mem => exact (whole timed mem).1
    | inr same => rw [same]
  · have left : s'.elapsed < limit := Nat.lt_of_not_le past
    rw [if_neg (by simp [past]), Turn.keeps_next]
    refine ⟨⟨collected, ?_, by simp [before], fun _ => ?_, fun _ => alternates,
      fun _ => Or.inl left⟩, ?_⟩
    · intro timed mem collect
      cases adds.collects timed mem collect with
      | inl mem => exact earlier timed mem collect
      | inr same =>
        rw [same, adds.ends]
        exact left
    · intro timed mem
      rw [adds.sleeps, sleeps, List.mem_append, List.mem_singleton] at mem
      cases mem with
      | inl mem => exact whole timed mem
      | inr same =>
        rw [same]
        exact ⟨rfl, Nat.lt_of_le_of_lt slept left⟩
    · have on : s.elapsed < s'.elapsed :=
        Nat.lt_of_lt_of_le (Nat.lt_add_of_pos_right positive) slept
      exact Nat.sub_lt_sub_left (Nat.lt_trans on left) on

/-- **Each turn keeps the invariant** and leaves less time. -/
theorem turn_rule (positive : 0 < interval) :
    Rule (turn (ε := ε) spec interval (some limit) processors sink configVersion collects)
      (Going spec interval limit) (fun s => limit - s.elapsed) (Ended spec interval limit) := by
  refine ⟨fun s going => ?_⟩
  cases kind : spec.sleepBeforeCollect with
  | false => exact turn_keeps_at_once positive kind going
  | true => exact turn_keeps_window positive kind going

end Turn

end Collection

/-- A provider that is there and is loaded collects until the loop ends. -/
theorem collectProvider_ends [ToString ε] {name : String} {spec : CollectorSpec}
    (known : collectorSpec name = .ok spec) {interval : Option Duration}
    {config : AgentRuntimeConfig} (positive : 0 < interval.getD (spec.schedule config).2)
    (limit : Duration) (keep : List String) (sink : ς) (collects : Collects ε) :
    ∃ s, Collection.Ended spec (interval.getD (spec.schedule config).2) limit s ∧
      ∀ turns, limit < turns →
        collectProvider name (some limit) interval keep sink config (.ok ()) collects turns =
          some (if s.collected then .ok () else .error (.unsuccessful name s.lastError), s.log) := by
  have rule : Rule (Collection.turn spec (interval.getD (spec.schedule config).2) (some limit)
      (if keep.isEmpty then [] else [nameFilter keep]) sink config.version collects) _ _ _ :=
    Collection.turn_rule positive
  obtain ⟨s, ended, ends⟩ := rule.ends (Collection.going_start config)
  refine ⟨s, ended, fun turns enough => ?_⟩
  rw [collectProvider, known]
  dsimp only
  rw [if_neg (Nat.ne_of_gt positive), ends turns (Nat.lt_of_le_of_lt (Nat.sub_le _ _) enough)]
  cases came : s.collected <;> simp [came]

theorem Duration.fromSecs_lt {a b : UInt64} (less : a < b) :
    Duration.fromSecs a < Duration.fromSecs b :=
  Nat.mul_lt_mul_of_pos_right (UInt64.lt_iff_toNat_lt.mp less) (by decide)

theorem Duration.fromSecs_pos {seconds : UInt64} (nonzero : 0 < seconds) :
    0 < Duration.fromSecs seconds :=
  Nat.lt_of_le_of_lt (Nat.zero_le _) (Duration.fromSecs_lt nonzero)

/-- Whole sleeps that are longer than the limit go past it. -/
theorem SleepsWhole.not_within {interval limit : Duration} {log : List (Timed ε ς)}
    (whole : SleepsWhole interval limit log) (long : limit < interval) :
    ¬ SleepsWithin limit log := by
  obtain ⟨earlier, last, sleeps, length, -⟩ := whole
  have mem : last ∈ earlier ++ [last] := List.mem_append_right _ (List.mem_singleton_self last)
  intro within
  have past := within last (sleeps ▸ mem)
  rw [length last mem] at past
  exact Nat.not_le_of_lt (Nat.lt_of_lt_of_le long (Nat.le_add_left _ _)) past

/-- **`--for` ends the collecting**, at the first collection to end at the limit or later, and there
is an error if and only if no collection was successful. A provider that collects at once never
sleeps past the limit. A provider that measures over a window sleeps one whole interval before each
collection, and never else. It begins no such sleep at the limit or later, but for the first, so
that one alone which is before the last collection may go past it. -/
theorem collect_keeps_to_limit [ToString ε] {name : String} {spec : CollectorSpec}
    (known : collectorSpec name = .ok spec) {interval : Option Duration}
    {config : AgentRuntimeConfig} (positive : 0 < interval.getD (spec.schedule config).2)
    (limit : Duration) (keep : List String) (sink : ς) (collects : Collects ε) :
    ∃ result log,
      (∀ turns, limit < turns →
        collectProvider name (some limit) interval keep sink config (.ok ()) collects turns =
          some (result, log)) ∧
      StopsAt limit log ∧
      result.isOk = log.any Timed.succeeded ∧
      (spec.sleepBeforeCollect = false → SleepsWithin limit log) ∧
      (spec.sleepBeforeCollect → Alternates (interval.getD (spec.schedule config).2) log ∧
        SleepsWhole (interval.getD (spec.schedule config).2) limit log) := by
  obtain ⟨s, ended, ends⟩ := collectProvider_ends known positive limit keep sink collects
  refine ⟨_, _, ends, ended.stops, ?_, ended.sleeps,
    fun before => ⟨ended.alternates before, ended.whole before⟩⟩
  rw [← ended.collected]
  cases s.collected <;> rfl

/-- One provider of each kind, for thirty seconds. -/
theorem collect_keeps_to_limit_both :
    (∃ result log,
      (∀ turns, Duration.fromSecs 30 < turns →
        collectProvider "tcp" (some (.fromSecs 30)) (some (.fromSecs 5)) [] ()
          AgentRuntimeConfig.default (.ok ()) (fun _ => (0, (.ok [] : Except String (List Sample))))
          turns = some (result, log)) ∧
      StopsAt (.fromSecs 30) log ∧ SleepsWithin (.fromSecs 30) log) ∧
    ∃ result log,
      (∀ turns, Duration.fromSecs 30 < turns →
        collectProvider "cpu" (some (.fromSecs 30)) (some (.fromSecs 5)) [] ()
          AgentRuntimeConfig.default (.ok ()) (fun _ => (0, (.ok [] : Except String (List Sample))))
          turns = some (result, log)) ∧
      StopsAt (.fromSecs 30) log ∧ Alternates (.fromSecs 5) log := by
  have positive (spec : CollectorSpec) : 0 < (some (Duration.fromSecs 5)).getD
      (spec.schedule AgentRuntimeConfig.default).2 := by
    rw [Option.getD_some]
    exact Duration.fromSecs_pos (by decide)
  have tcp : ∃ spec, collectorSpec "tcp" = .ok spec ∧ spec.sleepBeforeCollect = false :=
    ⟨_, rfl, rfl⟩
  have cpu : ∃ spec, collectorSpec "cpu" = .ok spec ∧ spec.sleepBeforeCollect := ⟨_, rfl, rfl⟩
  constructor
  · obtain ⟨spec, known, atOnce⟩ := tcp
    obtain ⟨result, log, ends, stops, -, within, -⟩ :=
      collect_keeps_to_limit known (positive spec) (.fromSecs 30) [] ()
        (fun _ => (0, (.ok [] : Except String (List Sample))))
    exact ⟨result, log, ends, stops, within atOnce⟩
  · obtain ⟨spec, known, before⟩ := cpu
    obtain ⟨result, log, ends, stops, -, -, window⟩ :=
      collect_keeps_to_limit known (positive spec) (.fromSecs 30) [] ()
        (fun _ => (0, (.ok [] : Except String (List Sample))))
    have alternates := (window before).1
    rw [Option.getD_some] at alternates
    exact ⟨result, log, ends, stops, alternates⟩

/-- A provider that measures over ten seconds sleeps as long when it has one. -/
theorem collect_sleeps_past_limit : ∃ result log,
    (∀ turns, Duration.fromSecs 1 < turns →
      collectProvider "cpu" (some (.fromSecs 1)) (some (.fromSecs 10)) [] ()
        AgentRuntimeConfig.default (.ok ()) (fun _ => (0, (.ok [] : Except String (List Sample))))
        turns = some (result, log)) ∧
    ¬ SleepsWithin (.fromSecs 1) log := by
  have known : ∃ spec, collectorSpec "cpu" = .ok spec ∧ spec.sleepBeforeCollect :=
    ⟨_, rfl, rfl⟩
  obtain ⟨spec, known, window⟩ := known
  have positive : 0 < (some (Duration.fromSecs 10)).getD
      (spec.schedule AgentRuntimeConfig.default).2 := by
    rw [Option.getD_some]
    exact Duration.fromSecs_pos (by decide)
  obtain ⟨s, ended, ends⟩ := collectProvider_ends known positive (.fromSecs 1) [] ()
    (fun _ => (0, (.ok [] : Except String (List Sample))))
  refine ⟨_, _, ends, (ended.whole window).not_within ?_⟩
  rw [Option.getD_some]
  exact Duration.fromSecs_lt (by decide)

end Talia
