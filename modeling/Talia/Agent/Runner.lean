import Talia.Agent.Poll
import Talia.Agent.Refresh
import Talia.Lib.Results

/-!
# Collector loops

One loop runs each collector. An iteration takes a snapshot of the shared configuration and acts on
that alone, whatever is applied in the meantime: it drops its provider when the collector is
disabled, loads one when there is none, has it collect, and emits what the processors leave of the
samples. The collect runs on a task of its own, which takes the provider along; it comes back with
the result unless the task panics.

Whichever way an iteration ends, it has slept once, for the interval of its snapshot, and as no
configuration is applied that was not validated, that is at least a second. A provider stays as
long as the collector is enabled and no collect panics (`collector_loop_discipline`).

The clock is not in it: that a sleep takes as long as it says, and that an iteration ends at all, is
not shown.
-/

namespace Talia

open Transition

/-! ## Collectors -/

/-- How to schedule one collector. -/
structure CollectorSpec where
  /-- Stable collector name, used in logs. -/
  name : String
  /-- Reads `(enabled, interval)` from the runtime config. -/
  schedule : AgentRuntimeConfig → Bool × Duration
  /-- Whether to sleep one interval before each collection, not after it. -/
  sleepBeforeCollect : Bool

/-- One spec per provider. -/
def collectorSpecs : List CollectorSpec := [
  { name := "storage"
    schedule := fun config => (config.storage.enabled, .fromSecs config.storage.intervalSeconds)
    sleepBeforeCollect := false },
  { name := "memory"
    schedule := fun config => (config.memory.enabled, .fromSecs config.memory.intervalSeconds)
    sleepBeforeCollect := false },
  { name := "cpu"
    schedule := fun config => (config.cpu.enabled, .fromSecs config.cpu.intervalSeconds)
    sleepBeforeCollect := true },
  { name := "network"
    schedule := fun config => (config.network.enabled, .fromSecs config.network.intervalSeconds)
    sleepBeforeCollect := true },
  { name := "tcp"
    schedule := fun config => (config.tcp.enabled, .fromSecs config.tcp.intervalSeconds)
    sleepBeforeCollect := false },
  { name := "disk_io"
    schedule := fun config => (config.diskIo.enabled, .fromSecs config.diskIo.intervalSeconds)
    sleepBeforeCollect := true }]

variable {σ ε ς : Type}

/-- What the loop does, in order. Providers are numbered as they are loaded. -/
inductive Action (ε ς : Type) where
  | load (interval : Duration)
  | sleep (duration : Duration)
  | setWindow (provider : Nat) (window : Duration)
  | reconfigure (provider : Nat) (config : AgentRuntimeConfig)
  /-- The collect has an outcome unless it panics. -/
  | collect (provider : Nat) (outcome : Option (Except ε (List Sample)))
  | emit (sink : ς) (sample : Sample) (configVersion : String)

namespace Action

def sleep? : Action ε ς → Option Duration
  | .sleep duration => some duration
  | _ => none

def collect? : Action ε ς → Option Nat
  | .collect provider _ => some provider
  | _ => none

def emit? : Action ε ς → Option (ς × Sample × String)
  | .emit sink sample configVersion => some (sink, sample, configVersion)
  | _ => none

/-- The samples that a collect returns. -/
def samples : Action ε ς → List Sample
  | .collect _ (some (.ok samples)) => samples
  | _ => []

end Action

/-- How the calls of an iteration go, if they are made: whether the factory loads a provider, what
the collect comes to, and what the processors remember, which other collectors use as well. -/
structure Answers (σ ε : Type) where
  load : Except ε Unit
  collect : Option (Except ε (List Sample))
  memory : σ

/-! ## The loop -/

/-- The state of a loop between iterations: its provider, and how many have been loaded. -/
structure CollectorLoop where
  provider : Option Nat
  loaded : Nat
  deriving DecidableEq

def CollectorLoop.new : CollectorLoop := ⟨none, 0⟩

/-- The provider of an enabled iteration: the one the loop holds or, for want of one, the one that
the factory loads. -/
def CollectorLoop.inHand (s : CollectorLoop) (answers : Answers σ ε) : Option Nat :=
  match s.provider, answers.load with
  | some provider, _ => some provider
  | none, .ok () => some s.loaded
  | none, .error _ => none

section Loop

variable (spec : CollectorSpec) (processors : List (Processor σ)) (sinks : List ς)

/-- Every sample that the processors leave goes to all sinks. -/
def emitSamples (configVersion : String) : σ → List Sample → List (Action ε ς)
  | _, [] => []
  | memory, sample :: samples =>
    match processSample processors memory sample with
    | (none, memory) => emitSamples configVersion memory samples
    | (some sample, memory) =>
      sinks.map (Action.emit · sample configVersion) ++ emitSamples configVersion memory samples

/-- An iteration of the loop under a snapshot of the configuration. -/
def runCollector (config : AgentRuntimeConfig) (s : CollectorLoop) (answers : Answers σ ε) :
    CollectorLoop × List (Action ε ς) :=
  let (enabled, interval) := spec.schedule config
  if enabled = false then ({ s with provider := none }, [.sleep interval])
  else
    let starts : Except (List (Action ε ς)) (CollectorLoop × List (Action ε ς)) :=
      match s.provider with
      | some _ => .ok (s, [])
      | none =>
        match answers.load with
        | .ok () => .ok (⟨some s.loaded, s.loaded + 1⟩, [.load interval])
        | .error _ => .error [.load interval, .sleep interval]
    match starts with
    | .error actions => (s, actions)
    | .ok (s, started) =>
      let before := if spec.sleepBeforeCollect then [.sleep interval] else []
      let after := if spec.sleepBeforeCollect then [] else [.sleep interval]
      match s.provider with
      -- There is a provider once the loop has got here.
      | none => (s, started ++ before)
      | some taken =>
        let collected := started ++ before ++
          [.setWindow taken interval, .reconfigure taken config, .collect taken answers.collect]
        match answers.collect with
        -- The provider went down with the panicked task.
        | none => ({ s with provider := none }, collected ++ after)
        | some (.error _) => (s, collected ++ after)
        | some (.ok samples) =>
          (s, collected ++ emitSamples processors sinks config.version answers.memory samples ++
            after)

end Loop

/-! ## The agent -/

/-- A collector's loop next to the tasks that refresh the configuration. -/
structure Collecting where
  agent : Agent
  loop : CollectorLoop

/-- An iteration depends on nothing after its snapshot, so it is one step. -/
inductive CollectingEvent (σ ε : Type) where
  | refresh (event : Agent.Event)
  | iterate (answers : Answers σ ε)

namespace Collecting

/-- The agent as it starts its collectors. -/
def start (bootstrap : AgentBootstrapConfig) (dir : StateDir) : Collecting :=
  ⟨.init bootstrap dir, .new⟩

section Step

variable (spec : CollectorSpec) (processors : List (Processor σ)) (sinks : List ς)

/-- What an iteration does. -/
def iteration (s : Collecting) (answers : Answers σ ε) : CollectorLoop × List (Action ε ς) :=
  runCollector spec processors sinks s.agent.sharedConfig s.loop answers

def step (s : Collecting) : CollectingEvent σ ε → Collecting
  | .refresh event => { s with agent := s.agent.step event }
  | .iterate answers => { s with loop := (s.iteration spec processors sinks answers).1 }

/-- The actions of an iteration. -/
def actions (s : Collecting) (answers : Answers σ ε) : List (Action ε ς) :=
  (s.iteration spec processors sinks answers).2

end Step

/-- The collector is enabled in the snapshot. -/
def enabled (spec : CollectorSpec) (s : Collecting) : Bool := (spec.schedule s.agent.sharedConfig).1

def interval (spec : CollectorSpec) (s : Collecting) : Duration :=
  (spec.schedule s.agent.sharedConfig).2

end Collecting

/-! ## One iteration -/

section Iteration

variable (spec : CollectorSpec) (processors : List (Processor σ)) (sinks : List ς)

/-- What an iteration may do under a snapshot. -/
structure Disciplined (config : AgentRuntimeConfig) (memory : σ) (actions : List (Action ε ς)) :
    Prop where
  sleeps : actions.filterMap Action.sleep? = [(spec.schedule config).2]
  collectsOnce : (actions.filterMap Action.collect?).length ≤ 1
  collects : ∀ before provider outcome after, actions = before ++ .collect provider outcome :: after →
    (spec.schedule config).1 = true ∧ .setWindow provider (spec.schedule config).2 ∈ before ∧
      .reconfigure provider config ∈ before
  emits : actions.filterMap Action.emit? =
    (survivors processors memory (actions.flatMap Action.samples)).flatMap fun sample =>
      sinks.map (·, sample, config.version)

/-- Without a collect there is nothing to emit. -/
theorem disciplined_of_quiet {config : AgentRuntimeConfig} {memory : σ}
    {actions : List (Action ε ς)}
    (sleeps : actions.filterMap Action.sleep? = [(spec.schedule config).2])
    (quiet : ∀ action ∈ actions, action.collect? = none ∧ action.emit? = none) :
    Disciplined spec processors sinks config memory actions := by
  have unreturned : actions.flatMap Action.samples = [] := by
    refine List.flatMap_eq_nil_iff.mpr fun action mem => ?_
    have uncollected := (quiet action mem).1
    cases action with
    | collect => cases uncollected
    | _ => rfl
  have uncollected : actions.filterMap Action.collect? = [] :=
    List.filterMap_eq_nil_iff.mpr fun action mem => (quiet action mem).1
  have unemitted : actions.filterMap Action.emit? = [] :=
    List.filterMap_eq_nil_iff.mpr fun action mem => (quiet action mem).2
  constructor
  · exact sleeps
  · rw [uncollected]
    exact Nat.zero_le 1
  · intro before provider outcome after split
    have mem : .collect provider outcome ∈ actions := by simp [split]
    cases (quiet _ mem).1
  · rw [unreturned, unemitted]
    rfl

/-- What is before and after the one collect of an iteration. -/
theorem disciplined_of_collect {config : AgentRuntimeConfig} {memory : σ}
    {prior later : List (Action ε ς)} {taken : Nat} {outcome : Option (Except ε (List Sample))}
    (on : (spec.schedule config).1 = true)
    (window : .setWindow taken (spec.schedule config).2 ∈ prior)
    (reconfigured : .reconfigure taken config ∈ prior)
    (sleeps : prior.filterMap Action.sleep? ++ later.filterMap Action.sleep? =
      [(spec.schedule config).2])
    (uncollected : prior.filterMap Action.collect? = [] ∧ later.filterMap Action.collect? = [])
    (unreturned : prior.flatMap Action.samples = [] ∧ later.flatMap Action.samples = [])
    (unemitted : prior.filterMap Action.emit? = [])
    (emits : later.filterMap Action.emit? =
      (survivors processors memory (Action.samples (ς := ς) (.collect taken outcome))).flatMap
        fun sample => sinks.map (·, sample, config.version)) :
    Disciplined spec processors sinks config memory (prior ++ .collect taken outcome :: later) := by
  have absent {actions : List (Action ε ς)} (quiet : actions.filterMap Action.collect? = [])
      (provider : Nat) (outcome : Option (Except ε (List Sample))) :
      .collect provider outcome ∉ actions := by
    intro mem
    cases List.filterMap_eq_nil_iff.mp quiet _ mem
  constructor
  · rw [List.filterMap_append]
    exact sleeps
  · rw [List.filterMap_append, uncollected.1, List.nil_append]
    show (taken :: later.filterMap Action.collect?).length ≤ 1
    rw [uncollected.2]
    exact Nat.le_refl 1
  · intro before provider outcome' after split
    obtain ⟨rfl, same, -⟩ := (List.append_cons_inj_of_notMem
      (absent uncollected.1 provider outcome') (absent uncollected.2 provider outcome')).mp split
    cases same
    exact ⟨on, window, reconfigured⟩
  · rw [List.filterMap_append, unemitted, List.nil_append, List.flatMap_append, List.flatMap_cons,
      unreturned.1, unreturned.2, List.nil_append, List.append_nil, ← emits]
    rfl

/-- Emitting does nothing but emit. -/
theorem filterMap_emitSamples {κ : Type} {f : Action ε ς → Option κ}
    (other : ∀ sink sample version, f (.emit sink sample version) = none) (version : String)
    (memory : σ) (samples : List Sample) :
    (emitSamples processors sinks version memory samples).filterMap f = [] := by
  induction samples generalizing memory with
  | nil => rfl
  | cons sample samples ih =>
    rw [emitSamples]
    split
    next => exact ih _
    next kept memory' _ =>
      have sent : (sinks.map (Action.emit (ε := ε) · kept version)).filterMap f = [] := by
        refine List.filterMap_eq_nil_iff.mpr fun action mem => ?_
        obtain ⟨sink, -, rfl⟩ := List.mem_map.mp mem
        exact other sink kept version
      rw [List.filterMap_append, sent, ih, List.nil_append]

/-- Each sample that survives the processors goes to each sink, in the order of the samples. -/
theorem emits_emitSamples (version : String) (memory : σ) (samples : List Sample) :
    (emitSamples (ε := ε) processors sinks version memory samples).filterMap Action.emit? =
      (survivors processors memory samples).flatMap fun sample =>
        sinks.map (·, sample, version) := by
  induction samples generalizing memory with
  | nil => rfl
  | cons sample samples ih =>
    rw [emitSamples, survivors]
    cases passed : processSample processors memory sample with
    | mk kept memory' =>
      cases kept with
      | none => exact ih memory'
      | some kept =>
        have sent : (sinks.map (Action.emit (ε := ε) · kept version)).filterMap Action.emit? =
            sinks.map (·, kept, version) := by
          rw [List.filterMap_map]
          exact congrFun List.filterMap_eq_map sinks
        dsimp only
        rw [List.filterMap_append, sent, ih, List.flatMap_cons]

/-- Emitting collects nothing. -/
theorem samples_emitSamples (version : String) (memory : σ) (samples : List Sample) :
    (emitSamples (ε := ε) processors sinks version memory samples).flatMap Action.samples = [] := by
  induction samples generalizing memory with
  | nil => rfl
  | cons sample samples ih =>
    rw [emitSamples]
    split
    next => exact ih _
    next kept memory' _ =>
      have sent : (sinks.map (Action.emit (ε := ε) · kept version)).flatMap Action.samples = [] := by
        refine List.flatMap_eq_nil_iff.mpr fun action mem => ?_
        obtain ⟨sink, -, rfl⟩ := List.mem_map.mp mem
        rfl
      rw [List.flatMap_append, sent, ih, List.nil_append]

/-- The paths of an iteration through the loop. -/
inductive Path (config : AgentRuntimeConfig) (s : CollectorLoop) (answers : Answers σ ε) :
    CollectorLoop × List (Action ε ς) → Prop
  | disabled (off : (spec.schedule config).1 = false) :
    Path config s answers ({ s with provider := none }, [.sleep (spec.schedule config).2])
  | unloaded {error : ε} (on : (spec.schedule config).1 = true) (missing : s.provider = none)
      (failed : answers.load = .error error) :
    Path config s answers (s, [.load (spec.schedule config).2, .sleep (spec.schedule config).2])
  | collected {loaded taken : Nat} {started emitted prior later : List (Action ε ς)}
      (on : (spec.schedule config).1 = true)
      (starts : (s.provider = some taken ∧ loaded = s.loaded ∧ started = []) ∨
        (s.provider = none ∧ answers.load = .ok () ∧ taken = s.loaded ∧ loaded = s.loaded + 1 ∧
          started = [.load (spec.schedule config).2]))
      (emits : emitted = match answers.collect with
        | some (.ok samples) =>
          emitSamples processors sinks config.version answers.memory samples
        | _ => [])
      (first : prior = started ++
        (if spec.sleepBeforeCollect then [.sleep (spec.schedule config).2] else []) ++
          [.setWindow taken (spec.schedule config).2, .reconfigure taken config])
      (last : later = emitted ++
        if spec.sleepBeforeCollect then [] else [.sleep (spec.schedule config).2]) :
    Path config s answers (⟨answers.collect.map fun _ => taken, loaded⟩,
      prior ++ .collect taken answers.collect :: later)

/-- **Every iteration takes one of the paths.** -/
theorem runCollector_path (config : AgentRuntimeConfig) (s : CollectorLoop)
    (answers : Answers σ ε) :
    Path spec processors sinks config s answers
      (runCollector spec processors sinks config s answers) := by
  rw [runCollector]
  dsimp only
  cases off : (spec.schedule config).1 with
  | false =>
    rw [if_pos rfl]
    exact .disabled off
  | true =>
    rw [if_neg (by decide)]
    cases held : s.provider with
    | some taken =>
      dsimp only
      rw [held]
      have path : Path spec processors sinks config s answers _ :=
        .collected off (.inl ⟨held, rfl, rfl⟩) rfl rfl rfl
      cases came : answers.collect with
      | none => simpa [came] using path
      | some result =>
        obtain ⟨provider, loaded⟩ := s
        cases held
        cases result with
        | error error => simpa [came] using path
        | ok samples => simpa [came] using path
    | none =>
      cases load : answers.load with
      | error error => exact .unloaded off held load
      | ok =>
        have path : Path spec processors sinks config s answers _ :=
          .collected off (.inr ⟨held, load, rfl, rfl, rfl⟩) rfl rfl rfl
        cases came : answers.collect with
        | none => simpa [came] using path
        | some result =>
          cases result with
          | error error => simpa [came] using path
          | ok samples => simpa [came] using path

/-- **Every iteration is disciplined.** -/
theorem disciplined_runCollector (config : AgentRuntimeConfig) (s : CollectorLoop)
    (answers : Answers σ ε) :
    Disciplined spec processors sinks config answers.memory
      (runCollector spec processors sinks config s answers).2 := by
  have path := runCollector_path spec processors sinks config s answers
  generalize runCollector spec processors sinks config s answers = result at path ⊢
  cases path with
  | disabled off =>
    exact disciplined_of_quiet spec processors sinks rfl (by simp [Action.collect?, Action.emit?])
  | unloaded on missing failed =>
    exact disciplined_of_quiet spec processors sinks rfl (by simp [Action.collect?, Action.emit?])
  | @collected loaded taken started emitted prior later on starts emits first last =>
    -- what is emitted neither sleeps nor collects
    have unslept : emitted.filterMap Action.sleep? = [] := by
      rw [emits]
      split
      next => exact filterMap_emitSamples processors sinks (fun _ _ _ => rfl) _ _ _
      next => rfl
    have uncollected : emitted.filterMap Action.collect? = [] := by
      rw [emits]
      split
      next => exact filterMap_emitSamples processors sinks (fun _ _ _ => rfl) _ _ _
      next => rfl
    have unreturned : emitted.flatMap Action.samples = [] := by
      rw [emits]
      split
      next => exact samples_emitSamples processors sinks _ _ _
      next => rfl
    have sent : emitted.filterMap Action.emit? =
        (survivors processors answers.memory
          (Action.samples (ς := ς) (.collect taken answers.collect))).flatMap fun sample =>
            sinks.map (·, sample, config.version) := by
      rw [emits]
      cases came : answers.collect with
      | none => rfl
      | some result =>
        cases result with
        | error error => rfl
        | ok samples => exact emits_emitSamples processors sinks _ _ samples
    have starting : started = [] ∨ started = [.load (spec.schedule config).2] := by
      rcases starts with ⟨-, -, kept⟩ | ⟨-, -, -, -, loads⟩
      · exact .inl kept
      · exact .inr loads
    subst first last
    refine disciplined_of_collect spec processors sinks on (by simp) (by simp) ?_ ⟨?_, ?_⟩ ⟨?_, ?_⟩
      ?_ ?_
    · rw [List.filterMap_append, List.filterMap_append, List.filterMap_append, unslept]
      rcases starting with rfl | rfl <;> cases spec.sleepBeforeCollect <;> rfl
    · rcases starting with rfl | rfl <;> cases spec.sleepBeforeCollect <;> rfl
    · rw [List.filterMap_append, uncollected]
      cases spec.sleepBeforeCollect <;> rfl
    · rcases starting with rfl | rfl <;> cases spec.sleepBeforeCollect <;> rfl
    · rw [List.flatMap_append, unreturned]
      cases spec.sleepBeforeCollect <;> rfl
    · rcases starting with rfl | rfl <;> cases spec.sleepBeforeCollect <;> rfl
    · rw [List.filterMap_append, sent]
      cases spec.sleepBeforeCollect <;> exact List.append_nil _

/-! ## Providers -/

/-- **An enabled iteration collects once with its provider and keeps it**, unless the collect
panics; without a provider to have, and when the collector is disabled, nothing is collected and
nothing kept. -/
theorem provider_runCollector (config : AgentRuntimeConfig) (s : CollectorLoop)
    (answers : Answers σ ε) :
    let inHand := if (spec.schedule config).1 then s.inHand answers else none
    (runCollector spec processors sinks config s answers).2.filterMap Action.collect? =
        inHand.toList ∧
      (runCollector spec processors sinks config s answers).1.provider =
        inHand.bind fun provider => answers.collect.map fun _ => provider := by
  have path := runCollector_path spec processors sinks config s answers
  have disciplined := disciplined_runCollector spec processors sinks config s answers
  generalize runCollector spec processors sinks config s answers = result at path disciplined ⊢
  cases path with
  | disabled off =>
    rw [off]
    exact ⟨rfl, rfl⟩
  | unloaded on missing failed =>
    rw [on, if_pos rfl, CollectorLoop.inHand, missing, failed]
    exact ⟨rfl, rfl⟩
  | @collected loaded taken started emitted prior later on starts emits first last =>
    have inHand : s.inHand answers = some taken := by
      rw [CollectorLoop.inHand]
      rcases starts with ⟨held, -, -⟩ | ⟨missing, load, same, -, -⟩
      · rw [held]
      · rw [missing, load, same]
    have mem : taken ∈ (prior ++ .collect taken answers.collect :: later).filterMap
        (Action.collect? (ς := ς)) :=
      List.mem_filterMap.mpr ⟨_, List.mem_append_right _ List.mem_cons_self, rfl⟩
    obtain ⟨one, same⟩ := List.length_eq_one_iff.mp
      (Nat.le_antisymm disciplined.collectsOnce (List.length_pos_of_mem mem))
    rw [same] at mem
    rw [on, if_pos rfl, inHand, same, ← List.mem_singleton.mp mem]
    exact ⟨rfl, rfl⟩

/-- A provider that is held was loaded before. -/
def CollectorLoop.Numbered (s : CollectorLoop) : Prop :=
  ∀ provider, s.provider = some provider → provider < s.loaded

/-- What an iteration does to the provider. -/
structure Holds (config : AgentRuntimeConfig) (s : CollectorLoop) (s' : CollectorLoop)
    (actions : List (Action ε ς)) : Prop where
  numbered : s'.Numbered
  loaded : s.loaded ≤ s'.loaded
  used : ∀ provider outcome, .collect provider outcome ∈ actions → provider < s'.loaded
  dropped : (spec.schedule config).1 = false → s'.provider = none
  returned : ∀ provider result, .collect provider (some result) ∈ actions →
    s'.provider = some provider
  panicked : ∀ provider, .collect provider none ∈ actions → s'.provider = none
  keeps : ∀ provider, (spec.schedule config).1 = true → s.provider = some provider →
    (∃ outcome, .collect provider outcome ∈ actions) ∧ ∀ interval, .load interval ∉ actions
  loads : (spec.schedule config).1 = true → s.provider = none →
    .load (spec.schedule config).2 ∈ actions ∧
      ∀ provider outcome, .collect provider outcome ∈ actions → provider = s.loaded
  idle : s.provider = none → (∀ provider outcome, .collect provider outcome ∉ actions) →
    s'.provider = none

/-- What it emits has the version it was called with. -/
theorem mem_emitSamples {version : String} {memory : σ} {samples : List Sample}
    {action : Action ε ς} (mem : action ∈ emitSamples processors sinks version memory samples) :
    ∃ sink sample, action = .emit sink sample version := by
  induction samples generalizing memory with
  | nil => cases mem
  | cons sample samples ih =>
    rw [emitSamples] at mem
    split at mem
    next => exact ih mem
    next kept memory' _ =>
      rcases List.mem_append.mp mem with sent | later
      · obtain ⟨sink, -, rfl⟩ := List.mem_map.mp sent
        exact ⟨sink, kept, rfl⟩
      · exact ih later

/-- Around a collect, nothing but what an iteration started with is a load, and nothing is a collect
but the one. -/
theorem mem_around_collect {config : AgentRuntimeConfig} {taken : Nat}
    {outcome : Option (Except ε (List Sample))} {started emitted prior later : List (Action ε ς)}
    {action : Action ε ς}
    (sent : ∀ action ∈ emitted, ∃ sink sample, action = .emit sink sample config.version)
    (first : prior = started ++
      (if spec.sleepBeforeCollect then [.sleep (spec.schedule config).2] else []) ++
        [.setWindow taken (spec.schedule config).2, .reconfigure taken config])
    (last : later = emitted ++
      if spec.sleepBeforeCollect then [] else [.sleep (spec.schedule config).2])
    (mem : action ∈ prior ++ .collect taken outcome :: later) :
    action ∈ started ∨ action = .collect taken outcome ∨
      (action.collect? = none ∧ ∀ interval, action ≠ .load interval) := by
  have sleeping (slept : action ∈ [.sleep (spec.schedule config).2]) :
      action.collect? = none ∧ ∀ interval, action ≠ .load interval := by
    rw [List.mem_singleton.mp slept]
    exact ⟨rfl, fun _ same => by cases same⟩
  rw [first, last] at mem
  simp only [List.mem_append, List.mem_cons, List.not_mem_nil, or_false] at mem
  rcases mem with ((before | slept) | rfl | rfl) | same | emit | slept
  · exact .inl before
  · split at slept
    next => exact .inr (.inr (sleeping slept))
    next => cases slept
  · exact .inr (.inr ⟨rfl, fun _ same => by cases same⟩)
  · exact .inr (.inr ⟨rfl, fun _ same => by cases same⟩)
  · exact .inr (.inl same)
  · obtain ⟨sink, sample, rfl⟩ := sent _ emit
    exact .inr (.inr ⟨rfl, fun _ same => by cases same⟩)
  · split at slept
    next => cases slept
    next => exact .inr (.inr (sleeping slept))

/-- **A provider stays** until the collector is disabled or a collect panics. -/
theorem holds_runCollector (config : AgentRuntimeConfig) {s : CollectorLoop}
    (numbered : s.Numbered) (answers : Answers σ ε) :
    Holds spec config s (runCollector spec processors sinks config s answers).1
      (runCollector spec processors sinks config s answers).2 := by
  have path := runCollector_path spec processors sinks config s answers
  generalize runCollector spec processors sinks config s answers = result at path ⊢
  cases path with
  | disabled off =>
    constructor
    case numbered => exact fun provider held => nomatch held
    case loaded => exact Nat.le_refl _
    case used => simp
    case dropped => exact fun _ => rfl
    case returned => simp
    case panicked => simp
    case keeps => exact fun provider on => nomatch off.symm.trans on
    case loads => exact fun on => nomatch off.symm.trans on
    case idle => exact fun _ _ => rfl
  | unloaded on missing failed =>
    constructor
    case numbered => exact numbered
    case loaded => exact Nat.le_refl _
    case used => simp
    case dropped => exact fun _ => missing
    case returned => simp
    case panicked => simp
    case keeps => exact fun provider _ held => nomatch missing.symm.trans held
    case loads => simp
    case idle => exact fun _ _ => missing
  | @collected loaded taken started emitted prior later on starts emits first last =>
    have sent : ∀ action ∈ emitted, ∃ sink sample, action = .emit sink sample config.version := by
      intro action mem
      rw [emits] at mem
      split at mem
      next => exact mem_emitSamples processors sinks mem
      next => cases mem
    have only {provider : Nat} {outcome : Option (Except ε (List Sample))}
        (mem : .collect provider outcome ∈ prior ++ .collect taken answers.collect :: later) :
        provider = taken ∧ outcome = answers.collect := by
      rcases mem_around_collect spec sent first last mem with before | same | ⟨other, -⟩
      · rcases starts with ⟨-, -, rfl⟩ | ⟨-, -, -, -, rfl⟩ <;> simp at before
      · cases same
        exact ⟨rfl, rfl⟩
      · cases other
    have loading {interval : Duration}
        (mem : .load interval ∈ prior ++ .collect taken answers.collect :: later) :
        .load interval ∈ started := by
      rcases mem_around_collect spec sent first last mem with before | same | ⟨-, other⟩
      · exact before
      · cases same
      · exact absurd rfl (other interval)
    have collects : .collect taken answers.collect ∈ prior ++ .collect taken answers.collect :: later :=
      List.mem_append_right _ List.mem_cons_self
    have known : taken < loaded ∧ s.loaded ≤ loaded := by
      rcases starts with ⟨held, same, -⟩ | ⟨-, -, same, more, -⟩
      · rw [same]
        exact ⟨numbered taken held, Nat.le_refl _⟩
      · omega
    constructor
    case numbered =>
      intro provider held
      obtain ⟨-, -, rfl⟩ := Option.map_eq_some_iff.mp held
      exact known.1
    case loaded => exact known.2
    case used =>
      intro provider outcome mem
      rw [(only mem).1]
      exact known.1
    case dropped => exact fun off => nomatch on.symm.trans off
    case returned =>
      intro provider result mem
      obtain ⟨rfl, came⟩ := only mem
      show answers.collect.map _ = _
      rw [← came]
      rfl
    case panicked =>
      intro provider mem
      obtain ⟨-, came⟩ := only mem
      show answers.collect.map _ = _
      rw [← came]
      rfl
    case keeps =>
      intro provider _ held
      rcases starts with ⟨held', -, rfl⟩ | ⟨missing, -, -, -, -⟩
      · cases held.symm.trans held'
        exact ⟨⟨_, collects⟩, fun interval mem => nomatch loading mem⟩
      · exact nomatch missing.symm.trans held
    case loads =>
      intro _ missing
      rcases starts with ⟨held, -, -⟩ | ⟨-, -, rfl, -, loads⟩
      · exact nomatch missing.symm.trans held
      · refine ⟨List.mem_append_left _ ?_, fun provider outcome mem => (only mem).1⟩
        rw [first, loads]
        simp
    case idle => exact fun _ quiet => absurd collects (quiet _ _)

end Iteration

/-! ## Intervals -/

/-- A positive number of seconds is a second at least. -/
theorem Duration.fromSecs_one_le {seconds : UInt64} (nonzero : seconds ≠ 0) :
    Duration.fromSecs 1 ≤ .fromSecs seconds := by
  have pos : 0 < seconds.toNat := Nat.pos_of_ne_zero fun zero => nonzero (UInt64.toNat_inj.mp zero)
  exact Nat.mul_le_mul_right _ pos

/-- A valid collector has a positive interval. -/
theorem CollectorConfig.interval_ne_zero {zero : ConfigError} {collector : CollectorConfig}
    (valid : collector.validate zero = .ok ()) : collector.intervalSeconds ≠ 0 := by
  intro empty
  rw [CollectorConfig.validate, if_pos empty] at valid
  cases valid

/-- So has valid storage. -/
theorem StorageConfig.interval_ne_zero {storage : StorageConfig}
    (valid : storage.validate = .ok ()) : storage.intervalSeconds ≠ 0 := by
  intro empty
  rw [StorageConfig.validate, if_pos empty] at valid
  cases valid

/-- A collector's interval is at least a second under a valid configuration. -/
theorem one_second_le_interval {config : AgentRuntimeConfig} (valid : config.Valid)
    {spec : CollectorSpec} (known : spec ∈ collectorSpecs) :
    Duration.fromSecs 1 ≤ (spec.schedule config).2 := by
  obtain ⟨-, sections⟩ := AgentRuntimeConfig.valid_iff.mp valid
  simp only [AgentRuntimeConfig.validateSections, Results.check_eq_ok_iff] at sections
  obtain ⟨-, storage, memory, cpu, network, diskIo, -, tcp⟩ := sections
  simp only [collectorSpecs, List.mem_cons, List.not_mem_nil, or_false] at known
  rcases known with rfl | rfl | rfl | rfl | rfl | rfl
  · exact Duration.fromSecs_one_le (StorageConfig.interval_ne_zero storage)
  · exact Duration.fromSecs_one_le (CollectorConfig.interval_ne_zero memory)
  · exact Duration.fromSecs_one_le (CollectorConfig.interval_ne_zero cpu)
  · exact Duration.fromSecs_one_le (CollectorConfig.interval_ne_zero network)
  · exact Duration.fromSecs_one_le (CollectorConfig.interval_ne_zero tcp)
  · exact Duration.fromSecs_one_le (CollectorConfig.interval_ne_zero diskIo)

/-- Only valid configurations are applied. -/
theorem Agent.valid_step (s : Agent) (e : Agent.Event) (valid : s.sharedConfig.Valid) :
    (s.step e).sharedConfig.Valid := by
  rcases Agent.step_acts s e with ⟨same, -⟩ | acts
  · rw [same]
    exact valid
  generalize Agent.step s e = s' at acts ⊢
  cases acts with
  | @applied task config found => exact config.2
  | _ => exact valid

/-! ## Runs -/

namespace Collecting

section Runs

variable (spec : CollectorSpec) (processors : List (Processor σ)) (sinks : List ς)

/-- Along a run, the shared configuration is valid and the loop's providers are numbered. -/
structure Sound (s : Collecting) : Prop where
  valid : s.agent.sharedConfig.Valid
  numbered : s.loop.Numbered

/-- An agent starts sound, if its first configuration is valid. -/
theorem sound_start {bootstrap : AgentBootstrapConfig} {dir : StateDir}
    (validated : (initialRuntimeConfig bootstrap dir).Valid) : (start bootstrap dir).Sound :=
  ⟨validated, fun _ held => nomatch held⟩

/-- What an iteration of a sound agent does holds. -/
theorem Sound.holds {s : Collecting} (sound : s.Sound) (answers : Answers σ ε) :
    Holds spec s.agent.sharedConfig s.loop (s.step spec processors sinks (.iterate answers)).loop
      (s.actions spec processors sinks answers) :=
  holds_runCollector spec processors sinks s.agent.sharedConfig sound.numbered answers

/-- Each step keeps the agent sound. -/
theorem sound_step (s : Collecting) (e : CollectingEvent σ ε) (sound : s.Sound) :
    (s.step spec processors sinks e).Sound := by
  cases e with
  | refresh event => exact ⟨Agent.valid_step s.agent event sound.valid, sound.numbered⟩
  | iterate answers => exact ⟨sound.valid, (sound.holds spec processors sinks answers).numbered⟩

/-- **In every run the agent stays sound.** -/
theorem Sound.run {s : Collecting} (sound : s.Sound) (es : List (CollectingEvent σ ε)) :
    (run (step spec processors sinks) s es).Sound :=
  run_invariant (sound_step spec processors sinks) sound es

/-- Providers are numbered upwards. -/
theorem Sound.loaded_run {s : Collecting} (sound : s.Sound) (es : List (CollectingEvent σ ε)) :
    s.loop.loaded ≤ (Transition.run (step spec processors sinks) s es).loop.loaded := by
  induction es generalizing s with
  | nil => exact Nat.le_refl _
  | cons e es ih =>
    refine Nat.le_trans ?_ (ih (sound_step spec processors sinks s e sound))
    cases e with
    | refresh event => exact Nat.le_refl _
    | iterate answers => exact (sound.holds spec processors sinks answers).loaded

/-- The provider collects in the run. -/
def Collects (s : Collecting) (es : List (CollectingEvent σ ε)) (provider : Nat) : Prop :=
  ∃ pre answers post outcome, es = pre ++ .iterate answers :: post ∧
    .collect provider outcome ∈
      (Transition.run (step spec processors sinks) s pre).actions spec processors sinks answers

/-- A provider that has collected has been loaded. -/
theorem Sound.lt_loaded_of_collects {s : Collecting} (sound : s.Sound)
    {es : List (CollectingEvent σ ε)} {provider : Nat}
    (collects : s.Collects spec processors sinks es provider) :
    provider < (Transition.run (step spec processors sinks) s es).loop.loaded := by
  obtain ⟨pre, answers, post, outcome, rfl, mem⟩ := collects
  rw [run_append, run_cons]
  have here := sound.run spec processors sinks pre
  have more := (sound_step spec processors sinks _ (.iterate answers) here).loaded_run spec processors
    sinks post
  exact Nat.lt_of_lt_of_le ((here.holds spec processors sinks answers).used _ _ mem) more

/-- If the step is an iteration, the collector is enabled and no collect panics. -/
def Steady (s : Collecting) : CollectingEvent σ ε → Prop
  | .refresh _ => True
  | .iterate answers => s.enabled spec = true ∧
    ∀ provider, .collect provider none ∉ s.actions spec processors sinks answers

/-- If the step is an iteration, nothing is collected. -/
def Quiet (s : Collecting) : CollectingEvent σ ε → Prop
  | .refresh _ => True
  | .iterate answers => ∀ provider outcome,
    .collect provider outcome ∉ s.actions spec processors sinks answers

/-- A provider that is there stays. -/
theorem Sound.provider_of_steady {s : Collecting} (sound : s.Sound) {provider : Nat}
    (held : s.loop.provider = some provider) {es : List (CollectingEvent σ ε)}
    (steady : StepsMeet (step spec processors sinks) (Steady spec processors sinks) s es) :
    (Transition.run (step spec processors sinks) s es).loop.provider = some provider := by
  have kept : ∀ s : Collecting, ∀ e : CollectingEvent σ ε,
      s.Sound ∧ s.loop.provider = some provider → s.Steady spec processors sinks e →
        (s.step spec processors sinks e).Sound ∧
          (s.step spec processors sinks e).loop.provider = some provider := by
    intro s e ⟨sound, held⟩ steady
    refine ⟨sound_step spec processors sinks s e sound, ?_⟩
    cases e with
    | refresh event => exact held
    | iterate answers =>
      obtain ⟨on, returns⟩ := steady
      have holds := sound.holds spec processors sinks answers
      obtain ⟨⟨outcome, mem⟩, -⟩ := holds.keeps provider on held
      cases outcome with
      | none => exact absurd mem (returns provider)
      | some result => exact holds.returned provider result mem
  exact (run_invariant_of_steps kept ⟨sound, held⟩ steady).2

/-- Without a provider, there is none until one collects. -/
theorem Sound.provider_of_quiet {s : Collecting} (sound : s.Sound)
    (missing : s.loop.provider = none) {es : List (CollectingEvent σ ε)}
    (quiet : StepsMeet (step spec processors sinks) (Quiet spec processors sinks) s es) :
    (Transition.run (step spec processors sinks) s es).loop.provider = none := by
  have kept : ∀ s : Collecting, ∀ e : CollectingEvent σ ε,
      s.Sound ∧ s.loop.provider = none → s.Quiet spec processors sinks e →
        (s.step spec processors sinks e).Sound ∧
          (s.step spec processors sinks e).loop.provider = none := by
    intro s e ⟨sound, missing⟩ quiet
    refine ⟨sound_step spec processors sinks s e sound, ?_⟩
    cases e with
    | refresh event => exact missing
    | iterate answers => exact (sound.holds spec processors sinks answers).idle missing quiet
  exact (run_invariant_of_steps kept ⟨sound, missing⟩ quiet).2

end Runs

end Collecting

section Discipline

variable (spec : CollectorSpec) (processors : List (Processor σ)) (sinks : List ς)

/-- How a collector's loop runs. -/
structure LoopDiscipline (s : Collecting) (es : List (CollectingEvent σ ε)) : Prop where
  valid : ∀ pre, pre <+: es →
    (run (Collecting.step spec processors sinks) s pre).agent.sharedConfig.Valid
  iterations : ∀ pre answers post, es = pre ++ .iterate answers :: post →
    let now := run (Collecting.step spec processors sinks) s pre
    Disciplined spec processors sinks now.agent.sharedConfig answers.memory
        (now.actions spec processors sinks answers) ∧
      Duration.fromSecs 1 ≤ now.interval spec
  /-- An enabled iteration collects once with the provider the loop holds, or has loaded for want of
  one, and holds it afterwards unless the collect panics. -/
  provided : ∀ pre answers post, es = pre ++ .iterate answers :: post →
    let now := run (Collecting.step spec processors sinks) s pre
    let inHand := if now.enabled spec then now.loop.inHand answers else none
    (now.actions spec processors sinks answers).filterMap Action.collect? = inHand.toList ∧
      (now.step spec processors sinks (.iterate answers)).loop.provider =
        inHand.bind fun provider => answers.collect.map fun _ => provider
  /-- As long as the collector is enabled and no collect panics, the provider is the same. -/
  same : ∀ pre mid post provider, es = pre ++ (mid ++ post) →
    let before := run (Collecting.step spec processors sinks) s pre
    before.loop.provider = some provider →
    StepsMeet (Collecting.step spec processors sinks) (Collecting.Steady spec processors sinks)
      before mid →
    (run (Collecting.step spec processors sinks) before mid).loop.provider = some provider
  /-- A provider that came back from its collect collects again, and none is loaded. -/
  kept : ∀ pre first mid second post,
    es = pre ++ .iterate first :: (mid ++ .iterate second :: post) →
    let before := run (Collecting.step spec processors sinks) s pre
    let between := before.step spec processors sinks (.iterate first)
    let now := run (Collecting.step spec processors sinks) between mid
    StepsMeet (Collecting.step spec processors sinks) (Collecting.Steady spec processors sinks)
      between mid →
    now.enabled spec = true →
    ∀ provider result,
      .collect provider (some result) ∈ before.actions spec processors sinks first →
      (∃ outcome, .collect provider outcome ∈ now.actions spec processors sinks second) ∧
        ∀ interval, .load interval ∉ now.actions spec processors sinks second
  /-- After an iteration that drops it or loses it, one is loaded that has not collected before. -/
  rebuilt : ∀ pre first mid second post,
    es = pre ++ .iterate first :: (mid ++ .iterate second :: post) →
    let before := run (Collecting.step spec processors sinks) s pre
    let between := before.step spec processors sinks (.iterate first)
    let now := run (Collecting.step spec processors sinks) between mid
    (before.enabled spec = false ∨
      ∃ provider, .collect provider none ∈ before.actions spec processors sinks first) →
    StepsMeet (Collecting.step spec processors sinks) (Collecting.Quiet spec processors sinks)
      between mid →
    now.enabled spec = true →
    .load (now.interval spec) ∈ now.actions spec processors sinks second ∧
      ∀ provider outcome, .collect provider outcome ∈ now.actions spec processors sinks second →
        ¬ s.Collects spec processors sinks (pre ++ .iterate first :: mid) provider

/-- **Every run of a collector's loop is disciplined.** -/
theorem collector_loop_discipline {spec : CollectorSpec} (known : spec ∈ collectorSpecs)
    {bootstrap : AgentBootstrapConfig} {dir : StateDir}
    (validated : (initialRuntimeConfig bootstrap dir).Valid) (es : List (CollectingEvent σ ε)) :
    LoopDiscipline spec processors sinks (.start bootstrap dir) es := by
  have sound := Collecting.sound_start validated
  constructor
  · intro pre _
    exact (sound.run spec processors sinks pre).valid
  · intro pre answers post _
    exact ⟨disciplined_runCollector spec processors sinks _ _ answers,
      one_second_le_interval (sound.run spec processors sinks pre).valid known⟩
  · intro pre answers post _
    exact provider_runCollector spec processors sinks _ _ answers
  · intro pre mid post provider _ before held steady
    exact (sound.run spec processors sinks pre).provider_of_steady spec processors sinks held steady
  · intro pre first mid second post _ before between now steady on provider result mem
    have here := sound.run spec processors sinks pre
    have later := Collecting.sound_step spec processors sinks before (.iterate first) here
    have returned := (here.holds spec processors sinks first).returned provider result mem
    have held := later.provider_of_steady spec processors sinks returned steady
    exact ((later.run spec processors sinks mid).holds spec processors sinks second).keeps provider on
      held
  · intro pre first mid second post _ before between now gone quiet on
    have here := sound.run spec processors sinks pre
    have later := Collecting.sound_step spec processors sinks before (.iterate first) here
    have holds := here.holds spec processors sinks first
    have missing : between.loop.provider = none := by
      cases gone with
      | inl off => exact holds.dropped off
      | inr panicked =>
        obtain ⟨provider, mem⟩ := panicked
        exact holds.panicked provider mem
    obtain ⟨loads, fresh⟩ := ((later.run spec processors sinks mid).holds spec processors sinks
      second).loads on (later.provider_of_quiet spec processors sinks missing quiet)
    refine ⟨loads, fun provider outcome mem collects => ?_⟩
    have less := sound.lt_loaded_of_collects spec processors sinks collects
    rw [run_append, run_cons, fresh provider outcome mem] at less
    exact Nat.lt_irrefl _ less

/-- Three iterations, the second with a collect that panics. -/
def panickingRun : List (CollectingEvent Unit Unit) :=
  [.iterate ⟨.ok (), some (.ok []), ()⟩, .iterate ⟨.ok (), none, ()⟩,
    .iterate ⟨.ok (), some (.ok []), ()⟩]

theorem collector_loop_discipline_panicking :
    LoopDiscipline collectorSpecs[1] [] ["otlp"]
      (.start .default ⟨"/var/lib/talia", none⟩) panickingRun :=
  collector_loop_discipline [] ["otlp"] (List.getElem_mem _) (by decide +kernel) panickingRun

end Discipline

end Talia
