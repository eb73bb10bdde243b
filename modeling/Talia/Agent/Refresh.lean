import Talia.Agent.LocalConfig
import Talia.Core.Control
import Talia.Lib.Publication

/-!
# Refreshing the remote configuration

Two tasks of an agent refresh its configuration: one polls, one answers the messages of the control
WebSocket. Each fetches a configuration, validates it, saves it to the state directory and writes it
to the configuration the collectors share. Every step of that is a step of `step`, so the two
refreshes interleave as they do between the tasks' await points. A save that fails is logged and the
configuration applied all the same.

The tasks publish configurations, in the file and in memory, in the sense of `Publication`
(`refines_step`). So the file holds the configuration saved last and the memory the one applied
last. These are the same where no task saves while the other is between its save and its apply
(`cached_config_agrees`), and need not be otherwise (`cached_config_disagrees`).
-/

namespace Talia

/-! ## State -/

/-- The tasks that refresh the configuration. -/
inductive Task where
  | poll
  | websocket
  deriving DecidableEq

/-- A configuration that passed its validation. -/
abbrev ValidConfig := { config : AgentRuntimeConfig // config.Valid }

/-- Where a task's refresh stands. -/
inductive Refresh where
  | idle
  /-- The request is made, for the session. -/
  | requested (configSessionId : String)
  | fetched (config : AgentRuntimeConfig)
  | validated (config : ValidConfig)
  | saved (config : ValidConfig)

structure Agent where
  sharedConfig : AgentRuntimeConfig
  configSessionId : Option String
  stateDir : StateDir
  refresh : Task → Refresh

namespace Agent

open Transition

/-- The agent at startup. -/
def init (bootstrap : AgentBootstrapConfig) (dir : StateDir) : Agent where
  sharedConfig := initialRuntimeConfig bootstrap dir
  configSessionId := none
  stateDir := dir
  refresh := fun _ => .idle

def setRefresh (s : Agent) (task : Task) (refresh : Refresh) : Agent :=
  { s with refresh := Function.update s.refresh task refresh }

/-- One task's refresh changes that task only. -/
theorem setRefresh_refresh (s : Agent) (task other : Task) (refresh : Refresh) :
    (s.setRefresh task refresh).refresh other =
      if other = task then refresh else s.refresh other :=
  Function.update_apply ..

/-! ## Steps -/

inductive Event where
  /-- The poll task's interval is over. -/
  | poll
  /-- The WebSocket task handles a message. -/
  | message (message : ServerControlMessage)
  /-- The WebSocket ends. -/
  | websocketEnd
  /-- A fetch ends: with the configuration of its response, or with an error. -/
  | response (task : Task) (result : Option AgentRuntimeConfig)
  | validate (task : Task)
  | save (task : Task) (fault : Option SaveFault)
  | apply (task : Task)

/-- A task starts a refresh, if there is a session. -/
def refreshWithCurrentSession (s : Agent) (task : Task) : Agent :=
  match s.configSessionId with
  | some configSessionId => s.setRefresh task (.requested configSessionId)
  | none => s

/-- What the WebSocket task does with a message. -/
def handleServerMessage (s : Agent) : ServerControlMessage → Agent
  | .helloAck _ configSessionId =>
    { s with configSessionId := some configSessionId }.setRefresh .websocket
      (.requested configSessionId)
  | .configChanged _ => s.refreshWithCurrentSession .websocket

def step (s : Agent) : Event → Agent
  | .poll =>
    match s.refresh .poll with
    | .idle => s.refreshWithCurrentSession .poll
    | _ => s
  -- The task handles its messages one by one, each with its refresh.
  | .message message =>
    match s.refresh .websocket with
    | .idle => s.handleServerMessage message
    | _ => s
  | .websocketEnd =>
    match s.refresh .websocket with
    | .idle => { s with configSessionId := none }
    | _ => s
  | .response task result =>
    match s.refresh task with
    | .requested _ =>
      match result with
      | some config => s.setRefresh task (.fetched config)
      | none => s.setRefresh task .idle
    | _ => s
  | .validate task =>
    match s.refresh task with
    | .fetched config =>
      if valid : config.Valid then s.setRefresh task (.validated ⟨config, valid⟩)
      else s.setRefresh task .idle
    | _ => s
  | .save task fault =>
    match s.refresh task with
    | .validated config =>
      { s with stateDir := (saveLastKnownConfig fault s.stateDir config).1 }.setRefresh task
        (.saved config)
    | _ => s
  | .apply task =>
    match s.refresh task with
    | .saved config => { s with sharedConfig := config }.setRefresh task .idle
    | _ => s

/-- The configuration a step saves. -/
def savedConfig (s : Agent) : Event → Option ValidConfig
  | .save task _ =>
    match s.refresh task with
    | .validated config => some config
    | _ => none
  | _ => none

/-- The configuration a step applies. -/
def appliedConfig (s : Agent) : Event → Option AgentRuntimeConfig
  | .apply task =>
    match s.refresh task with
    | .saved config => some config
    | _ => none
  | _ => none

/-! ## What a step can do -/

/-- What a step is as one of a publication (`Publication`): a task obtains a valid configuration,
writes it to the file, writes it to memory. -/
def label (s : Agent) : Event → Option (Publication.Event Task ValidConfig)
  | .validate task =>
    match s.refresh task with
    | .fetched config => if valid : config.Valid then some (.obtain task ⟨config, valid⟩) else none
    | _ => none
  | .save task _ =>
    match s.refresh task with
    | .validated _ => some (.first task)
    | _ => none
  | .apply task =>
    match s.refresh task with
    | .saved _ => some (.second task)
    | _ => none
  | _ => none

/-- The steps that change something, each with what was so before it. -/
inductive Acts (s : Agent) : Event → Agent → Prop
  | polled {configSessionId : String} (idle : s.refresh .poll = .idle)
      (session : s.configSessionId = some configSessionId) :
      Acts s .poll (s.setRefresh .poll (.requested configSessionId))
  | acknowledged {now : UInt64} {configSessionId : String} (idle : s.refresh .websocket = .idle) :
      Acts s (.message (.helloAck now configSessionId))
        ({ s with configSessionId := some configSessionId }.setRefresh .websocket
          (.requested configSessionId))
  | notified {version configSessionId : String} (idle : s.refresh .websocket = .idle)
      (session : s.configSessionId = some configSessionId) :
      Acts s (.message (.configChanged version))
        (s.setRefresh .websocket (.requested configSessionId))
  | ended (idle : s.refresh .websocket = .idle) :
      Acts s .websocketEnd { s with configSessionId := none }
  | received {task : Task} {configSessionId : String} {config : AgentRuntimeConfig}
      (found : s.refresh task = .requested configSessionId) :
      Acts s (.response task (some config)) (s.setRefresh task (.fetched config))
  | failed {task : Task} {configSessionId : String}
      (found : s.refresh task = .requested configSessionId) :
      Acts s (.response task none) (s.setRefresh task .idle)
  | valid {task : Task} {config : AgentRuntimeConfig} (found : s.refresh task = .fetched config)
      (valid : config.Valid) :
      Acts s (.validate task) (s.setRefresh task (.validated ⟨config, valid⟩))
  | invalid {task : Task} {config : AgentRuntimeConfig} (found : s.refresh task = .fetched config)
      (invalid : ¬ config.Valid) : Acts s (.validate task) (s.setRefresh task .idle)
  | saved {task : Task} {fault : Option SaveFault} {config : ValidConfig}
      (found : s.refresh task = .validated config) :
      Acts s (.save task fault)
        ({ s with stateDir := (saveLastKnownConfig fault s.stateDir config).1 }.setRefresh task
          (.saved config))
  | applied {task : Task} {config : ValidConfig} (found : s.refresh task = .saved config) :
      Acts s (.apply task) ({ s with sharedConfig := config }.setRefresh task .idle)

/-- **A step changes nothing, saves nothing and applies nothing, or it acts.** -/
theorem step_acts (s : Agent) (e : Event) :
    (step s e = s ∧ savedConfig s e = none ∧ appliedConfig s e = none ∧ label s e = none) ∨
      Acts s e (step s e) := by
  cases e with
  | poll =>
    rw [step, refreshWithCurrentSession]
    split
    next idle =>
      split
      next session => exact .inr (.polled idle session)
      next => exact .inl ⟨rfl, rfl, rfl, rfl⟩
    next => exact .inl ⟨rfl, rfl, rfl, rfl⟩
  | message message =>
    rw [step]
    split
    next idle =>
      cases message with
      | helloAck => exact .inr (.acknowledged idle)
      | configChanged =>
        rw [handleServerMessage, refreshWithCurrentSession]
        split
        next session => exact .inr (.notified idle session)
        next => exact .inl ⟨rfl, rfl, rfl, rfl⟩
    next => exact .inl ⟨rfl, rfl, rfl, rfl⟩
  | websocketEnd =>
    rw [step]
    split
    next idle => exact .inr (.ended idle)
    next => exact .inl ⟨rfl, rfl, rfl, rfl⟩
  | response task result =>
    cases result with
    | some config =>
      rw [step]
      split
      next found => exact .inr (.received found)
      next => exact .inl ⟨rfl, rfl, rfl, rfl⟩
    | none =>
      rw [step]
      split
      next found => exact .inr (.failed found)
      next => exact .inl ⟨rfl, rfl, rfl, rfl⟩
  | validate task =>
    rw [step, label]
    split
    next found =>
      split
      next valid => exact .inr (.valid found valid)
      next invalid => exact .inr (.invalid found invalid)
    next => exact .inl ⟨rfl, rfl, rfl, rfl⟩
  | save task fault =>
    rw [step, savedConfig, label]
    split
    next found => exact .inr (.saved found)
    next => exact .inl ⟨rfl, rfl, rfl, rfl⟩
  | apply task =>
    rw [step, appliedConfig, label]
    split
    next found => exact .inr (.applied found)
    next => exact .inl ⟨rfl, rfl, rfl, rfl⟩

/-! ## What is saved and applied last -/

/-- A step is not a save that fails. -/
def SaveSucceeds (_ : Agent) (e : Event) : Prop := ∀ task fault, e = .save task fault → fault = none

/-- A save that succeeds leaves the configuration in the file; other steps leave the file alone. -/
theorem lastConfig_step (s : Agent) (e : Event) (succeeds : SaveSucceeds s e) :
    (step s e).stateDir.lastConfig =
      ((savedConfig s e).map fun config : ValidConfig => some (savedBytes config)).getD
        s.stateDir.lastConfig := by
  rcases step_acts s e with ⟨same, unsaved, -, -⟩ | acts
  · rw [same, unsaved, Option.map_none, Option.getD_none]
  generalize step s e = s' at acts
  cases acts with
  | @saved task fault config found =>
    cases succeeds task fault rfl
    rw [savedConfig, found]
    rfl
  | _ => rfl

/-- An apply replaces the configuration in memory; other steps leave it alone. -/
theorem sharedConfig_step (s : Agent) (e : Event) :
    (step s e).sharedConfig = ((appliedConfig s e).map id).getD s.sharedConfig := by
  rcases step_acts s e with ⟨same, -, unapplied, -⟩ | acts
  · rw [same, unapplied, Option.map_none, Option.getD_none]
  generalize step s e = s' at acts
  cases acts with
  | applied found =>
    rw [appliedConfig, found]
    rfl
  | _ => rfl

/-- A file as a save leaves it loads. -/
theorem load_of_lastConfig {dir : StateDir} {config : ValidConfig}
    (file : dir.lastConfig = some (savedBytes config)) :
    loadLastKnownConfig dir = some config.1 := by
  have loaded := load_savedBytes dir.path config
  rw [← file, if_pos config.2] at loaded
  exact loaded

/-- What loads after saves that succeed: the configuration saved last. -/
theorem load_saved {s : Agent} {es : List Event} (succeed : StepsMeet step SaveSucceeds s es)
    {config : ValidConfig} (last : (outputs step savedConfig s es).getLast? = some config) :
    loadLastKnownConfig (run step s es).stateDir = some config.1 := by
  refine load_of_lastConfig ?_
  rw [run_latest (fun s : Agent => s.stateDir.lastConfig) lastConfig_step succeed, last]
  rfl

/-! ## Refreshes as a publication -/

def refreshPhase : Refresh → Publication.Phase ValidConfig AgentRuntimeConfig
  | .validated config => .holding config
  | .saved config => .entered config
  | _ => .idle

/-- A step of the publication of configurations, in the file and in memory. -/
abbrev publish : Publication.State Task ValidConfig AgentRuntimeConfig (Option ByteArray) →
    Publication.Event Task ValidConfig →
      Publication.State Task ValidConfig AgentRuntimeConfig (Option ByteArray) :=
  Publication.step (fun config => some (savedBytes config)) Subtype.val

/-- The agent, seen as a publication: its second cell is empty until a configuration is applied. -/
structure Refines (s : Agent)
    (t : Publication.State Task ValidConfig AgentRuntimeConfig (Option ByteArray)) : Prop where
  phase : ∀ task, t.phase task = refreshPhase (s.refresh task)
  first : t.first = s.stateDir.lastConfig
  second : ∀ config, t.second = some config → config = s.sharedConfig

/-- The publication before anything is published. -/
def unpublished (s : Agent) :
    Publication.State Task ValidConfig AgentRuntimeConfig (Option ByteArray) where
  phase := fun task => refreshPhase (s.refresh task)
  first := s.stateDir.lastConfig
  second := none

/-- An agent that has published nothing refines the abstract one. -/
theorem refines_unpublished (s : Agent) : Refines s s.unpublished where
  phase := fun _ => rfl
  first := rfl
  second := fun _ h => nomatch h

/-- A task's phase is that of its refresh. -/
theorem phase_setRefresh {s : Agent}
    {phase : Task → Publication.Phase ValidConfig AgentRuntimeConfig}
    (same : ∀ task, phase task = refreshPhase (s.refresh task)) (task : Task)
    (refresh : Refresh) (other : Task) :
    Function.update phase task (refreshPhase refresh) other =
      refreshPhase ((s.setRefresh task refresh).refresh other) := by
  rw [setRefresh_refresh, Function.update_apply]
  split
  · rfl
  · exact same other

/-- A refresh that moves outside of its writes is not seen. -/
theorem Refines.setRefresh {s : Agent}
    {t : Publication.State Task ValidConfig AgentRuntimeConfig (Option ByteArray)}
    (refines : Refines s t) {task : Task} {refresh : Refresh}
    (idle : refreshPhase (s.refresh task) = .idle) (still : refreshPhase refresh = .idle) :
    Refines (s.setRefresh task refresh) t where
  phase := by
    intro other
    rw [← phase_setRefresh refines.phase, still, ← idle, ← refines.phase, Function.update_eq_self]
  first := refines.first
  second := refines.second

/-- **The agent refines the publication**, if its saves succeed. -/
theorem refines_step (s : Agent)
    (t : Publication.State Task ValidConfig AgentRuntimeConfig (Option ByteArray)) (e : Event)
    (refines : Refines s t) (succeeds : SaveSucceeds s e) :
    Refines (step s e) ((label s e).elim t (publish t)) := by
  rcases step_acts s e with ⟨same, -, -, unseen⟩ | acts
  · rw [same, unseen]
    exact refines
  generalize step s e = s' at acts
  cases acts with
  | polled idle => exact refines.setRefresh (by rw [idle]; rfl) rfl
  | @acknowledged now configSessionId idle =>
    have noted : Refines { s with configSessionId := some configSessionId } t :=
      ⟨refines.phase, refines.first, refines.second⟩
    exact noted.setRefresh (by rw [idle]; rfl) rfl
  | notified idle => exact refines.setRefresh (by rw [idle]; rfl) rfl
  | ended => exact ⟨refines.phase, refines.first, refines.second⟩
  | received found => exact refines.setRefresh (by rw [found]; rfl) rfl
  | failed found => exact refines.setRefresh (by rw [found]; rfl) rfl
  | @valid task config found valid =>
    have idle : t.phase task = .idle := by rw [refines.phase, found]; rfl
    rw [label, found]
    simp only [dif_pos valid, Option.elim_some, publish, Publication.step_obtain idle]
    exact ⟨phase_setRefresh refines.phase task (.validated ⟨config, valid⟩), refines.first, refines.second⟩
  | invalid found invalid =>
    rw [label, found]
    simp only [dif_neg invalid, Option.elim_none]
    exact refines.setRefresh (by rw [found]; rfl) rfl
  | @saved task fault config found =>
    cases succeeds task fault rfl
    have holding : t.phase task = .holding config := by rw [refines.phase, found]; rfl
    rw [label, found]
    simp only [Option.elim_some, publish, Publication.step_first holding]
    exact ⟨phase_setRefresh refines.phase task (.saved config), rfl, refines.second⟩
  | @applied task config found =>
    have entered : t.phase task = .entered config.1 := by rw [refines.phase, found]; rfl
    rw [label, found]
    simp only [Option.elim_some, publish, Publication.step_second entered]
    exact ⟨phase_setRefresh refines.phase task .idle, refines.first,
      fun _ h => (Option.some.inj h).symm⟩

/-- What a step applies, it publishes. -/
theorem published_of_applied (s : Agent)
    (t : Publication.State Task ValidConfig AgentRuntimeConfig (Option ByteArray)) (e : Event)
    (refines : Refines s t) :
    appliedConfig s e = (label s e).bind (Publication.published t) := by
  cases e with
  | apply task =>
    rw [appliedConfig, label]
    cases found : s.refresh task with
    | saved config =>
      have entered : t.phase task = .entered config.1 := by rw [refines.phase, found]; rfl
      simp only [Option.bind_some, Publication.published, entered]
    | idle | requested | fetched | validated => rfl
  | validate task =>
    rw [label]
    cases s.refresh task with
    | fetched config =>
      by_cases valid : config.Valid
      · simp only [dif_pos valid]
        rfl
      · simp only [dif_neg valid]
        rfl
    | idle | requested | validated | saved => rfl
  | save task fault =>
    rw [label]
    cases s.refresh task <;> rfl
  | _ => rfl

/-! ## Agreement -/

/-- No task is between its save and its apply. -/
def Settled (s : Agent) : Prop := ∀ task config, s.refresh task ≠ .saved config

/-- A step is not a save while a task is between its save and its apply. -/
def SavesAlone (s : Agent) (e : Event) : Prop :=
  ∀ task fault config, e = .save task fault → s.refresh task = .validated config → s.Settled

/-- A step that writes to the file first is a save. -/
theorem settled_of_first {s : Agent} {e : Event} {task : Task} (alone : SavesAlone s e)
    (first : label s e = some (.first task)) : s.Settled := by
  cases e with
  | save other fault =>
    rw [label] at first
    split at first
    next config found => exact alone other fault config rfl found
    next => cases first
  | validate other =>
    rw [label] at first
    split at first
    next => split at first <;> cases first
    next => cases first
  | apply other =>
    rw [label] at first
    split at first <;> cases first
  | _ => cases first

/-- A settled agent is a settled state. -/
theorem Refines.settled {s : Agent}
    {t : Publication.State Task ValidConfig AgentRuntimeConfig (Option ByteArray)}
    (refines : Refines s t) (settled : s.Settled) : Publication.Settled t := by
  intro task config entered
  rw [refines.phase] at entered
  cases found : s.refresh task with
  | saved config => exact settled task config found
  | idle | requested | fetched | validated =>
    rw [found] at entered
    cases entered

/-- **What is cached and what is applied.** However the two tasks' refreshes interleave, as long as
saves succeed the state directory holds the configuration saved last and the memory the one applied
last. If moreover no task saves while the other is between its save and its apply, then, once a
refresh is complete, they are the same whenever no task is between its save and its apply. -/
theorem cached_config_agrees (bootstrap : AgentBootstrapConfig) (dir : StateDir) {es : List Event}
    (succeed : ∀ task fault, .save task fault ∈ es → fault = none) :
    let agent := run step (init bootstrap dir) es
    let saved := outputs step savedConfig (init bootstrap dir) es
    let applied := outputs step appliedConfig (init bootstrap dir) es
    (∀ config, saved.getLast? = some config →
      loadLastKnownConfig agent.stateDir = some config.1) ∧
    (∀ config, applied.getLast? = some config → agent.sharedConfig = config) ∧
    (StepsMeet step SavesAlone (init bootstrap dir) es → applied ≠ [] → agent.Settled →
      loadLastKnownConfig agent.stateDir = some agent.sharedConfig) := by
  intro agent saved applied
  have succeeds : StepsMeet step SaveSucceeds (init bootstrap dir) es := by
    rintro pre e post rfl task fault rfl
    exact succeed task fault (List.mem_append_right _ List.mem_cons_self)
  refine ⟨fun config last => load_saved succeeds last, fun config last => ?_, ?_⟩
  · have shared : agent.sharedConfig =
        (applied.getLast?.map id).getD (init bootstrap dir).sharedConfig :=
      run_latest sharedConfig (fun s e _ => sharedConfig_step s e) (stepsMeet_true step _ es)
    rw [shared, last]
    rfl
  · intro alone some_applied settled
    let start := (init bootstrap dir).unpublished
    let published := outputs step label (init bootstrap dir) es
    have refined : Refines agent (run publish start published) :=
      run_refines refines_step (refines_unpublished _) succeeds
    -- The condition on saves is the one on first writes.
    have starts : StepsMeet publish Publication.StartsAlone start published := by
      refine stepsMeet_refines (R := Refines)
        (C := fun s e => SaveSucceeds s e ∧ SavesAlone s e)
        (fun s t e refines both => refines_step s t e refines both.1) ?_
        (refines_unpublished _) (succeeds.and alone)
      rintro s t e d refines ⟨-, alone⟩ labelled task rfl
      exact refines.settled (settled_of_first alone labelled)
    have shown : outputs publish Publication.published start published ≠ [] := by
      rw [← outputs_refines refines_step
        (fun s t e refines _ => published_of_applied s t e refines) (refines_unpublished _) succeeds]
      exact some_applied
    obtain ⟨config, first, second⟩ := Publication.agree_of_alone (fun _ _ h => by cases h) rfl
      starts (refined.settled settled) (Publication.second_run _ _ start shown)
    rw [load_of_lastConfig (refined.first.symm.trans first), refined.second _ second]

/-- The hello is acknowledged and the refresh that follows completes. -/
def refreshRun (config : AgentRuntimeConfig) : List Event :=
  [.message (.helloAck 1 "connection-1"), .response .websocket (some config),
    .validate .websocket, .save .websocket none, .apply .websocket]

theorem cached_config_agrees_refreshRun :
    let agent := run step (init .default ⟨"/var/lib/talia", none⟩) (refreshRun .default)
    loadLastKnownConfig agent.stateDir = some agent.sharedConfig := by
  intro agent
  have valid : AgentRuntimeConfig.default.Valid := by decide +kernel
  have succeed : ∀ task fault, .save task fault ∈ refreshRun .default → fault = none := by
    intro task fault mem
    simp only [refreshRun, List.mem_cons, reduceCtorEq, Event.save.injEq, List.not_mem_nil,
      false_or, or_false] at mem
    exact mem.2
  obtain ⟨-, -, agree⟩ := cached_config_agrees .default ⟨"/var/lib/talia", none⟩ succeed
  refine agree ?_ ?_ ?_
  · simp only [refreshRun, stepsMeet_cons]
    refine ⟨?_, ?_, ?_, ?_, ?_, stepsMeet_nil _ _ _⟩
    · rintro _ _ _ ⟨⟩
    · rintro _ _ _ ⟨⟩
    · rintro _ _ _ ⟨⟩
    · -- The other task is idle when this one saves.
      rintro _ _ _ _ _ (_ | _) config <;>
        simp [step, init, handleServerMessage, setRefresh, valid]
    · rintro _ _ _ ⟨⟩
  · simp [refreshRun, outputs, step, init, handleServerMessage, setRefresh, valid, appliedConfig]
  · rintro (_ | _) config <;>
      simp [refreshRun, step, init, handleServerMessage, setRefresh, valid]

/-- Both tasks fetch, save one after the other, and apply in the other order. -/
def overlappingRun (first second : AgentRuntimeConfig) : List Event :=
  [.message (.helloAck 1 "connection-1"), .poll,
    .response .websocket (some first), .response .poll (some second),
    .validate .websocket, .validate .poll,
    .save .websocket none, .save .poll none, .apply .poll, .apply .websocket]

/-- The file is left with one configuration and the memory with the other, if both are valid. -/
theorem overlappingRun_ends (bootstrap : AgentBootstrapConfig) (dir : StateDir)
    {first second : AgentRuntimeConfig} (valid : first.Valid) (valid' : second.Valid) :
    let agent := run step (init bootstrap dir) (overlappingRun first second)
    (∀ task, agent.refresh task = .idle) ∧
      loadLastKnownConfig agent.stateDir = some second ∧ agent.sharedConfig = first := by
  refine ⟨?_, @load_of_lastConfig _ ⟨second, valid'⟩ ?_, ?_⟩
  · rintro (_ | _) <;>
      simp [overlappingRun, step, init, handleServerMessage, refreshWithCurrentSession, setRefresh,
        valid, valid']
  · simp [overlappingRun, step, init, handleServerMessage, refreshWithCurrentSession, setRefresh,
      valid, valid', saveLastKnownConfig]
  · simp [overlappingRun, step, init, handleServerMessage, refreshWithCurrentSession, setRefresh,
      valid, valid']

/-- **What is cached can differ from what is applied**, with every save a success, refreshes
complete and both tasks idle again. -/
theorem cached_config_disagrees :
    ∃ (bootstrap : AgentBootstrapConfig) (dir : StateDir) (es : List Event),
      (∀ task fault, .save task fault ∈ es → fault = none) ∧
      outputs step appliedConfig (init bootstrap dir) es ≠ [] ∧
      (∀ task, (run step (init bootstrap dir) es).refresh task = .idle) ∧
      loadLastKnownConfig (run step (init bootstrap dir) es).stateDir ≠
        some (run step (init bootstrap dir) es).sharedConfig := by
  have valid : (AgentRuntimeConfig.default.withVersion "cfg-1").Valid := by decide +kernel
  have valid' : (AgentRuntimeConfig.default.withVersion "cfg-2").Valid := by decide +kernel
  obtain ⟨idle, cached, applied⟩ :=
    overlappingRun_ends .default ⟨"/var/lib/talia", none⟩ valid valid'
  refine ⟨.default, ⟨"/var/lib/talia", none⟩, _, ?_, ?_, idle, ?_⟩
  · intro task fault mem
    simp only [overlappingRun, List.mem_cons, reduceCtorEq, Event.save.injEq, List.not_mem_nil,
      false_or, or_false] at mem
    rcases mem with ⟨-, h⟩ | ⟨-, h⟩ <;> exact h
  · simp [overlappingRun, outputs, step, init, handleServerMessage, refreshWithCurrentSession,
      setRefresh, valid, valid', appliedConfig]
  · rw [cached, applied]
    intro same
    have versions := congrArg AgentRuntimeConfig.version (Option.some.inj same)
    exact absurd versions (by decide)

end Agent

end Talia
