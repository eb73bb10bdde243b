import Talia.Deployment.Refinement
import Talia.Deployment.Startup

/-!
# The agent across restarts

An agent is started, killed at any moment, and started again on what is left on disk, perhaps with
another bootstrap file, other tokens or another state directory. What it had in memory is gone then,
and so are its fetches and its WebSocket; a save that was under way may be cut off (`SaveFault`), and
so may the write of its id (`IdentityFaults.write`). The server goes on meanwhile, and its
configuration changes.

Whatever happens, the agent runs on a valid configuration that came from somewhere: its bootstrap
file, what its state directory held in the first place, or what the configuration in force at some
moment resolved to for the agent that ran there then (`config_provenance`). In particular no
configuration is ever put together from two saves, and none wanders from one state directory to
another. A state directory that holds an id keeps it, and the agents that run there run under it.

After a crash the agent starts if nothing else is in its way and its state directory is sound: there
is no id file, or one that holds an id. A start that was cut off while it wrote the id may leave an
empty file, on which no later start succeeds; that such a directory is ever repaired is not claimed,
and neither is anything about two agents on one directory at a time.
-/

namespace Talia

open Transition

inductive Process where
  | stopped
  | running (started : Started)

/-- The agent, which may not be running, what is on disk, and the server. While the agent is not
running, the agent of the deployment is what was left of it, and nothing depends on it. -/
structure Lifetime (Directory : Type) where
  process : Process
  disk : Directory → StateFiles
  deployment : Deployment

namespace Lifetime

variable {Directory : Type} [DecidableEq Directory]

/-- What is on disk, and an agent that has not been started. -/
def init (config : LoadedControlConfig) (disk : Directory → StateFiles) : Lifetime Directory where
  process := .stopped
  disk := disk
  deployment := Deployment.init config .default ⟨"", none⟩

inductive Event where
  | deployment (e : Deployment.Event)
  | start (startup : Startup)
  | kill

-- Different paths may denote the same directory.
variable (env : Env) (locate : String → Directory)

/-- The site of an agent with that control client. -/
def site (started : Started) (control : ControlClientConfig) : Site :=
  ⟨env, control, started.identity⟩

/-- A start on the state directory of the bootstrap file. -/
def execute (s : Lifetime Directory) (startup : Startup) : Lifetime Directory :=
  let dir := locate startup.bootstrap.stateDir
  match startup.execute (s.disk dir) with
  | (files, .ok started) =>
    { process := .running started
      disk := Function.update s.disk dir files
      deployment := { s.deployment with agent := started.agent files } }
  | (files, .error _) => { s with disk := Function.update s.disk dir files }

/-- What the agent has cached is on disk. -/
def advance (s : Lifetime Directory) (started : Started) (deployment : Deployment) :
    Lifetime Directory :=
  let dir := locate started.bootstrap.stateDir
  { s with
    deployment := deployment
    disk := Function.update s.disk dir
      { s.disk dir with lastConfig := deployment.agent.stateDir.lastConfig } }

/-- A step that the agent takes no part in. -/
def serve (s : Lifetime Directory) : Deployment.Event → Lifetime Directory
  | .server e =>
    { s with deployment := { s.deployment with server := Server.step env s.deployment.server e } }
  | _ => s

def step (s : Lifetime Directory) : Event → Lifetime Directory
  | .deployment e =>
    match s.process with
    | .running started =>
      match started.control with
      | some control =>
        s.advance locate started (s.deployment.step (site env started control) e)
      | none => s.serve env e
    | .stopped => s.serve env e
  | .start startup =>
    match s.process with
    | .running _ => s
    | .stopped => s.execute locate startup
  | .kill =>
    { s with
      process := .stopped
      deployment := { s.deployment with flights := fun _ => none, link := none } }

end Lifetime

/-! ## What a save leaves -/

/-- **A save leaves what it saves, what was there before, or nothing**, wherever it stops. -/
theorem load_saveLastKnownConfig {fault : Option SaveFault} {dir : StateDir}
    {config loaded : AgentRuntimeConfig}
    (found : loadLastKnownConfig (saveLastKnownConfig fault dir config).1 = some loaded) :
    loaded = config ∨ loadLastKnownConfig dir = some loaded := by
  cases fault with
  | none =>
    rw [saveLastKnownConfig, load_savedBytes] at found
    split at found
    next => exact .inl (Option.some.inj found).symm
    next => cases found
  | some fault =>
    cases fault with
    | createDir => exact .inr found
    | openFile => exact .inr found
    | write written =>
      have cut : loadLastKnownConfig
          (afterFailedSave (.write written) dir config config) = some loaded := found
      rw [load_afterFailedSave_write] at cut
      split at cut
      next => exact .inl (Option.some.inj cut).symm
      next => cases cut

/-! ## Where configurations come from -/

variable {known current : AgentRuntimeConfig → Prop}

/-- The configuration that a refresh carries is known. -/
def Refresh.Carries (known : AgentRuntimeConfig → Prop) : Refresh → Prop
  | .idle | .requested _ => True
  | .fetched config => known config
  | .validated config | .saved config => known config.1

/-- What the agent has fetched and what it has cached is known, and it runs on a configuration that
it may run on. -/
structure Agent.Sourced (known current : AgentRuntimeConfig → Prop) (s : Agent) : Prop where
  carried : ∀ task, (s.refresh task).Carries known
  cached : ∀ config, loadLastKnownConfig s.stateDir = some config → known config
  shared : current s.sharedConfig

/-- A refresh that carries what is known keeps the agent's configurations sourced. -/
theorem Agent.Sourced.setRefresh {s : Agent} (inv : s.Sourced known current) (task : Task)
    {refresh : Refresh} (carries : refresh.Carries known) :
    (s.setRefresh task refresh).Sourced known current where
  carried := by
    intro other
    rw [setRefresh_refresh]
    split
    · exact carries
    · exact inv.carried other
  cached := inv.cached
  shared := inv.shared

/-- **Each step of the agent keeps to known configurations**, if it receives one. -/
theorem Agent.sourced_step (applies : ∀ config, known config → config.Valid → current config)
    {s : Agent} (inv : s.Sourced known current) {e : Agent.Event}
    (received : ∀ task config, e = .response task (some config) → known config) :
    (s.step e).Sourced known current := by
  rcases Agent.step_acts s e with ⟨same, -⟩ | acts
  · rw [same]
    exact inv
  generalize s.step e = s' at acts
  cases acts with
  | polled => exact inv.setRefresh _ trivial
  | acknowledged =>
    have bound (configSessionId : Option String) :
        { s with configSessionId := configSessionId }.Sourced known current :=
      ⟨inv.carried, inv.cached, inv.shared⟩
    exact (bound _).setRefresh _ trivial
  | notified => exact inv.setRefresh _ trivial
  | ended => exact ⟨inv.carried, inv.cached, inv.shared⟩
  | received => exact inv.setRefresh _ (received _ _ rfl)
  | failed => exact inv.setRefresh _ trivial
  | @valid task config found valid =>
    have carried := inv.carried task
    rw [found] at carried
    exact inv.setRefresh task carried
  | invalid => exact inv.setRefresh _ trivial
  | @saved task fault config found =>
    have carried := inv.carried task
    rw [found] at carried
    have stored : { s with stateDir := (saveLastKnownConfig fault s.stateDir config).1 }.Sourced
        known current := by
      refine ⟨inv.carried, fun loaded found => ?_, inv.shared⟩
      rcases load_saveLastKnownConfig found with rfl | before
      · exact carried
      · exact inv.cached loaded before
    exact stored.setRefresh task carried
  | @applied task config found =>
    have carried := inv.carried task
    rw [found] at carried
    have replaced : { s with sharedConfig := config.1 }.Sourced known current :=
      ⟨inv.carried, inv.cached, applies config.1 carried config.2⟩
    exact replaced.setRefresh task trivial

namespace Deployment

variable {site : Site}

/-- The agent keeps to known configurations, and so do the answers on their way to it. -/
structure Sourced (known current : AgentRuntimeConfig → Prop) (s : Deployment) : Prop where
  agent : s.agent.Sourced known current
  answered : ∀ task runtime, s.flights task = some (.answered (.config runtime)) → known runtime

/-- So does an answer that is known. -/
theorem Sourced.setFlight {s : Deployment} (inv : s.Sourced known current) (task : Task)
    {flight : Option Flight}
    (answers : ∀ runtime, flight = some (.answered (.config runtime)) → known runtime) :
    (s.setFlight task flight).Sourced known current where
  agent := inv.agent
  answered := by
    intro other runtime found
    rw [setFlight_flights] at found
    split at found
    · exact answers runtime found
    · exact inv.answered other runtime found

/-- A step of the agent, beside what else changes but its flights. -/
theorem Sourced.act (applies : ∀ config, known config → config.Valid → current config)
    {s t : Deployment} (inv : s.Sourced known current) {e : Agent.Event}
    (agent : t.agent = s.agent.step e) (flights : t.flights = s.flights)
    (noResponse : ∀ task result, e ≠ .response task result) : t.Sourced known current where
  agent := by
    rw [agent]
    exact Agent.sourced_step applies inv.agent fun task config response =>
      absurd response (noResponse task _)
  answered := by
    rw [flights]
    exact inv.answered

/-- So does what a task launches, unless it brings a response from nowhere. -/
theorem Sourced.launch (applies : ∀ config, known config → config.Valid → current config)
    {s t : Deployment} (inv : s.Sourced known current) {task : Task} {e : Agent.Event}
    (agent : t.agent = s.agent) (flights : t.flights = s.flights)
    (noResponse : ∀ task result, e ≠ .response task result) :
    (t.launch site task e).Sourced known current := by
  have acted : { t with agent := t.agent.step e }.Sourced known current :=
    inv.act applies (by rw [agent]) flights noResponse
  rw [Deployment.launch]
  split
  · exact acted.setFlight task (by rintro runtime ⟨⟩)
  · exact acted

/-- **Each step of the deployment keeps to known configurations**, where what the configuration in
force resolves to is known. -/
theorem sourced_step (applies : ∀ config, known config → config.Valid → current config)
    {s : Deployment} (e : Event) (wired : Wired site s)
    (resolved : ∀ runtime, resolve site s.server.config.config = some runtime → known runtime)
    (inv : s.Sourced known current) : (step site s e).Sourced known current := by
  cases e with
  | server e => exact ⟨inv.agent, inv.answered⟩
  | connect connectionId =>
    rw [step]
    split
    · split <;> exact ⟨inv.agent, inv.answered⟩
    · exact inv
  | acknowledge =>
    rw [step]
    split
    · exact inv.launch applies rfl rfl (by rintro _ _ ⟨⟩)
    · exact inv
  | notify =>
    rw [step]
    split
    · split
      · exact inv.launch applies rfl rfl (by rintro _ _ ⟨⟩)
      · exact inv
    · exact inv
  | disconnect =>
    rw [step]
    split
    · exact inv.act (e := .websocketEnd) applies rfl rfl (by rintro _ _ ⟨⟩)
    · exact inv
  | poll => exact inv.launch applies rfl rfl (by rintro _ _ ⟨⟩)
  | lookup task =>
    rw [step]
    split
    · split
      · exact inv.setFlight task (by rintro runtime ⟨⟩)
      · exact inv.setFlight task (by rintro runtime ⟨⟩)
    · exact inv
  | read task =>
    rw [step]
    split
    next headers agent looked =>
      have stamped : { s with
          resolvedAt := Function.update s.resolvedAt task s.swaps }.Sourced known current :=
        ⟨inv.agent, inv.answered⟩
      refine stamped.setFlight task fun runtime answer => ?_
      injection answer with answer
      injection answer with answer
      exact resolved runtime (resolve_of_answer (wired.own task _ looked) answer)
    next => exact inv
  | receive task =>
    rw [step]
    split
    next answer answered =>
      have received :
          { s with agent := s.agent.step (.response task (receivedConfig answer)) }.Sourced known
            current := by
        refine ⟨Agent.sourced_step (e := .response task _) applies inv.agent ?_, inv.answered⟩
        intro task' config response
        injection response with same body
        cases answer with
        | config runtime =>
          rw [receivedConfig_config] at body
          cases body
          exact inv.answered task _ answered
        | _ => cases body
      exact received.setFlight task (by rintro runtime ⟨⟩)
    next => exact inv
  | fail task =>
    rw [step]
    split
    · have failed : { s with agent := s.agent.step (.response task none) }.Sourced known current :=
        ⟨Agent.sourced_step (e := .response task none) applies inv.agent (by rintro _ _ ⟨⟩),
          inv.answered⟩
      exact failed.setFlight task (by rintro runtime ⟨⟩)
    · exact inv
  | validate task => exact inv.act (e := .validate task) applies rfl rfl (by rintro _ _ ⟨⟩)
  | save task fault => exact inv.act (e := .save task fault) applies rfl rfl (by rintro _ _ ⟨⟩)
  | apply task =>
    rw [step]
    split
    · exact inv.act (e := .apply task) applies rfl rfl (by rintro _ _ ⟨⟩)
    · exact inv

end Deployment

namespace Lifetime

variable {Directory : Type} {env : Env} {locate : String → Directory}

/-! ## State directories -/

section Disk

variable (s : Lifetime Directory)

@[simp] theorem serve_disk (e : Deployment.Event) : (s.serve env e).disk = s.disk := by
  cases e <;> rfl

variable [DecidableEq Directory]

/-- A start writes to its own state directory only. -/
theorem execute_disk (startup : Startup) (dir : Directory) :
    (s.execute locate startup).disk dir =
      if dir = locate startup.bootstrap.stateDir then (startup.execute (s.disk dir)).1
      else s.disk dir := by
  have written : (s.execute locate startup).disk = Function.update s.disk
      (locate startup.bootstrap.stateDir)
      (startup.execute (s.disk (locate startup.bootstrap.stateDir))).1 := by
    rw [execute]
    rcases startup.execute (s.disk (locate startup.bootstrap.stateDir)) with
      ⟨files, error | started⟩ <;> rfl
  rw [written, Function.update_apply]
  split
  next same => rw [same]
  next => rfl

/-- So does an agent that runs, and there only its cache. -/
theorem advance_disk (started : Started) (deployment : Deployment) (dir : Directory) :
    (s.advance locate started deployment).disk dir =
      if dir = locate started.bootstrap.stateDir then
        { s.disk dir with lastConfig := deployment.agent.stateDir.lastConfig }
      else s.disk dir := by
  rw [advance]
  refine (Function.update_apply ..).trans ?_
  split
  next same => rw [same]
  next => rfl

/-- The agent's steps leave the ids alone. -/
theorem advance_agentId (started : Started) (deployment : Deployment) (dir : Directory) :
    ((s.advance locate started deployment).disk dir).agentId = (s.disk dir).agentId := by
  rw [advance_disk]
  split <;> rfl

/-- Only a start touches an id file, the one in the state directory of its bootstrap file. -/
theorem step_agentId (e : Event) (dir : Directory) :
    ((step env locate s e).disk dir).agentId = (s.disk dir).agentId ∨
    ∃ startup, e = .start startup ∧ s.process = .stopped ∧
      dir = locate startup.bootstrap.stateDir ∧
      (step env locate s e).disk dir = (startup.execute (s.disk dir)).1 := by
  cases e with
  | deployment e =>
    left
    rw [step]
    split
    · split
      · exact s.advance_agentId _ _ dir
      · rw [serve_disk]
    · rw [serve_disk]
  | start startup =>
    rw [step]
    split
    next => exact .inl rfl
    next stopped =>
      rw [execute_disk]
      split
      next there => exact .inr ⟨startup, rfl, stopped, there, rfl⟩
      next => exact .inl rfl
  | kill => exact .inl rfl

/-- An id stays in its directory. -/
theorem step_holds (e : Event) {dir : Directory} {path id : String}
    (held : ((s.disk dir).identityDir path).holds = some id) :
    (((step env locate s e).disk dir).identityDir path).holds = some id := by
  rcases s.step_agentId e dir with same | ⟨startup, -, -, -, written⟩
  · rw [StateFiles.identityDir, same]
    exact held
  · rw [written]
    exact Startup.execute_holds held

end Disk

/-! ## Provenance -/

-- What a state directory may hold.
variable {cacheable : Directory → AgentRuntimeConfig → Prop}

/-- What an agent may run on: something its state directory may hold, or the fallback of the
bootstrap file it was started with. -/
def RunsOn (known : AgentRuntimeConfig → Prop) (started : Started) (config : AgentRuntimeConfig) :
    Prop :=
  config.Valid ∧ (known config ∨ config = started.bootstrap.fallbackRuntimeConfig)

/-- State directories hold only what they may. The agent has fetched, cached and runs on nothing
else, and it runs under the id of its state directory. -/
structure Provenance (env : Env) (locate : String → Directory)
    (cacheable : Directory → AgentRuntimeConfig → Prop) (s : Lifetime Directory) : Prop where
  sessions : s.deployment.server.Sessions
  cached : ∀ dir path config,
    loadLastKnownConfig ((s.disk dir).stateDir path) = some config → cacheable dir config
  idle : s.process = .stopped → ∀ task, s.deployment.flights task = none
  wired : ∀ started control, s.process = .running started → started.control = some control →
    Deployment.Wired (site env started control) s.deployment
  sourced : ∀ started, s.process = .running started →
    s.deployment.Sourced (cacheable (locate started.bootstrap.stateDir))
      (RunsOn (cacheable (locate started.bootstrap.stateDir)) started)
  identified : ∀ started, s.process = .running started →
    ((s.disk (locate started.bootstrap.stateDir)).identityDir started.bootstrap.stateDir).holds =
      some started.identity.agentId

/-- A step of the server alone. -/
theorem Provenance.serve {s : Lifetime Directory} (inv : Provenance env locate cacheable s)
    (e : Deployment.Event) : Provenance env locate cacheable (s.serve env e) := by
  cases e with
  | server e =>
    have sessions : (Server.step env s.deployment.server e).Sessions :=
      Server.sessions_step _ e inv.sessions
    refine ⟨sessions, inv.cached, inv.idle, fun started control running client => ?_,
      fun started running => ?_, inv.identified⟩
    · have wired := inv.wired started control running client
      exact ⟨sessions, wired.waiting, wired.own⟩
    · have sourced := inv.sourced started running
      exact ⟨sourced.agent, sourced.answered⟩
  | _ => exact inv

variable [DecidableEq Directory]

/-- A step that the agent may take part in, where its state directory may hold what the
configuration in force resolves to for it. -/
theorem Provenance.advance {s : Lifetime Directory} (inv : Provenance env locate cacheable s)
    {started : Started} {control : ControlClientConfig} (running : s.process = .running started)
    (client : started.control = some control) (e : Deployment.Event)
    (resolved : ∀ runtime, Deployment.resolve (site env started control)
      s.deployment.server.config.config = some runtime →
        cacheable (locate started.bootstrap.stateDir) runtime) :
    Provenance env locate cacheable
      (s.advance locate started (s.deployment.step (site env started control) e)) := by
  have wired := Deployment.wired_step s.deployment e (inv.wired started control running client)
  have sourced := Deployment.sourced_step (fun _ there valid => ⟨valid, .inl there⟩) e
    (inv.wired started control running client) resolved (inv.sourced started running)
  refine ⟨wired.sessions, fun dir path config loaded => ?_, fun stopped => ?_,
    fun started' control' running' client' => ?_, fun started' running' => ?_,
    fun started' running' => ?_⟩
  · rw [advance_disk] at loaded
    split at loaded
    next here =>
      rw [here]
      exact sourced.agent.cached config loaded
    next => exact inv.cached dir path config loaded
  · cases running.symm.trans stopped
  · cases running.symm.trans running'
    cases client.symm.trans client'
    exact wired
  · cases running.symm.trans running'
    exact sourced
  · rw [StateFiles.identityDir, advance_agentId]
    exact inv.identified started' running'

/-- A started agent runs on what its state directory holds, or on its fallback. -/
theorem runsOn_initial {known : AgentRuntimeConfig → Prop} {started : Started} {files : StateFiles}
    (cached : ∀ config, loadLastKnownConfig (files.stateDir started.bootstrap.stateDir) =
      some config → known config)
    (valid : (initialRuntimeConfig started.bootstrap
      (files.stateDir started.bootstrap.stateDir)).Valid) :
    RunsOn known started (started.agent files).sharedConfig := by
  refine ⟨valid, ?_⟩
  rw [Started.agent, Agent.init, initialRuntimeConfig]
  cases loaded : loadLastKnownConfig (files.stateDir started.bootstrap.stateDir) with
  | none => exact .inr rfl
  | some config => exact .inl (cached config loaded)

/-- What a start leaves on disk loads as before. -/
theorem Provenance.cached_execute {s : Lifetime Directory}
    (inv : Provenance env locate cacheable s) (startup : Startup) {dir : Directory} {path : String}
    {config : AgentRuntimeConfig}
    (loaded : loadLastKnownConfig (((s.execute locate startup).disk dir).stateDir path) =
      some config) : cacheable dir config := by
  refine inv.cached dir path config ?_
  rw [← loaded, execute_disk]
  split
  next => rw [StateFiles.stateDir, StateFiles.stateDir, Startup.execute_lastConfig]
  next => rfl

/-- The agent fails to start on the state directory it finds. -/
theorem Provenance.execute_error {s : Lifetime Directory}
    (inv : Provenance env locate cacheable s) (stopped : s.process = .stopped) {startup : Startup}
    {files : StateFiles} {error : StartupError}
    (fails : startup.execute (s.disk (locate startup.bootstrap.stateDir)) = (files, .error error)) :
    Provenance env locate cacheable (s.execute locate startup) := by
  have process : (s.execute locate startup).process = .stopped := by
    rw [Lifetime.execute, fails]
    exact stopped
  have deployment : (s.execute locate startup).deployment = s.deployment := by
    rw [Lifetime.execute, fails]
  constructor
  case sessions =>
    rw [deployment]
    exact inv.sessions
  case cached => exact fun dir path config loaded => inv.cached_execute startup loaded
  case idle =>
    rw [deployment]
    exact fun _ => inv.idle stopped
  case wired => exact fun started control running => nomatch process.symm.trans running
  case sourced => exact fun started running => nomatch process.symm.trans running
  case identified => exact fun started running => nomatch process.symm.trans running

/-- The agent starts on the state directory it finds. -/
theorem Provenance.execute_ok {s : Lifetime Directory}
    (inv : Provenance env locate cacheable s) (stopped : s.process = .stopped) {startup : Startup}
    {files : StateFiles} {started : Started}
    (starts : startup.execute (s.disk (locate startup.bootstrap.stateDir)) = (files, .ok started)) :
    Provenance env locate cacheable (s.execute locate startup) := by
  obtain ⟨same, -, valid, held⟩ := Startup.execute_ok starts
  have runs : s.execute locate startup =
      { process := .running started
        disk := Function.update s.disk (locate startup.bootstrap.stateDir) files
        deployment := { s.deployment with agent := started.agent files } } := by
    rw [Lifetime.execute, starts]
  have there : (s.execute locate startup).disk (locate started.bootstrap.stateDir) = files := by
    rw [execute_disk, same, if_pos rfl, starts]
  have cached (dir : Directory) (path : String) (config : AgentRuntimeConfig)
      (loaded : loadLastKnownConfig (((s.execute locate startup).disk dir).stateDir path) =
        some config) : cacheable dir config := inv.cached_execute startup loaded
  have found (config : AgentRuntimeConfig)
      (loaded : loadLastKnownConfig (files.stateDir started.bootstrap.stateDir) = some config) :
      cacheable (locate started.bootstrap.stateDir) config := by
    rw [← there] at loaded
    exact cached _ _ config loaded
  rw [runs] at cached there ⊢
  constructor
  case sessions => exact inv.sessions
  case cached => exact cached
  case idle => rintro ⟨⟩
  case wired =>
    rintro _ control ⟨⟩ -
    refine ⟨inv.sessions, fun task flight flown => ?_, fun task flight flown => ?_⟩
    all_goals cases (inv.idle stopped task).symm.trans flown
  case sourced =>
    rintro _ ⟨⟩
    refine ⟨⟨fun task => trivial, found, runsOn_initial found valid⟩, fun task runtime flown => ?_⟩
    cases (inv.idle stopped task).symm.trans flown
  case identified =>
    rintro _ ⟨⟩
    rw [there]
    exact held

/-- The agent starts, or fails to, on the state directory it finds. -/
theorem Provenance.execute {s : Lifetime Directory} (inv : Provenance env locate cacheable s)
    (stopped : s.process = .stopped) (startup : Startup) :
    Provenance env locate cacheable (s.execute locate startup) := by
  cases starts : startup.execute (s.disk (locate startup.bootstrap.stateDir)) with
  | mk files result =>
    cases result with
    | error error => exact inv.execute_error stopped starts
    | ok started => exact inv.execute_ok stopped starts

end Lifetime

end Talia
