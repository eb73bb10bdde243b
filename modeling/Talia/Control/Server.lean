import Talia.Control.Agents
import Talia.Control.Load
import Talia.Lib.Runs

/-!
# The control server

The server's shared state (the configuration in force, the map of connected agents, the
notifications sent) and the tasks that read and write it: one per WebSocket connection, one per
config fetch, one per reload. A task's steps are cut where the source lets go of a lock, so every
interleaving of the tasks is a run of `step`:

- a connection opens (`agentControl`), checks a hello's credential against the configuration
  (`hello`), writes the agents map (`register`), records heartbeats (`heartbeat`), stops reading
  (`socketEnd`) and cleans up (`removeAgent`);
- a config fetch reads the agents map (`agentConfig`), then the configuration
  (`agentConfigRead`);
- a reload reads the file (`reload`), swaps the configuration (`reloadSwap`), counts the agents
  (`reloadCount`) and broadcasts (`reloadNotify`).

A step that is not enabled changes nothing. `answer` is what a step sends to whoever asked.
`step_acts` says once what a step can do; every invariant above is a case analysis of it.
-/

namespace Talia

/-! ## State -/

/-- Where a connection's task stands. -/
inductive Phase where
  /-- Waiting for a message. -/
  | reading
  /-- A hello whose credential was accepted, before the agents map is written. -/
  | registering (hello : AgentHello)
  /-- Done reading, before its cleanup. -/
  | ended
  /-- Cleaned up. -/
  | closed
  deriving DecidableEq

/-- A WebSocket connection: the token it was opened with, the id it registered last, whether the
server has closed its sending half. -/
structure Connection where
  agentConfigToken : Option String
  currentAgentId : Option String
  senderClosed : Bool
  phase : Phase
  deriving DecidableEq

/-- A request for a config, told from others by a number. -/
structure Request where
  id : Nat
  headers : HeaderMap
  deriving DecidableEq

/-- Where a reload stands. -/
inductive Reload where
  | loaded (config : LoadedControlConfig)
  | swapped (version : String)
  | counted (version : String) (notifiedAgents : Nat)

/-- The state of the server: what is in force, the agents, and where each of its tasks stands. -/
structure Server where
  config : LoadedControlConfig
  agents : Agents
  /-- Every notification broadcast so far, oldest first. -/
  notifications : List ServerControlMessage
  connections : String → Option Connection
  /-- Config fetches between their two reads, with the entry the first one found. -/
  fetches : Request → Option ConnectedAgent
  reloads : Nat → Option Reload

/-- The server at startup. -/
def Server.init (config : LoadedControlConfig) : Server where
  config := config
  agents := ∅
  notifications := []
  connections := fun _ => none
  fetches := fun _ => none
  reloads := fun _ => none

/-- A connection moves on. -/
def Server.setConnection (s : Server) (connectionId : String) (connection : Connection) : Server :=
  { s with connections := Function.update s.connections connectionId (some connection) }

/-- So does a fetch, -/
def Server.setFetch (s : Server) (request : Request) (fetch : Option ConnectedAgent) : Server :=
  { s with fetches := Function.update s.fetches request fetch }

/-- and so does a reload. -/
def Server.setReload (s : Server) (id : Nat) (reload : Option Reload) : Server :=
  { s with reloads := Function.update s.reloads id reload }

namespace Server

@[simp] theorem setConnection_agents (s : Server) (connectionId : String)
    (connection : Connection) : (s.setConnection connectionId connection).agents = s.agents := rfl

/-- One connection leaves the others alone. -/
theorem setConnection_connections (s : Server) (connectionId id : String)
    (connection : Connection) :
    (s.setConnection connectionId connection).connections id =
      if id = connectionId then some connection else s.connections id :=
  Function.update_apply ..

/-- So does one fetch, -/
theorem setFetch_fetches (s : Server) (request r : Request) (fetch : Option ConnectedAgent) :
    (s.setFetch request fetch).fetches r = if r = request then fetch else s.fetches r :=
  Function.update_apply ..

/-- and one reload. -/
theorem setReload_reloads (s : Server) (id i : Nat) (reload : Option Reload) :
    (s.setReload id reload).reloads i = if i = id then reload else s.reloads i :=
  Function.update_apply ..

end Server

/-! ## Handlers -/

/-- The statuses of answers that bring nothing. -/
inductive Status where
  | unauthorized
  | badRequest
  | forbidden
  | internalServerError
  deriving DecidableEq

/-- What the server answers. -/
inductive Answer where
  | status (status : Status)
  | config (runtime : AgentRuntimeConfig)
  | agents (agents : List ConnectedAgent)
  | reloaded (version : String) (notifiedAgents : Nat)
  | message (message : ServerControlMessage)
  /-- The server closes its sending half of a WebSocket. -/
  | close

/-- The entry of the agent, if its connection is the session. -/
def connectedAgentForConfig (agents : Agents) (agentId configSessionId : String) :
    Option ConnectedAgent :=
  agents[agentId]?.filter fun agent => agent.connectionId = configSessionId

/-- A config fetch up to and with its read of the agents map. -/
def agentConfigLookup (env : Env) (agents : Agents) (headers : HeaderMap) :
    Except Status ConnectedAgent :=
  if authorized env.sha256 headers env.agentToken then
    match headerValue headers agentIdHeader, headerValue headers configSessionIdHeader with
    | some agentId, some configSessionId =>
      match connectedAgentForConfig agents agentId configSessionId with
      | some agent => .ok agent
      | none => .error .forbidden
    | _, _ => .error .badRequest
  else .error .unauthorized

/-- A config fetch from its read of the configuration on. -/
def agentConfigAnswer (env : Env) (config : ControlConfigFile) (headers : HeaderMap)
    (agent : ConnectedAgent) : Answer :=
  if agentHasConfigCredential env.sha256 config agent.agentId agent.hostname
      (headerValue headers agentConfigTokenHeader) then
    match config.runtimeConfigFor agent.hostname with
    | .ok runtime => .config runtime
    | .error _ => .status .internalServerError
  else .status .forbidden

/-! ## Steps -/

/-- The steps of the server's tasks, which can be taken in any order. -/
inductive ServerEvent where
  | agentControl (connectionId : String) (headers : HeaderMap)
  | hello (connectionId : String) (hello : AgentHello)
  | register (connectionId : String) (now : UInt64)
  | heartbeat (connectionId : String) (heartbeat : AgentHeartbeat) (now : UInt64)
  | socketEnd (connectionId : String)
  | removeAgent (connectionId : String)
  | agentConfig (request : Request)
  | agentConfigRead (request : Request)
  | adminAgents (headers : HeaderMap)
  | reload (id : Nat) (headers : HeaderMap) (file : Option String)
  | reloadSwap (id : Nat)
  | reloadCount (id : Nat)
  | reloadNotify (id : Nat)

namespace Server

open Transition

variable (env : Env)

/-- A task makes a step. An event that is not the task's next changes nothing. -/
def step (s : Server) : ServerEvent → Server
  | .agentControl connectionId headers =>
    match s.connections connectionId with
    -- Connection ids are fresh.
    | some _ => s
    | none =>
      if authorized env.sha256 headers env.agentToken then
        s.setConnection connectionId
          ⟨headerValue headers agentConfigTokenHeader, none, false, .reading⟩
      else s
  | .hello connectionId hello =>
    match s.connections connectionId with
    | some ⟨token, current, senderClosed, .reading⟩ =>
      if agentHasConfigCredential env.sha256 s.config.config hello.agentId hello.hostname token then
        s.setConnection connectionId ⟨token, current, senderClosed, .registering hello⟩
      else s.setConnection connectionId ⟨token, current, true, .reading⟩
    | _ => s
  | .register connectionId now =>
    match s.connections connectionId with
    | some ⟨token, current, senderClosed, .registering hello⟩ =>
      match registerAgentConnection s.agents connectionId current hello now with
      | some agents =>
        -- Where the sending half is closed, the acknowledgement fails and ends the socket.
        { s with agents := agents }.setConnection connectionId
          ⟨token, some hello.agentId, senderClosed, if senderClosed then .ended else .reading⟩
      | none => s.setConnection connectionId ⟨token, current, true, .reading⟩
    | _ => s
  | .heartbeat connectionId heartbeat now =>
    match s.connections connectionId with
    | some ⟨_, current, _, .reading⟩ =>
      if current = some heartbeat.agentId then
        { s with agents := recordHeartbeat s.agents connectionId heartbeat now }
      else s
    | _ => s
  | .socketEnd connectionId =>
    match s.connections connectionId with
    | some ⟨token, current, senderClosed, .reading⟩ =>
      s.setConnection connectionId ⟨token, current, senderClosed, .ended⟩
    | _ => s
  | .removeAgent connectionId =>
    match s.connections connectionId with
    | some ⟨token, current, senderClosed, .ended⟩ =>
      { s with agents := Talia.removeAgent s.agents connectionId current }.setConnection
        connectionId ⟨token, current, senderClosed, .closed⟩
    | _ => s
  | .agentConfig request =>
    match s.fetches request with
    | some _ => s
    | none =>
      match agentConfigLookup env s.agents request.headers with
      | .ok agent => s.setFetch request (some agent)
      | .error _ => s
  | .agentConfigRead request =>
    match s.fetches request with
    | some _ => s.setFetch request none
    | none => s
  | .adminAgents _ => s
  | .reload id headers file =>
    match s.reloads id with
    | some _ => s
    | none =>
      if authorized env.sha256 headers env.adminToken then
        match loadControlConfig env file with
        | .ok config => s.setReload id (some (.loaded config))
        | .error _ => s
      else s
  | .reloadSwap id =>
    match s.reloads id with
    | some (.loaded config) =>
      { s with config := config }.setReload id (some (.swapped config.sourceVersion))
    | _ => s
  | .reloadCount id =>
    match s.reloads id with
    | some (.swapped version) => s.setReload id (some (.counted version s.agents.size))
    | _ => s
  | .reloadNotify id =>
    match s.reloads id with
    | some (.counted version _) =>
      { s with notifications := s.notifications ++
          [ServerControlMessage.configChanged version] }.setReload id none
    | _ => s

/-- What a step sends to the one who asked. -/
def answer (s : Server) : ServerEvent → Option Answer
  | .agentControl _ headers =>
    if authorized env.sha256 headers env.agentToken then none else some (.status .unauthorized)
  | .hello connectionId hello =>
    match s.connections connectionId with
    | some ⟨token, _, _, .reading⟩ =>
      if agentHasConfigCredential env.sha256 s.config.config hello.agentId hello.hostname token then
        none
      else some .close
    | _ => none
  | .register connectionId now =>
    match s.connections connectionId with
    | some ⟨_, current, senderClosed, .registering hello⟩ =>
      match registerAgentConnection s.agents connectionId current hello now with
      | some _ => if senderClosed then none else some (.message (.helloAck now connectionId))
      | none => some .close
    | _ => none
  | .agentConfig request =>
    match s.fetches request with
    | some _ => none
    | none =>
      match agentConfigLookup env s.agents request.headers with
      | .ok _ => none
      | .error status => some (.status status)
  | .agentConfigRead request =>
    (s.fetches request).map (agentConfigAnswer env s.config.config request.headers)
  | .adminAgents headers =>
    if authorized env.sha256 headers env.adminToken then some (.agents s.agents.values)
    else some (.status .unauthorized)
  | .reload id headers file =>
    match s.reloads id with
    | some _ => none
    | none =>
      if authorized env.sha256 headers env.adminToken then
        match loadControlConfig env file with
        | .ok _ => none
        | .error _ => some (.status .internalServerError)
      else some (.status .unauthorized)
  | .reloadNotify id =>
    match s.reloads id with
    | some (.counted version notifiedAgents) => some (.reloaded version notifiedAgents)
    | _ => none
  | .heartbeat .. | .socketEnd .. | .removeAgent .. | .reloadSwap .. | .reloadCount .. => none

/-! ## What a step can do -/

/-- The steps that change something, each with what was so before it. -/
inductive Acts (s : Server) : ServerEvent → Server → Prop
  | opened {connectionId : String} {headers : HeaderMap}
      (fresh : s.connections connectionId = none) :
      Acts s (.agentControl connectionId headers) (s.setConnection connectionId
        ⟨headerValue headers agentConfigTokenHeader, none, false, .reading⟩)
  | accepted {connectionId : String} {hello : AgentHello} {token current : Option String}
      {senderClosed : Bool}
      (found : s.connections connectionId = some ⟨token, current, senderClosed, .reading⟩)
      (credential : agentHasConfigCredential env.sha256 s.config.config hello.agentId
        hello.hostname token = true) :
      Acts s (.hello connectionId hello)
        (s.setConnection connectionId ⟨token, current, senderClosed, .registering hello⟩)
  | refused {connectionId : String} {hello : AgentHello} {token current : Option String}
      {senderClosed : Bool}
      (found : s.connections connectionId = some ⟨token, current, senderClosed, .reading⟩)
      (credential : agentHasConfigCredential env.sha256 s.config.config hello.agentId
        hello.hostname token = false) :
      Acts s (.hello connectionId hello)
        (s.setConnection connectionId ⟨token, current, true, .reading⟩)
  | registered {connectionId : String} {now : UInt64} {hello : AgentHello}
      {token current : Option String} {senderClosed : Bool} {agents : Agents}
      (found : s.connections connectionId =
        some ⟨token, current, senderClosed, .registering hello⟩)
      (inserted : registerAgentConnection s.agents connectionId current hello now = some agents) :
      Acts s (.register connectionId now) ({ s with agents := agents }.setConnection connectionId
        ⟨token, some hello.agentId, senderClosed, if senderClosed then .ended else .reading⟩)
  | duplicate {connectionId : String} {now : UInt64} {hello : AgentHello}
      {token current : Option String} {senderClosed : Bool}
      (found : s.connections connectionId =
        some ⟨token, current, senderClosed, .registering hello⟩)
      (held : registerAgentConnection s.agents connectionId current hello now = none) :
      Acts s (.register connectionId now)
        (s.setConnection connectionId ⟨token, current, true, .reading⟩)
  | beat {connectionId : String} {heartbeat : AgentHeartbeat} {now : UInt64}
      {token : Option String} {senderClosed : Bool}
      (found : s.connections connectionId =
        some ⟨token, some heartbeat.agentId, senderClosed, .reading⟩) :
      Acts s (.heartbeat connectionId heartbeat now)
        { s with agents := recordHeartbeat s.agents connectionId heartbeat now }
  | ended {connectionId : String} {token current : Option String} {senderClosed : Bool}
      (found : s.connections connectionId = some ⟨token, current, senderClosed, .reading⟩) :
      Acts s (.socketEnd connectionId)
        (s.setConnection connectionId ⟨token, current, senderClosed, .ended⟩)
  | removed {connectionId : String} {token current : Option String} {senderClosed : Bool}
      (found : s.connections connectionId = some ⟨token, current, senderClosed, .ended⟩) :
      Acts s (.removeAgent connectionId)
        ({ s with agents := Talia.removeAgent s.agents connectionId current }.setConnection
          connectionId ⟨token, current, senderClosed, .closed⟩)
  | lookedUp {request : Request} {agent : ConnectedAgent} (fresh : s.fetches request = none)
      (found : agentConfigLookup env s.agents request.headers = .ok agent) :
      Acts s (.agentConfig request) (s.setFetch request (some agent))
  | answered {request : Request} {agent : ConnectedAgent}
      (found : s.fetches request = some agent) :
      Acts s (.agentConfigRead request) (s.setFetch request none)
  | loaded {id : Nat} {headers : HeaderMap} {file : Option String} {config : LoadedControlConfig}
      (fresh : s.reloads id = none) (authorized : authorized env.sha256 headers env.adminToken)
      (found : loadControlConfig env file = .ok config) :
      Acts s (.reload id headers file) (s.setReload id (some (.loaded config)))
  | swapped {id : Nat} {config : LoadedControlConfig}
      (found : s.reloads id = some (.loaded config)) :
      Acts s (.reloadSwap id)
        ({ s with config := config }.setReload id (some (.swapped config.sourceVersion)))
  | counted {id : Nat} {version : String} (found : s.reloads id = some (.swapped version)) :
      Acts s (.reloadCount id) (s.setReload id (some (.counted version s.agents.size)))
  | notified {id : Nat} {version : String} {notifiedAgents : Nat}
      (found : s.reloads id = some (.counted version notifiedAgents)) :
      Acts s (.reloadNotify id)
        ({ s with notifications := s.notifications ++
          [ServerControlMessage.configChanged version] }.setReload id none)

/-- **A step changes nothing or acts.** -/
theorem step_acts (s : Server) (e : ServerEvent) :
    step env s e = s ∨ Acts env s e (step env s e) := by
  cases e with
  | agentControl connectionId headers =>
    rw [step]
    split
    · exact .inl rfl
    · next fresh =>
      split
      · exact .inr (.opened fresh)
      · exact .inl rfl
  | hello connectionId hello =>
    rw [step]
    split
    · next found =>
      split
      · next credential => exact .inr (.accepted found credential)
      · next credential => exact .inr (.refused found (Bool.eq_false_iff.mpr credential))
    · exact .inl rfl
  | register connectionId now =>
    rw [step]
    split
    · next found =>
      split
      · next inserted => exact .inr (.registered found inserted)
      · next held => exact .inr (.duplicate found held)
    · exact .inl rfl
  | heartbeat connectionId heartbeat now =>
    rw [step]
    split
    · next found =>
      split
      · next bound =>
        subst bound
        exact .inr (.beat found)
      · exact .inl rfl
    · exact .inl rfl
  | socketEnd connectionId =>
    rw [step]
    split
    · next found => exact .inr (.ended found)
    · exact .inl rfl
  | removeAgent connectionId =>
    rw [step]
    split
    · next found => exact .inr (.removed found)
    · exact .inl rfl
  | agentConfig request =>
    rw [step]
    split
    · exact .inl rfl
    · next fresh =>
      split
      · next found => exact .inr (.lookedUp fresh found)
      · exact .inl rfl
  | agentConfigRead request =>
    rw [step]
    split
    · next found => exact .inr (.answered found)
    · exact .inl rfl
  | adminAgents headers => exact .inl rfl
  | reload id headers file =>
    rw [step]
    split
    · exact .inl rfl
    · next fresh =>
      split
      · next authorized =>
        split
        · next found => exact .inr (.loaded fresh authorized found)
        · exact .inl rfl
      · exact .inl rfl
  | reloadSwap id =>
    rw [step]
    split
    · next found => exact .inr (.swapped found)
    · exact .inl rfl
  | reloadCount id =>
    rw [step]
    split
    · next found => exact .inr (.counted found)
    · exact .inl rfl
  | reloadNotify id =>
    rw [step]
    split
    · next found => exact .inr (.notified found)
    · exact .inl rfl

/-- What a step makes of the stage that a reload is in. -/
inductive Stages (env : Env) (s : Server) (id : Nat) : ServerEvent → Option Reload → Prop
  | loaded {headers : HeaderMap} {file : Option String} {config : LoadedControlConfig}
    (authorized : authorized env.sha256 headers env.adminToken)
    (found : loadControlConfig env file = .ok config) :
    Stages env s id (.reload id headers file) (some (.loaded config))
  | swapped {config : LoadedControlConfig} (found : s.reloads id = some (.loaded config)) :
    Stages env s id (.reloadSwap id) (some (.swapped config.sourceVersion))
  | counted {version : String} (found : s.reloads id = some (.swapped version)) :
    Stages env s id (.reloadCount id) (some (.counted version s.agents.size))
  | notified {version : String} {notifiedAgents : Nat}
    (found : s.reloads id = some (.counted version notifiedAgents)) :
    Stages env s id (.reloadNotify id) none

/-- **A reload goes to its next stage, or stays in the one it is in.** -/
theorem stages_or_stays (s : Server) (e : ServerEvent) (id : Nat) :
    Stages env s id e ((step env s e).reloads id) ∨ (step env s e).reloads id = s.reloads id := by
  rcases step_acts env s e with same | acts
  · rw [same]
    exact .inr rfl
  generalize step env s e = s' at acts
  -- A step of another request leaves this one.
  have own {id' : Nat} {t : Server} {reload : Option Reload} (same : t.reloads = s.reloads)
      (stages : id = id' → Stages env s id e reload) :
      Stages env s id e ((t.setReload id' reload).reloads id) ∨
        (t.setReload id' reload).reloads id = s.reloads id := by
    rw [setReload_reloads]
    by_cases it : id = id'
    · rw [if_pos it]
      exact .inl (stages it)
    · rw [if_neg it, same]
      exact .inr rfl
  cases acts with
  | loaded _ authorized found =>
    refine own rfl fun it => ?_
    subst it
    exact .loaded authorized found
  | swapped found =>
    refine own rfl fun it => ?_
    subst it
    exact .swapped found
  | counted found =>
    refine own rfl fun it => ?_
    subst it
    exact .counted found
  | notified found =>
    refine own rfl fun it => ?_
    subst it
    exact .notified found
  | _ => exact .inr rfl

/-! ## A server with one agent -/

/-- A server whose digest is the identity. -/
def oneAgentEnv : Env where
  sha256 := id
  fromToml := fun _ => none
  agentToken := "agent-secret"
  adminToken := "admin-secret"
  configPath := none

/-- One agent is enrolled, for one hostname. -/
def oneAgentConfig : LoadedControlConfig where
  sourceVersion := configSourceVersion ""
  config.agents := (∅ : BTreeMap String AgentEnrollment).insert "agent-1"
    ⟨"host-1", some "config-secret"⟩

/-- The agent connects and says hello. -/
def oneAgentRun : List ServerEvent :=
  [.agentControl "connection-1" [headerOf authorizationHeader "Bearer agent-secret",
      headerOf agentConfigTokenHeader "config-secret"],
    .hello "connection-1" ⟨"agent-1", "host-1", "0.1.0", none⟩,
    .register "connection-1" 1]

/-- Its config fetch. -/
def oneAgentRequest : Request where
  id := 0
  headers := [headerOf authorizationHeader "Bearer agent-secret",
    headerOf agentIdHeader "agent-1", headerOf configSessionIdHeader "connection-1",
    headerOf agentConfigTokenHeader "config-secret"]

example : (run (step oneAgentEnv) (init oneAgentConfig) oneAgentRun).agents["agent-1"]? =
    some ⟨"agent-1", "host-1", "0.1.0", none, none, [], 1, 1, "connection-1"⟩ := by
  decide +kernel

end Server

end Talia
