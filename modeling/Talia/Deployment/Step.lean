import Talia.Agent.Refresh
import Talia.Control.Disclosure
import Talia.Lib.Freshness

/-!
# An agent and its control server

The server of `Server.step` and one agent of `Agent.step`, with what is in flight between them: the
fetch of each of the agent's tasks, and the messages of its WebSocket. The server is free to take
any step of its own: other agents connect and fetch, reloads run, and what the agent says on its
WebSocket, its hello and its heartbeats, is handled. A fetch of the agent is handled by the same two
reads as any other (`agentConfigLookup`, `agentConfigAnswer`).

The last three fields of `Deployment` are a record for the reader: how often a configuration was
swapped in, and how often it had been when the configurations on their way to the agent, and the
one it applied last, were resolved. No step depends on them.

Other agents are in the server's own events only.
-/

namespace Talia

/-! ## What the agent sends -/

/-- The part of `AgentIdentity` the agent presents in its fetches. -/
structure AgentIdentity where
  agentId : String

structure ControlClientConfig where
  token : String
  agentConfigToken : Option String

/-- What is fixed while an agent runs against a server. -/
structure Site where
  env : Env
  control : ControlClientConfig
  identity : AgentIdentity

namespace Site

variable (site : Site)

/-- The agent's config token, if it is not blank. -/
def configTokenHeaders : HeaderMap :=
  match (site.control.agentConfigToken.map Text.trim).filter fun token => !token.isEmpty with
  | some token => [headerOf agentConfigTokenHeader token]
  | none => []

/-- The headers of the WebSocket request. -/
def websocketHeaders : HeaderMap :=
  headerOf authorizationHeader ("Bearer " ++ site.control.token) :: site.configTokenHeaders

/-- The headers of a config fetch. -/
def fetchHeaders (configSessionId : String) : HeaderMap :=
  headerOf authorizationHeader ("Bearer " ++ site.control.token) ::
    headerOf agentIdHeader site.identity.agentId ::
    headerOf configSessionIdHeader configSessionId :: site.configTokenHeaders

/-- The agent id the server reads in a fetch. -/
def presentedId : Option String :=
  headerValue [headerOf agentIdHeader site.identity.agentId] agentIdHeader

theorem headerValue_fetchHeaders (configSessionId : String) :
    headerValue (site.fetchHeaders configSessionId) agentIdHeader = site.presentedId := by
  have other : ¬ authorizationHeader = agentIdHeader := by decide
  simp [fetchHeaders, presentedId, headerValue, headerBytes, headerOf, other]

end Site

/-- The body of a response as the agent decodes it. -/
def receivedConfig : Answer → Option AgentRuntimeConfig
  | .config runtime =>
    (Json.parseText (Json.printText Json.compact runtime.serialize)).bind
      (AgentRuntimeConfig.deserialize .json)
  | _ => none

/-- A configuration arrives as it was sent. -/
theorem receivedConfig_config (runtime : AgentRuntimeConfig) :
    receivedConfig (.config runtime) = some runtime := by
  rw [receivedConfig, Json.parseText_printText Json.compact_blank runtime.serialize_fits,
    Option.bind_some, AgentRuntimeConfig.deserialize_serialize]

/-! ## State -/

/-- A fetch of the agent. -/
inductive Flight where
  | sent (headers : HeaderMap)
  /-- Between the server's two reads. -/
  | lookedUp (headers : HeaderMap) (agent : ConnectedAgent)
  | answered (answer : Answer)

/-- The agent's WebSocket: the acknowledgements under way, and how many of the server's
notifications are not: they were sent before it was opened, or have been received. -/
structure Link where
  connectionId : String
  acks : List ServerControlMessage
  seen : Nat

structure Deployment where
  server : Server
  agent : Agent
  flights : Task → Option Flight
  link : Option Link
  swaps : Nat
  resolvedAt : Task → Nat
  appliedAt : Option Nat

namespace Deployment

open Transition

/-- The server and the agent at startup. -/
def init (config : LoadedControlConfig) (bootstrap : AgentBootstrapConfig) (dir : StateDir) :
    Deployment where
  server := Server.init config
  agent := Agent.init bootstrap dir
  flights := fun _ => none
  link := none
  swaps := 0
  resolvedAt := fun _ => 0
  appliedAt := none

def setFlight (s : Deployment) (task : Task) (flight : Option Flight) : Deployment :=
  { s with flights := Function.update s.flights task flight }

theorem setFlight_flights (s : Deployment) (task other : Task) (flight : Option Flight) :
    (s.setFlight task flight).flights other = if other = task then flight else s.flights other :=
  Function.update_apply ..

/-! ## Steps -/

inductive Event where
  /-- The server takes a step of its own. -/
  | server (e : ServerEvent)
  /-- The agent opens its WebSocket. -/
  | connect (connectionId : String)
  /-- The agent receives an acknowledgement. -/
  | acknowledge
  /-- The agent receives a notification. -/
  | notify
  /-- The agent's WebSocket ends. -/
  | disconnect
  | poll
  /-- The server reads the agents map for a fetch of the agent. -/
  | lookup (task : Task)
  /-- The server reads the configuration for it. -/
  | read (task : Task)
  /-- The agent receives the response. -/
  | receive (task : Task)
  /-- The fetch fails on its way. -/
  | fail (task : Task)
  | validate (task : Task)
  | save (task : Task) (fault : Option SaveFault)
  | apply (task : Task)

variable (site : Site)

/-- The acknowledgement of a hello on the WebSocket, if the step sends one. -/
def acknowledgement (server : Server) (e : ServerEvent) (link : Link) :
    List ServerControlMessage :=
  match e with
  | .register connectionId _ =>
    if connectionId = link.connectionId then
      match Server.answer site.env server e with
      | some (.message message) => [message]
      | _ => []
    else []
  | _ => []

/-- The configuration a step swaps in. -/
def swappedIn (server : Server) : ServerEvent → Option LoadedControlConfig
  | .reloadSwap id =>
    match server.reloads id with
    | some (.loaded config) => some config
    | _ => none
  | _ => none

/-- A step of the agent that may start a refresh of the task. -/
def launch (s : Deployment) (task : Task) (e : Agent.Event) : Deployment :=
  let agent := s.agent.step e
  match s.agent.refresh task, agent.refresh task with
  | .idle, .requested configSessionId =>
    { s with agent := agent }.setFlight task (some (.sent (site.fetchHeaders configSessionId)))
  | _, _ => { s with agent := agent }

def step (s : Deployment) : Event → Deployment
  | .server e =>
    { s with
      server := Server.step site.env s.server e
      link := s.link.map fun link =>
        { link with acks := link.acks ++ acknowledgement site s.server e link }
      swaps := if (swappedIn s.server e).isSome then s.swaps + 1 else s.swaps }
  | .connect connectionId =>
    match s.link, s.server.connections connectionId with
    | none, none =>
      if authorized site.env.sha256 site.websocketHeaders site.env.agentToken then
        { s with
          server :=
            Server.step site.env s.server (.agentControl connectionId site.websocketHeaders)
          link := some ⟨connectionId, [], s.server.notifications.length⟩ }
      else s
    | _, _ => s
  -- The WebSocket task receives nothing while it refreshes.
  | .acknowledge =>
    match s.agent.refresh .websocket, s.link with
    | .idle, some ⟨connectionId, message :: acks, seen⟩ =>
      { s with link := some ⟨connectionId, acks, seen⟩ }.launch site .websocket
        (.message message)
    | _, _ => s
  | .notify =>
    match s.agent.refresh .websocket, s.link with
    | .idle, some ⟨connectionId, acks, seen⟩ =>
      match s.server.notifications[seen]? with
      | some message =>
        { s with link := some ⟨connectionId, acks, seen + 1⟩ }.launch site .websocket
          (.message message)
      | none => s
    | _, _ => s
  | .disconnect =>
    match s.agent.refresh .websocket with
    | .idle => { s with link := none, agent := s.agent.step .websocketEnd }
    | _ => s
  | .poll => s.launch site .poll .poll
  | .lookup task =>
    match s.flights task with
    | some (.sent headers) =>
      match agentConfigLookup site.env s.server.agents headers with
      | .ok agent => s.setFlight task (some (.lookedUp headers agent))
      | .error status => s.setFlight task (some (.answered (.status status)))
    | _ => s
  | .read task =>
    match s.flights task with
    | some (.lookedUp headers agent) =>
      { s with resolvedAt := Function.update s.resolvedAt task s.swaps }.setFlight task
        (some (.answered (agentConfigAnswer site.env s.server.config.config headers agent)))
    | _ => s
  | .receive task =>
    match s.flights task with
    | some (.answered answer) =>
      { s with agent := s.agent.step (.response task (receivedConfig answer)) }.setFlight task none
    | _ => s
  | .fail task =>
    match s.flights task with
    | some _ => { s with agent := s.agent.step (.response task none) }.setFlight task none
    | none => s
  | .validate task => { s with agent := s.agent.step (.validate task) }
  | .save task fault => { s with agent := s.agent.step (.save task fault) }
  | .apply task =>
    match s.agent.refresh task with
    | .saved _ =>
      { s with agent := s.agent.step (.apply task), appliedAt := some (s.resolvedAt task) }
    | _ => s

end Deployment

end Talia
