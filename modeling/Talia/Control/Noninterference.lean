import Talia.Control.Separation

/-!
# Agents do not interfere

Fix an agent id and the tokens enrolled for it while a run goes on, none of them ever enrolled for
another id. `SameView` says that two servers agree on what the agent can see: its entry, the
connections opened with its tokens, the fetches made for it. `SameConfig` says that their
configurations, in force and loaded, have the same `view`.

The steps of a run are of two kinds. A step that is `kept` reads and writes what both servers agree
on, so it takes related servers to related ones and answers the agent alike; a step that is dropped
writes nothing the agent sees. Unwinding gives the first result: a run and the run without the steps
of the connections and fetches that present other tokens show the agent the same. Lockstep gives the
second: so do two runs whose configurations differ outside of what resolves for the agent.

How long an answer takes is no part of what the agent sees here.
-/

namespace Talia

/-! ## What a configuration says of one agent -/

/-- The enrollment of an agent, and what its hostname resolves from. -/
structure AgentView where
  enrollment : Option AgentEnrollment
  defaults : HostConfigOverride
  host : Option HostConfigOverride

def ControlConfigFile.agentView (file : ControlConfigFile) (agentId : String) : AgentView where
  enrollment := file.agents[agentId]?
  defaults := file.defaults
  host := file.agents[agentId]?.bind fun agent => file.hosts[agent.hostname]?

/-- The token enrolled for an agent. -/
def ControlConfigFile.configToken (file : ControlConfigFile) (agentId : String) : Option String :=
  file.agents[agentId]?.bind AgentEnrollment.configToken

/-- A file gives an agent the token it enrolls it with. -/
theorem ControlConfigFile.configToken_eq_some {file : ControlConfigFile}
    {agentId token : String} :
    file.configToken agentId = some token ↔ file.EnrollsToken agentId token :=
  Option.bind_eq_some_iff

section AgentView

variable {file file' : ControlConfigFile} {agentId : String}
  (view : file.agentView agentId = file'.agentView agentId)

include view

/-- Files that an agent sees alike give it the same token. -/
theorem configToken_congr : file.configToken agentId = file'.configToken agentId := by
  have enrollment : file.agents[agentId]? = file'.agents[agentId]? :=
    congrArg AgentView.enrollment view
  rw [ControlConfigFile.configToken, ControlConfigFile.configToken, enrollment]

/-- They accept the same credentials of it. -/
theorem agentHasConfigCredential_congr (sha256 : ByteArray → ByteArray) (hostname : String)
    (token : Option String) :
    agentHasConfigCredential sha256 file agentId hostname token =
      agentHasConfigCredential sha256 file' agentId hostname token := by
  have enrollment : file.agents[agentId]? = file'.agents[agentId]? :=
    congrArg AgentView.enrollment view
  simp only [agentHasConfigCredential, ControlConfigFile.agentIsEnrolledForHostname,
    ControlConfigFile.agentConfigTokenMatches, enrollment]

/-- The answer to a fetch rests on the view of the agent whose entry was found. -/
theorem agentConfigAnswer_congr (env : Env) (headers : HeaderMap) {agent : ConnectedAgent}
    (filed : agent.agentId = agentId) :
    agentConfigAnswer env file headers agent = agentConfigAnswer env file' headers agent := by
  subst filed
  have enrollment : file.agents[agent.agentId]? = file'.agents[agent.agentId]? :=
    congrArg AgentView.enrollment view
  have host := congrArg AgentView.host view
  rw [agentConfigAnswer, agentConfigAnswer, agentHasConfigCredential_congr view]
  split
  next credential =>
    -- The credential names the enrolled hostname, whose overrides are in the view.
    have bound := (Bool.and_eq_true_iff.mp credential).1
    unfold ControlConfigFile.agentIsEnrolledForHostname at bound
    cases enrolled : file'.agents[agent.agentId]? with
    | none =>
      rw [enrolled] at bound
      cases bound
    | some enrollment' =>
      rw [enrolled] at bound
      have named : enrollment'.hostname = agent.hostname := of_decide_eq_true bound
      simp only [ControlConfigFile.agentView, enrollment, enrolled, Option.bind_some, named]
        at host
      rw [ControlConfigFile.runtimeConfigFor_congr (congrArg AgentView.defaults view) host]
  next => rfl

end AgentView

/-! ## What is the same for the agent -/

/-- Two reloads have come equally far; what they loaded has the same view. -/
inductive Reload.Alike {κ : Type} (view : ControlConfigFile → κ) : Reload → Reload → Prop
  | loaded {config config' : LoadedControlConfig} (same : view config.config = view config'.config) :
      Alike view (.loaded config) (.loaded config')
  | swapped (version version' : String) : Alike view (.swapped version) (.swapped version')
  | counted (version version' : String) (notifiedAgents notifiedAgents' : Nat) :
      Alike view (.counted version notifiedAgents) (.counted version' notifiedAgents')

/-- A connection, or only the token it was opened with if that is none of the list. -/
def Connection.blind (tokens : List String) (connection : Connection) : Connection :=
  if presents tokens connection.agentConfigToken then connection
  else ⟨connection.agentConfigToken, none, false, .reading⟩

/-- The same step of two servers: equal, or two reloads that fail, or load files of one view. -/
inductive ServerEvent.Alike {κ : Type} (env : Env) (view : ControlConfigFile → κ) :
    ServerEvent → ServerEvent → Prop
  | same (e : ServerEvent) : Alike env view e e
  | reload (id : Nat) (headers : HeaderMap) {file file' : Option String}
      (loads : (loadControlConfig env file).toOption.map (view ·.config) =
        (loadControlConfig env file').toOption.map (view ·.config)) :
      Alike env view (.reload id headers file) (.reload id headers file')

/-- The step is of a reload. -/
def ServerEvent.isReload : ServerEvent → Bool
  | .reload .. | .reloadSwap .. | .reloadCount .. | .reloadNotify .. => true
  | _ => false

namespace Server

open Transition

/-- The configurations in force have the same view, and so have the loaded ones. -/
structure SameConfig {κ : Type} (view : ControlConfigFile → κ) (s s' : Server) : Prop where
  config : view s.config.config = view s'.config.config
  reloads : ∀ id, Option.Rel (Reload.Alike view) (s.reloads id) (s'.reloads id)

/-- The request is made for the agent. -/
def isFor (agentId : String) (request : Request) : Bool :=
  headerValue request.headers agentIdHeader = some agentId

/-- The servers agree on the agent's entry, on the connections opened with its tokens, and on the
fetches made for it that `fetch` is true of. -/
structure SameView (agentId : String) (tokens : List String) (fetch : Request → Bool)
    (s s' : Server) : Prop where
  entry : s.agents[agentId]? = s'.agents[agentId]?
  connections : ∀ id, (s.connections id).map (Connection.blind tokens) =
    (s'.connections id).map (Connection.blind tokens)
  fetches : ∀ request, isFor agentId request = true → fetch request = true →
    s.fetches request = s'.fetches request

/-- The token a connection was opened with. -/
def token (s : Server) (connectionId : String) : Option String :=
  (s.connections connectionId).bind Connection.agentConfigToken

/-- The fetch presents one of the tokens. -/
def fetchPresents (tokens : List String) (request : Request) : Bool :=
  presents tokens (headerValue request.headers agentConfigTokenHeader)

/-- A step is kept unless it is of a connection opened with none of the tokens, or of a fetch that
`fetch` is false of. -/
def kept (tokens : List String) (fetch : Request → Bool) (s : Server) : ServerEvent → Bool
  | .hello connectionId _ | .register connectionId _ | .heartbeat connectionId _ _
  | .socketEnd connectionId | .removeAgent connectionId => presents tokens (s.token connectionId)
  | .agentConfig request | .agentConfigRead request => fetch request
  | .agentControl .. | .adminAgents .. => true
  | .reload .. | .reloadSwap .. | .reloadCount .. | .reloadNotify .. => true

/-- What a fetch for the agent is answered. -/
def answerTo (env : Env) (agentId : String) (s : Server) : ServerEvent → Option Answer
  | .agentConfig request =>
    if isFor agentId request then answer env s (.agentConfig request) else none
  | .agentConfigRead request =>
    if isFor agentId request then answer env s (.agentConfigRead request) else none
  | _ => none

variable {env : Env}

/-! ## Configurations -/

/-- A step that is not of a reload leaves the configurations as they are. -/
theorem reloads_frame (s : Server) {e : ServerEvent} (other : e.isReload = false) :
    (step env s e).config = s.config ∧ (step env s e).reloads = s.reloads := by
  rcases step_acts env s e with same | acts
  · rw [same]
    exact ⟨rfl, rfl⟩
  generalize step env s e = s' at acts
  cases acts with
  | loaded | swapped | counted | notified => cases other
  | _ => exact ⟨rfl, rfl⟩

section SameConfig

variable {κ : Type} {view : ControlConfigFile → κ} {s s' : Server}

/-- A reload that goes on alike in both keeps the configurations alike. -/
theorem SameConfig.setReload (same : SameConfig view s s') (id : Nat)
    {reload reload' : Option Reload} (alike : Option.Rel (Reload.Alike view) reload reload') :
    SameConfig view (s.setReload id reload) (s'.setReload id reload') where
  config := same.config
  reloads := by
    intro other
    rw [setReload_reloads, setReload_reloads]
    split
    · exact alike
    · exact same.reloads other

/-- **Alike steps keep the views of the configurations the same.** -/
theorem sameConfig_step (same : SameConfig view s s') {e e' : ServerEvent}
    (alike : e.Alike env view e') : SameConfig view (step env s e) (step env s' e') := by
  -- The first step of a reload, its two files loading alike.
  have first : ∀ {id headers file file'},
      (loadControlConfig env file).toOption.map (view ·.config) =
        (loadControlConfig env file').toOption.map (view ·.config) →
      SameConfig view (step env s (.reload id headers file))
        (step env s' (.reload id headers file')) := by
    intro id headers file file' loads
    have stage := same.reloads id
    rw [step, step]
    generalize s.reloads id = reload, s'.reloads id = reload' at stage
    cases stage with
    | some => exact same
    | none =>
      by_cases auth : authorized env.sha256 headers env.adminToken = true
      · simp only [auth, if_true]
        cases load : loadControlConfig env file with
        | error e =>
          cases load' : loadControlConfig env file' with
          | error e' => exact same
          | ok config' =>
            rw [load, load'] at loads
            cases loads
        | ok config =>
          cases load' : loadControlConfig env file' with
          | error e' =>
            rw [load, load'] at loads
            cases loads
          | ok config' =>
            rw [load, load'] at loads
            exact same.setReload id (.some (.loaded (Option.some.inj loads)))
      · rw [if_neg auth, if_neg auth]
        exact same
  cases alike with
  | reload id headers loads => exact first loads
  | same =>
    cases other : e.isReload with
    | false =>
      obtain ⟨config, reloads⟩ := reloads_frame s other
      obtain ⟨config', reloads'⟩ := reloads_frame s' other
      exact ⟨by rw [config, config', same.config], by rw [reloads, reloads']; exact same.reloads⟩
    | true =>
      cases e with
      | reload id headers file => exact first rfl
      | reloadSwap id =>
        have stage := same.reloads id
        rw [step, step]
        generalize s.reloads id = reload, s'.reloads id = reload' at stage
        cases stage with
        | none => exact same
        | some stage =>
          cases stage with
          | @loaded config config' loads =>
            have swapped : SameConfig view { s with config := config }
              { s' with config := config' } := ⟨loads, same.reloads⟩
            exact swapped.setReload id (.some (.swapped _ _))
          | swapped | counted => exact same
      | reloadCount id =>
        have stage := same.reloads id
        rw [step, step]
        generalize s.reloads id = reload, s'.reloads id = reload' at stage
        cases stage with
        | none => exact same
        | some stage =>
          cases stage with
          | swapped => exact same.setReload id (.some (.counted _ _ _ _))
          | loaded | counted => exact same
      | reloadNotify id =>
        have stage := same.reloads id
        rw [step, step]
        generalize s.reloads id = reload, s'.reloads id = reload' at stage
        cases stage with
        | none => exact same
        | some stage =>
          cases stage with
          | counted version version' =>
            have notified : SameConfig view
                { s with notifications := s.notifications ++ [.configChanged version] }
                { s' with notifications := s'.notifications ++ [.configChanged version'] } :=
              ⟨same.config, same.reloads⟩
            exact notified.setReload id .none
          | loaded | swapped => exact same
      | _ => cases other

end SameConfig

/-! ## The agent's part of the state -/

section SameView

variable {agentId : String} {tokens : List String} {fetch : Request → Bool} {s s' : Server}

/-- Views are alike both ways. -/
theorem SameView.symm (same : SameView agentId tokens fetch s s') :
    SameView agentId tokens fetch s' s where
  entry := same.entry.symm
  connections := fun id => (same.connections id).symm
  fetches := fun request made shown => (same.fetches request made shown).symm

/-- Blinding a connection keeps the token it presented. -/
theorem blind_agentConfigToken (connection : Connection) :
    (connection.blind tokens).agentConfigToken = connection.agentConfigToken := by
  unfold Connection.blind
  split <;> rfl

/-- A connection with one of the agent's tokens is not blinded. -/
theorem blind_of_presents {connection : Connection}
    (own : presents tokens connection.agentConfigToken = true) :
    connection.blind tokens = connection := if_pos own

/-- Connections are opened with the same tokens. -/
theorem SameView.token (same : SameView agentId tokens fetch s s') (id : String) :
    s.token id = s'.token id := by
  have seen := congrArg (Option.bind · Connection.agentConfigToken) (same.connections id)
  simp only [Option.bind_map, Function.comp_def, blind_agentConfigToken] at seen
  exact seen

/-- A connection opened with one of the tokens is the same. -/
theorem SameView.connection (same : SameView agentId tokens fetch s s') {id : String}
    (own : presents tokens (s.token id) = true) : s'.connections id = s.connections id := by
  have seen := same.connections id
  have own' : presents tokens (s'.token id) = true := by rw [← same.token id, own]
  unfold Server.token at own own'
  cases found : s.connections id with
  | none =>
    rw [found] at own
    cases own
  | some connection =>
    cases found' : s'.connections id with
    | none =>
      rw [found'] at own'
      cases own'
    | some connection' =>
      rw [found] at own
      rw [found'] at own'
      rw [found, found', Option.map_some, Option.map_some, blind_of_presents own,
        blind_of_presents own'] at seen
      exact seen.symm

/-- A connection that is alike in both once blinded keeps the views alike. -/
theorem SameView.setConnection (same : SameView agentId tokens fetch s s') (id : String)
    {connection connection' : Connection}
    (h : connection.blind tokens = connection'.blind tokens) :
    SameView agentId tokens fetch (s.setConnection id connection)
      (s'.setConnection id connection') where
  entry := same.entry
  connections := by
    intro other
    rw [setConnection_connections, setConnection_connections]
    split
    · exact congrArg some h
    · exact same.connections other
  fetches := same.fetches

/-- So do the agents, if the agent's own entry is the same. -/
theorem SameView.setAgents (same : SameView agentId tokens fetch s s') {agents agents' : Agents}
    (entry : agents[agentId]? = agents'[agentId]?) :
    SameView agentId tokens fetch { s with agents := agents } { s' with agents := agents' } where
  entry := entry
  connections := same.connections
  fetches := same.fetches

/-- So does what a fetch has found, if it is not for the agent. -/
theorem SameView.setFetch (same : SameView agentId tokens fetch s s') (request : Request)
    {found found' : Option ConnectedAgent}
    (h : isFor agentId request = true → fetch request = true → found = found') :
    SameView agentId tokens fetch (s.setFetch request found) (s'.setFetch request found') where
  entry := same.entry
  connections := same.connections
  fetches := by
    intro other made shown
    rw [setFetch_fetches, setFetch_fetches]
    split
    next this =>
      subst this
      exact h made shown
    next => exact same.fetches other made shown

/-- What changes of a fetch that is not shown is not seen. -/
theorem SameView.otherFetch (same : SameView agentId tokens fetch s s') {request : Request}
    (other : isFor agentId request = true → fetch request = false)
    (found : Option ConnectedAgent) :
    SameView agentId tokens fetch (s.setFetch request found) s' where
  entry := same.entry
  connections := same.connections
  fetches := by
    intro r made shown
    rw [setFetch_fetches, if_neg, same.fetches r made shown]
    rintro rfl
    exact Bool.false_ne_true ((other made).symm.trans shown)

/-- A step of a fetch that is not shown writes nothing the agent sees. -/
theorem SameView.otherFetchStep (same : SameView agentId tokens fetch s s') {request : Request}
    (other : isFor agentId request = true → fetch request = false) {e : ServerEvent}
    (of : e = .agentConfig request ∨ e = .agentConfigRead request) :
    SameView agentId tokens fetch (step env s e) s' := by
  rcases step_acts env s e with unchanged | acts
  · rw [unchanged]
    exact same
  generalize step env s e = t at acts
  rcases of with rfl | rfl
  · cases acts with
    | lookedUp => exact same.otherFetch other _
  · cases acts with
    | answered => exact same.otherFetch other _

/-- A step of a reload writes nothing the agent sees. -/
theorem SameView.reload (same : SameView agentId tokens fetch s s') {e : ServerEvent}
    (isReload : e.isReload = true) : SameView agentId tokens fetch (step env s e) s' := by
  rcases step_acts env s e with unchanged | acts
  · rw [unchanged]
    exact same
  generalize step env s e = t at acts
  cases acts with
  | loaded | swapped | counted | notified => exact ⟨same.entry, same.connections, same.fetches⟩
  | _ => cases isReload

/-! ### Steps that are kept -/

/-- Both servers turn a hello away that presents one of the tokens, or neither does. -/
theorem credential_congr (inj : Function.Injective env.sha256)
    (sound : s.config.config.Sound agentId tokens) (sound' : s'.config.config.Sound agentId tokens)
    (config : s.config.config.agentView agentId = s'.config.config.agentView agentId)
    {token : Option String} (own : presents tokens token = true) (id hostname : String) :
    agentHasConfigCredential env.sha256 s.config.config id hostname token =
      agentHasConfigCredential env.sha256 s'.config.config id hostname token := by
  by_cases same : id = agentId
  · subst same
    exact agentHasConfigCredential_congr config env.sha256 hostname token
  · -- The tokens are enrolled for the agent only.
    have refused : ∀ {file : ControlConfigFile}, file.Sound agentId tokens →
        agentHasConfigCredential env.sha256 file id hostname token = false :=
      fun sound => Bool.eq_false_iff.mpr fun credential =>
        same ((presents_iff_of_credential inj sound credential).mp own)
    rw [refused sound, refused sound']

/-- Registering depends on the agent's own entry only. -/
theorem registerAgentConnection_congr {agents agents' : Agents} (connectionId : String)
    (current : Option String) (hello : AgentHello) (now : UInt64)
    (entry : agents[hello.agentId]? = agents'[hello.agentId]?) :
    (registerAgentConnection agents connectionId current hello now).map (·[hello.agentId]?) =
      (registerAgentConnection agents' connectionId current hello now).map
        (·[hello.agentId]?) := by
  rw [registerAgentConnection_eq, registerAgentConnection_eq, entry]
  split
  · rfl
  · simp only [Option.map_some, BTreeMap.get_insert, if_true]

/-- So does a heartbeat. -/
theorem recordHeartbeat_congr {agents agents' : Agents} (connectionId : String)
    (heartbeat : AgentHeartbeat) (now : UInt64) (entry : agents[agentId]? = agents'[agentId]?) :
    (recordHeartbeat agents connectionId heartbeat now)[agentId]? =
      (recordHeartbeat agents' connectionId heartbeat now)[agentId]? := by
  rw [recordHeartbeat_get, recordHeartbeat_get, heldBy, heldBy, entry]

/-- So does the end of a connection. -/
theorem removeAgent_congr {agents agents' : Agents} (connectionId : String)
    (current : Option String) (entry : agents[agentId]? = agents'[agentId]?) :
    (removeAgent agents connectionId current)[agentId]? =
      (removeAgent agents' connectionId current)[agentId]? := by
  rw [removeAgent_get, removeAgent_get, heldBy, heldBy, entry]

/-- A lookup for the agent reads its entry only. -/
theorem agentConfigLookup_congr {agents agents' : Agents}
    (entry : agents[agentId]? = agents'[agentId]?) {request : Request}
    (made : isFor agentId request = true) :
    agentConfigLookup env agents request.headers =
      agentConfigLookup env agents' request.headers := by
  have named : headerValue request.headers agentIdHeader = some agentId := of_decide_eq_true made
  simp only [agentConfigLookup, connectedAgentForConfig, named]
  cases headerValue request.headers configSessionIdHeader with
  | none => rfl
  | some configSessionId => simp only [entry]

/-- Opening a connection keeps the views alike. -/
theorem sameView_agentControl (same : SameView agentId tokens fetch s s') (connectionId : String)
    (headers : HeaderMap) :
    SameView agentId tokens fetch (step env s (.agentControl connectionId headers))
      (step env s' (.agentControl connectionId headers)) := by
  have seen := same.connections connectionId
  rw [step, step]
  cases found : s.connections connectionId with
  | some connection =>
    cases found' : s'.connections connectionId with
    | some connection' => exact same
    | none =>
      rw [found, found'] at seen
      cases seen
  | none =>
    cases found' : s'.connections connectionId with
    | some connection' =>
      rw [found, found'] at seen
      cases seen
    | none =>
      by_cases auth : authorized env.sha256 headers env.agentToken = true
      · simp only [auth, if_true]
        exact same.setConnection connectionId rfl
      · simp only [auth]
        exact same

/-- A hello does, whose credential the two configurations judge alike. -/
theorem sameView_hello (inj : Function.Injective env.sha256) (sep : s.Separated agentId tokens)
    (sep' : s'.Separated agentId tokens)
    (config : s.config.config.agentView agentId = s'.config.config.agentView agentId)
    (same : SameView agentId tokens fetch s s') {connectionId : String} {hello : AgentHello}
    (own : kept tokens fetch s (.hello connectionId hello) = true) :
    SameView agentId tokens fetch (step env s (.hello connectionId hello))
      (step env s' (.hello connectionId hello)) := by
  have equal := same.connection own
  rw [step, step, equal]
  rw [kept, token] at own
  cases found : s.connections connectionId with
  | none => exact same
  | some connection =>
    obtain ⟨token, current, senderClosed, phase⟩ := connection
    rw [found] at own
    cases phase with
    | reading =>
      have own : presents tokens token = true := own
      simp only [credential_congr inj sep.sound sep'.sound config own]
      split
      · exact same.setConnection connectionId rfl
      · exact same.setConnection connectionId rfl
    | registering | ended | closed => exact same

/-- Registering does. -/
theorem sameView_register (sep : s.Separated agentId tokens)
    (same : SameView agentId tokens fetch s s') {connectionId : String} {now : UInt64}
    (own : kept tokens fetch s (.register connectionId now) = true) :
    SameView agentId tokens fetch (step env s (.register connectionId now))
      (step env s' (.register connectionId now)) := by
  have equal := same.connection own
  rw [step, step, equal]
  rw [kept, token] at own
  cases found : s.connections connectionId with
  | none => exact same
  | some connection =>
    obtain ⟨token, current, senderClosed, phase⟩ := connection
    rw [found] at own
    cases phase with
    | registering hello =>
      -- A connection with one of the tokens says hello as the agent.
      have named : hello.agentId = agentId :=
        (sep.claims connectionId _ hello.agentId found (.inr ⟨hello, rfl, rfl⟩)).mp own
      subst named
      have congr := registerAgentConnection_congr connectionId current hello now same.entry
      cases inserted : registerAgentConnection s.agents connectionId current hello now with
      | none =>
        cases inserted' : registerAgentConnection s'.agents connectionId current hello now with
        | none =>
          simp only [inserted, inserted']
          exact same.setConnection connectionId rfl
        | some agents' =>
          rw [inserted, inserted'] at congr
          cases congr
      | some agents =>
        cases inserted' : registerAgentConnection s'.agents connectionId current hello now with
        | none =>
          rw [inserted, inserted'] at congr
          cases congr
        | some agents' =>
          rw [inserted, inserted'] at congr
          simp only [inserted, inserted']
          exact (same.setAgents (Option.some.inj congr)).setConnection connectionId rfl
    | reading | ended | closed => exact same

/-- **A step that is kept does the same to what the agent sees.** -/
theorem sameView_kept (inj : Function.Injective env.sha256) (sep : s.Separated agentId tokens)
    (sep' : s'.Separated agentId tokens)
    (config : s.config.config.agentView agentId = s'.config.config.agentView agentId)
    (same : SameView agentId tokens fetch s s') (e : ServerEvent)
    (own : kept tokens fetch s e = true) :
    SameView agentId tokens fetch (step env s e) (step env s' e) := by
  cases e with
  | agentControl connectionId headers => exact sameView_agentControl same connectionId headers
  | hello connectionId hello => exact sameView_hello inj sep sep' config same own
  | register connectionId now => exact sameView_register sep same own
  | heartbeat connectionId heartbeat now =>
    have equal := same.connection own
    rw [step, step, equal]
    split
    · split
      · exact same.setAgents (recordHeartbeat_congr connectionId heartbeat now same.entry)
      · exact same
    · exact same
  | socketEnd connectionId =>
    have equal := same.connection own
    rw [step, step, equal]
    split
    · exact same.setConnection connectionId rfl
    · exact same
  | removeAgent connectionId =>
    have equal := same.connection own
    rw [step, step, equal]
    split
    · exact (same.setAgents (removeAgent_congr connectionId _ same.entry)).setConnection
        connectionId rfl
    · exact same
  | agentConfig request =>
    by_cases made : isFor agentId request = true
    · rw [step, step, same.fetches request made own, agentConfigLookup_congr same.entry made]
      split
      · exact same
      · split
        · exact same.setFetch request fun _ _ => rfl
        · exact same
    · have other : isFor agentId request = true → fetch request = false := fun h => absurd h made
      exact ((same.otherFetchStep other (.inl rfl)).symm.otherFetchStep other (.inl rfl)).symm
  | agentConfigRead request =>
    by_cases made : isFor agentId request = true
    · rw [step, step, same.fetches request made own]
      split
      · exact same.setFetch request fun _ _ => rfl
      · exact same
    · have other : isFor agentId request = true → fetch request = false := fun h => absurd h made
      exact ((same.otherFetchStep other (.inr rfl)).symm.otherFetchStep other (.inr rfl)).symm
  | adminAgents headers => exact same
  | reload | reloadSwap | reloadCount | reloadNotify => exact ((same.reload rfl).symm.reload rfl).symm

/-! ### Steps that are dropped -/

/-- What changes of a connection opened with another token is not seen. -/
theorem SameView.otherConnection (same : SameView agentId tokens fetch s s') {id : String}
    {before after : Connection} (found : s.connections id = some before)
    (foreign : presents tokens (s.token id) = false)
    (kept : after.agentConfigToken = before.agentConfigToken) :
    SameView agentId tokens fetch (s.setConnection id after) s' where
  entry := same.entry
  connections := by
    intro other
    rw [← same.connections other, setConnection_connections]
    split
    next this =>
      subst this
      rw [Server.token, found, Option.bind_some] at foreign
      simp only [found, Option.map_some, Connection.blind, kept, foreign, Bool.false_eq_true,
        if_false]
    next => rfl
  fetches := same.fetches

/-- A map with the same entry of the agent is as good. -/
theorem SameView.otherAgents (same : SameView agentId tokens fetch s s') {agents : Agents}
    (entry : agents[agentId]? = s.agents[agentId]?) :
    SameView agentId tokens fetch { s with agents := agents } s' :=
  ⟨entry.trans same.entry, same.connections, same.fetches⟩

/-- **A step that is dropped does nothing to what the agent sees.** -/
theorem sameView_dropped (sep : s.Separated agentId tokens)
    (same : SameView agentId tokens fetch s s') {e : ServerEvent}
    (dropped : kept tokens fetch s e = false) :
    SameView agentId tokens fetch (step env s e) s' := by
  -- A connection opened with another token never claims the agent's id.
  have foreign : ∀ {connectionId connection id}, s.connections connectionId = some connection →
      presents tokens (s.token connectionId) = false → connection.Claims id → id ≠ agentId := by
    rintro connectionId connection id found absent claim rfl
    rw [Server.token, found, Option.bind_some] at absent
    exact Bool.false_ne_true
      (absent.symm.trans ((sep.claims connectionId connection id found claim).mpr rfl))
  rcases step_acts env s e with unchanged | acts
  · rw [unchanged]
    exact same
  generalize step env s e = t at acts
  cases acts with
  | opened | loaded | swapped | counted | notified => cases dropped
  | accepted found => exact same.otherConnection found dropped rfl
  | refused found => exact same.otherConnection found dropped rfl
  | duplicate found => exact same.otherConnection found dropped rfl
  | ended found => exact same.otherConnection found dropped rfl
  | @registered connectionId now hello token current senderClosed agents found inserted =>
    have other : hello.agentId ≠ agentId := foreign found dropped (.inr ⟨hello, rfl, rfl⟩)
    obtain ⟨-, get⟩ := registerAgentConnection_get inserted
    have entry : agents[agentId]? = s.agents[agentId]? := by
      rw [get, if_neg other, if_neg]
      rintro ⟨rfl, -⟩
      exact foreign found dropped (.inl rfl) rfl
    exact (same.otherAgents entry).otherConnection found dropped rfl
  | @beat connectionId heartbeat now token senderClosed found =>
    have other : heartbeat.agentId ≠ agentId := foreign found dropped (.inl rfl)
    refine same.otherAgents ?_
    rw [recordHeartbeat_get, if_neg (fun h => other h.1)]
  | @removed connectionId token current senderClosed found =>
    have entry : (Talia.removeAgent s.agents connectionId current)[agentId]? =
        s.agents[agentId]? := by
      rw [removeAgent_get, if_neg]
      rintro ⟨rfl, -⟩
      exact foreign found dropped (.inl rfl) rfl
    exact (same.otherAgents entry).otherConnection found dropped rfl
  | lookedUp => exact same.otherFetch (fun _ => dropped) _
  | answered => exact same.otherFetch (fun _ => dropped) _

/-! ### Answers -/

/-- **A step that is kept answers the agent alike.** -/
theorem answerTo_congr (sep : s.Separated agentId tokens)
    (config : s.config.config.agentView agentId = s'.config.config.agentView agentId)
    (same : SameView agentId tokens fetch s s') (e : ServerEvent)
    (own : kept tokens fetch s e = true) :
    answerTo env agentId s e = answerTo env agentId s' e := by
  cases e with
  | agentConfig request =>
    by_cases made : isFor agentId request = true
    · rw [answerTo, answerTo, answer, answer, same.fetches request made own,
        agentConfigLookup_congr same.entry made]
    · rw [answerTo, answerTo, if_neg made, if_neg made]
  | agentConfigRead request =>
    by_cases made : isFor agentId request = true
    · rw [answerTo, answerTo, answer, answer, ← same.fetches request made own]
      cases pending : s.fetches request with
      | none => rfl
      | some agent =>
        -- The entry found for the agent is filed under its id.
        have filed : agent.agentId = agentId :=
          Option.some.inj ((sep.fetched request agent pending).symm.trans (of_decide_eq_true made))
        rw [Option.map_some, Option.map_some,
          agentConfigAnswer_congr config env request.headers filed]
    · rw [answerTo, answerTo, if_neg made, if_neg made]
  | _ => rfl

end SameView

/-! ## Two servers in step -/

/-- The agent cannot tell the servers apart, and never will. -/
structure Related {κ : Type} (view : ControlConfigFile → κ) (agentId : String)
    (tokens : List String) (fetch : Request → Bool) (s s' : Server) : Prop where
  left : s.Separated agentId tokens
  right : s'.Separated agentId tokens
  config : SameConfig view s s'
  same : SameView agentId tokens fetch s s'

section Related

variable {κ : Type} {view : ControlConfigFile → κ} {agentId : String} {tokens : List String}
  {fetch : Request → Bool} {s s' : Server}

/-- At first the two servers are related. -/
theorem related_init {config config' : LoadedControlConfig}
    (sound : config.config.Sound agentId tokens) (sound' : config'.config.Sound agentId tokens)
    (same : view config.config = view config'.config) :
    Related view agentId tokens fetch (init config) (init config') where
  left := separated_init sound
  right := separated_init sound'
  config := ⟨same, fun _ => .none⟩
  same := ⟨rfl, fun _ => rfl, fun _ _ _ => rfl⟩

/-- A dropped step is taken by one of the servers. -/
theorem related_dropped (inj : Function.Injective env.sha256)
    (related : Related view agentId tokens fetch s s') {e : ServerEvent}
    (sound : (step env s e).config.config.Sound agentId tokens)
    (dropped : kept tokens fetch s e = false) :
    Related view agentId tokens fetch (step env s e) s' where
  left := separated_step inj s e related.left sound
  right := related.right
  config := by
    have other : e.isReload = false := by cases e <;> first | rfl | cases dropped
    obtain ⟨config, reloads⟩ := @reloads_frame env s e other
    exact ⟨by rw [config]; exact related.config.config,
      by rw [reloads]; exact related.config.reloads⟩
  same := sameView_dropped related.left related.same dropped

variable (sees : ∀ file file', view file = view file' →
  file.agentView agentId = file'.agentView agentId)

include sees

/-- A kept step is taken by both servers. -/
theorem related_kept (inj : Function.Injective env.sha256)
    (related : Related view agentId tokens fetch s s') {e : ServerEvent}
    (sound : (step env s e).config.config.Sound agentId tokens)
    (sound' : (step env s' e).config.config.Sound agentId tokens)
    (own : kept tokens fetch s e = true) :
    Related view agentId tokens fetch (step env s e) (step env s' e) where
  left := separated_step inj s e related.left sound
  right := separated_step inj s' e related.right sound'
  config := sameConfig_step related.config (.same e)
  same := sameView_kept inj related.left related.right (sees _ _ related.config.config)
    related.same e own

/-- **Alike steps are taken by both servers**, each its own. -/
theorem related_alike (inj : Function.Injective env.sha256)
    (related : Related view agentId tokens fetch s s') {e e' : ServerEvent}
    (alike : e.Alike env view e') (sound : (step env s e).config.config.Sound agentId tokens)
    (sound' : (step env s' e').config.config.Sound agentId tokens) :
    Related view agentId tokens fetch (step env s e) (step env s' e') where
  left := separated_step inj s e related.left sound
  right := separated_step inj s' e' related.right sound'
  config := sameConfig_step related.config alike
  same := by
    cases alike with
    | reload => exact ((related.same.reload rfl).symm.reload rfl).symm
    | same =>
      cases own : kept tokens fetch s e with
      | true => exact (related_kept sees inj related sound sound' own).same
      | false =>
        -- The other server drops the step as well: the connection's token is the same.
        have own' : kept tokens fetch s' e = false := by
          rw [← own]
          cases e <;> simp only [kept, related.same.token]
        exact (sameView_dropped related.right (sameView_dropped related.left related.same own).symm
          own').symm

end Related

/-! ## Runs -/

/-- The tokens enrolled for the agent in a configuration in force during the run. -/
def tokensInForce (env : Env) (agentId : String) (s : Server) (es : List ServerEvent) :
    List String :=
  (s.config.config.configToken agentId).toList ++
    outputs (step env) (fun s e => (step env s e).config.config.configToken agentId) s es

/-- None of the tokens enrolled for the agent during the run is ever enrolled for another id. -/
def EnrolledAlone (env : Env) (agentId : String) (s : Server) (es : List ServerEvent) : Prop :=
  ∀ pre, pre <+: es → ∀ id token, (run (step env) s pre).config.config.EnrollsToken id token →
    token ∈ tokensInForce env agentId s es → id = agentId

/-- A token enrolled at some point of the run is one of those in force in it. -/
theorem mem_tokensInForce {agentId token : String} {s : Server} {pre : List ServerEvent}
    (enrolled : (run (step env) s pre).config.config.EnrollsToken agentId token)
    (post : List ServerEvent) : token ∈ tokensInForce env agentId s (pre ++ post) := by
  induction pre generalizing s with
  | nil =>
    refine List.mem_append_left _ (Option.mem_toList.mpr ?_)
    exact ControlConfigFile.configToken_eq_some.mpr enrolled
  | cons e pre ih => exact List.mem_append_right _ (ih enrolled)

/-- In such a run the tokens are the agent's alone, at each point of it. -/
theorem EnrolledAlone.sound {agentId : String} {s : Server} {es : List ServerEvent}
    (alone : EnrolledAlone env agentId s es) {pre : List ServerEvent} (h : pre <+: es) :
    (run (step env) s pre).config.config.Sound agentId (tokensInForce env agentId s es) where
  own := by
    intro token enrolled
    obtain ⟨post, rfl⟩ := h
    exact mem_tokensInForce enrolled post
  others := fun id token enrolled mem => alone pre h id token enrolled mem

/-- So they are after each step. -/
theorem EnrolledAlone.stepsMeet {agentId : String} {s : Server} {es : List ServerEvent}
    (alone : EnrolledAlone env agentId s es) :
    StepsMeet (step env) (fun t e =>
      (step env t e).config.config.Sound agentId (tokensInForce env agentId s es)) s es := by
  rintro pre e post rfl
  have upTo : pre ++ [e] <+: pre ++ e :: post := ⟨post, by rw [List.append_assoc]; rfl⟩
  have sound := alone.sound upTo
  rw [run_append, run_cons, run_nil] at sound
  exact sound

/-- Runs of alike steps enroll the same tokens for the agent. -/
theorem tokensInForce_congr {agentId : String} {s s' : Server}
    (same : SameConfig (·.agentView agentId) s s') {es es' : List ServerEvent}
    (alike : List.Forall₂ (ServerEvent.Alike env (·.agentView agentId)) es es') :
    tokensInForce env agentId s es = tokensInForce env agentId s' es' := by
  rw [tokensInForce, tokensInForce, configToken_congr same.config]
  congr 1
  refine outputs_lockstep (R := SameConfig (·.agentView agentId)) (C := fun _ _ => True) ?_ ?_ same alike
    (stepsMeet_true (step env) s es) (stepsMeet_true (step env) s' es')
  · exact fun s s' e e' same alike _ _ => sameConfig_step same alike
  · exact fun s s' e e' same alike _ _ => configToken_congr (sameConfig_step same alike).config

/-- Without reloads it is enough that the configuration in force enrolls the agent's token for the
agent only. -/
theorem enrolledAlone_of_noReload {agentId : String} {s : Server} {es : List ServerEvent}
    (noReload : ∀ e ∈ es, e.isReload = false)
    (others : ∀ id token, s.config.config.EnrollsToken id token →
      s.config.config.EnrollsToken agentId token → id = agentId) :
    EnrolledAlone env agentId s es := by
  have config : ∀ pre, pre <+: es → (run (step env) s pre).config = s.config := by
    intro pre h
    refine run_frame (f := Server.config) (C := fun e : ServerEvent => e.isReload = true) ?_ ?_
    · exact fun s e other => (reloads_frame s (Bool.eq_false_iff.mpr other)).1
    · exact fun e mem => Bool.eq_false_iff.mp (noReload e (h.subset mem))
  intro pre h id token enrolled mem
  rw [config pre h] at enrolled
  refine others id token enrolled ?_
  rcases List.mem_append.mp mem with first | later
  · exact ControlConfigFile.configToken_eq_some.mp (Option.mem_toList.mp first)
  · obtain ⟨before, e, post, rfl, shown⟩ := mem_outputs later
    have after := config (before ++ [e]) ⟨post, by rw [List.append_assoc]; rfl⟩
    rw [run_append, run_cons, run_nil] at after
    rw [after] at shown
    exact ControlConfigFile.configToken_eq_some.mp shown

/-- **Agents do not interfere.** Let none of the tokens enrolled for an agent during a run ever be
enrolled for another id. Then the run without the steps of the connections and fetches that present
other tokens has the same entry of the agent at every point, and answers its fetches the same. And
a run of the same steps, in which what is configured differs outside of the agent's enrollment, the
defaults and the overrides of its hostname, answers the agent's fetches the same. -/
theorem noninterference (inj : Function.Injective env.sha256) (config : LoadedControlConfig)
    (agentId : String) {es : List ServerEvent}
    (alone : EnrolledAlone env agentId (init config) es) :
    let tokens := tokensInForce env agentId (init config) es
    let keep := kept tokens (fetchPresents tokens)
    let filtered := purge (step env) keep (init config)
    let answers := outputs (step env) fun s e => some (answerTo env agentId s e)
    (∀ pre, pre <+: es → (run (step env) (init config) (filtered pre)).agents[agentId]? =
      (run (step env) (init config) pre).agents[agentId]?) ∧
    answers (init config) (filtered es) = outputs (step env)
      (fun s e => if keep s e then some (answerTo env agentId s e) else none) (init config) es ∧
    ∀ config' es', config.config.agentView agentId = config'.config.agentView agentId →
      List.Forall₂ (ServerEvent.Alike env (·.agentView agentId)) es es' →
      EnrolledAlone env agentId (init config') es' →
      answers (init config) es = answers (init config') es' := by
  intro tokens keep filtered answers
  have sound : config.config.Sound agentId tokens := alone.sound List.nil_prefix
  have start : Related id agentId tokens (fetchPresents tokens) (init config) (init config) :=
    related_init sound sound rfl
  -- The configurations are the same, so the purge keeps to sound ones as well.
  have keeps : ∀ s s' e, Related id agentId tokens (fetchPresents tokens) s s' →
      (step env s e).config.config.Sound agentId tokens → keep s e = true →
      Related id agentId tokens (fetchPresents tokens) (step env s e) (step env s' e) := by
    intro s s' e related sound own
    have config : (step env s e).config.config = (step env s' e).config.config :=
      (sameConfig_step related.config (.same e)).config
    exact related_kept (fun _ _ same => congrArg (·.agentView agentId) same) inj related sound
      (config ▸ sound) own
  have drops : ∀ s s' e, Related id agentId tokens (fetchPresents tokens) s s' →
      (step env s e).config.config.Sound agentId tokens → keep s e = false →
      Related id agentId tokens (fetchPresents tokens) (step env s e) s' :=
    fun s s' e related sound other => related_dropped inj related sound other
  refine ⟨?_, ?_, ?_⟩
  · rintro pre ⟨post, rfl⟩
    exact (run_purge keeps drops start alone.stepsMeet.left).same.entry.symm
  · refine outputs_purge keeps drops (fun s s' e related _ own => ?_) start alone.stepsMeet
    have view := congrArg (·.agentView agentId) related.config.config
    exact congrArg some (answerTo_congr related.left view related.same e own)
  · intro config' es' view alike alone'
    have equal : tokens = tokensInForce env agentId (init config') es' :=
      tokensInForce_congr ⟨view, fun _ => .none⟩ alike
    have sound' : config'.config.Sound agentId tokens := by
      rw [equal]
      exact alone'.sound List.nil_prefix
    have meets' := alone'.stepsMeet
    rw [← equal] at meets'
    refine outputs_lockstep (R := Related (·.agentView agentId) agentId tokens fun _ => true)
      ?_ ?_ (related_init sound sound' view) alike alone.stepsMeet meets'
    · exact fun s s' e e' related alike sound sound' =>
        related_alike (fun _ _ same => same) inj related alike sound sound'
    · intro s s' e e' related alike _ _
      cases alike with
      | reload => rfl
      | same =>
        cases own : kept tokens (fun _ => true) s e with
        | true =>
          exact congrArg some
            (answerTo_congr related.left related.config.config related.same e own)
        | false => cases e <;> first | rfl | cases own

/-- A second agent is enrolled, with a token of its own. -/
def twoAgentsConfig : LoadedControlConfig where
  sourceVersion := configSourceVersion ""
  config.agents := oneAgentConfig.config.agents.insert "agent-2" ⟨"host-2", some "other-secret"⟩

/-- The second agent says hello between the first agent's hello and its fetch. -/
def twoAgentsRun : List ServerEvent :=
  oneAgentRun ++
    [.agentControl "connection-2" [headerOf authorizationHeader "Bearer agent-secret",
      headerOf agentConfigTokenHeader "other-secret"],
    .hello "connection-2" ⟨"agent-2", "host-2", "0.1.0", none⟩,
    .register "connection-2" 2,
    .agentConfig oneAgentRequest,
    .agentConfigRead oneAgentRequest]

/-- The first agent's entry does not depend on the second one's hello, nor its answers on the
second one's enrollment. -/
theorem noninterference_twoAgents :
    let tokens := tokensInForce oneAgentEnv "agent-1" (init twoAgentsConfig) twoAgentsRun
    let filtered := purge (step oneAgentEnv) (kept tokens (fetchPresents tokens))
      (init twoAgentsConfig) twoAgentsRun
    let answers := outputs (step oneAgentEnv) fun s e => some (answerTo oneAgentEnv "agent-1" s e)
    (run (step oneAgentEnv) (init twoAgentsConfig) filtered).agents["agent-1"]? =
      (run (step oneAgentEnv) (init twoAgentsConfig) twoAgentsRun).agents["agent-1"]? ∧
    answers (init twoAgentsConfig) twoAgentsRun = answers (init oneAgentConfig) twoAgentsRun := by
  intro tokens filtered answers
  have noReload : ∀ e ∈ twoAgentsRun, e.isReload = false := by decide
  have alone : EnrolledAlone oneAgentEnv "agent-1" (init twoAgentsConfig) twoAgentsRun := by
    refine enrolledAlone_of_noReload noReload ?_
    rintro id token ⟨enrollment, enrolled, configured⟩ ⟨first, enrolled', configured'⟩
    have agents (id : String) : (init twoAgentsConfig).config.config.agents[id]? =
        if "agent-2" = id then some ⟨"host-2", some "other-secret"⟩
        else if "agent-1" = id then some ⟨"host-1", some "config-secret"⟩ else none := by
      simp only [init, twoAgentsConfig, oneAgentConfig, BTreeMap.get_insert, BTreeMap.get_empty]
    rw [agents] at enrolled enrolled'
    cases enrolled'
    cases configured'
    split at enrolled
    · cases enrolled
      exact absurd configured (by decide)
    · split at enrolled
      next this => exact this.symm
      next => cases enrolled
  have alone' : EnrolledAlone oneAgentEnv "agent-1" (init oneAgentConfig) twoAgentsRun := by
    refine enrolledAlone_of_noReload noReload ?_
    rintro id token ⟨enrollment, enrolled, -⟩ -
    simp only [init, oneAgentConfig, BTreeMap.get_insert, BTreeMap.get_empty] at enrolled
    split at enrolled
    next this => exact this.symm
    next => cases enrolled
  obtain ⟨entry, -, answered⟩ :=
    noninterference (fun _ _ h => h) twoAgentsConfig "agent-1" alone
  have view : twoAgentsConfig.config.agentView "agent-1" =
      oneAgentConfig.config.agentView "agent-1" := by
    have other : ("agent-2" = "agent-1") = False := by decide
    simp only [ControlConfigFile.agentView, twoAgentsConfig, BTreeMap.get_insert, other, if_false]
    rfl
  exact ⟨entry twoAgentsRun List.prefix_rfl, answered oneAgentConfig twoAgentsRun view
    (List.forall₂_same.mpr fun e _ => .same e) alone'⟩

end Server

end Talia
