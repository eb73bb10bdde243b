import Talia.Control.Privilege
import Talia.Control.Separation

/-!
# An agent that connects gets in

`Visit` is an agent's time on a connection: it opens the connection, says hello, is registered and
sends heartbeats. Others come and go meanwhile, say hello under its id and fetch under its session.

A visit needs two things of the others: that the connections which had the agent's id before are
cleaned up, and that nobody else has the token it is enrolled with. Then the server takes every step
of the visit and refuses none, keeps the agent in its map for as long as the visit lasts, and
answers each of its fetches with its configuration (`agent_gets_in`). What the others do otherwise
makes no difference.

It is not shown that the others' tasks clean up, nor that the visit's own steps are ever taken.
-/

namespace Talia.Server

open Transition

variable {env : Env}

/-! ## The visit -/

/-- What an agent does on a connection. -/
structure Visit where
  connectionId : String
  headers : HeaderMap
  token : String
  hello : AgentHello
  now : UInt64
  beats : List (AgentHeartbeat × UInt64)

namespace Visit

def agentId (v : Visit) : String := v.hello.agentId

/-- The steps of the server that are of the connection. -/
def events (v : Visit) : List ServerEvent :=
  .agentControl v.connectionId v.headers :: .hello v.connectionId v.hello ::
    .register v.connectionId v.now ::
      v.beats.map fun (heartbeat, now) => .heartbeat v.connectionId heartbeat now

/-- The agent has the tokens, and speaks for itself. -/
structure Proper (env : Env) (v : Visit) : Prop where
  authorized : authorized env.sha256 v.headers env.agentToken = true
  token : headerValue v.headers agentConfigTokenHeader = some v.token
  beats : ∀ beat ∈ v.beats, beat.1.agentId = v.agentId ∧ beat.1.hostname = v.hello.hostname

/-- A fetch in the session. -/
structure Fetches (env : Env) (v : Visit) (request : Request) : Prop where
  authorized : authorized env.sha256 request.headers env.agentToken = true
  agentId : headerValue request.headers agentIdHeader = some v.agentId
  session : headerValue request.headers configSessionIdHeader = some v.connectionId
  token : headerValue request.headers agentConfigTokenHeader = some v.token

/-- The agent is enrolled with its token for its hostname, which has a configuration. -/
structure Enrolled (env : Env) (v : Visit) (config : ControlConfigFile) : Prop where
  credential : agentHasConfigCredential env.sha256 config v.agentId v.hello.hostname
    (some v.token) = true
  resolves : ∃ runtime, config.runtimeConfigFor v.hello.hostname = .ok runtime

/-- A step is not a hello under the agent's id, with its token, on another connection. -/
def Alone (env : Env) (v : Visit) (s : Server) (e : ServerEvent) : Prop :=
  ∀ connectionId hello connection, e = .hello connectionId hello → connectionId ≠ v.connectionId →
    hello.agentId = v.agentId → s.connections connectionId = some connection →
    agentHasConfigCredential env.sha256 s.config.config hello.agentId hello.hostname
      connection.agentConfigToken = false

/-- The other connections that have the agent's id, or are about to, are cleaned up. -/
def Vacant (v : Visit) (s : Server) : Prop :=
  ∀ connectionId connection, s.connections connectionId = some connection →
    connectionId ≠ v.connectionId → connection.Claims v.agentId → connection.phase = .closed

/-- The agent is connected. -/
structure Joined (v : Visit) (s : Server) : Prop where
  connection : s.connections v.connectionId = some ⟨some v.token, some v.agentId, false, .reading⟩
  entry : ∃ agent, s.agents[v.agentId]? = some agent ∧ agent.agentId = v.agentId ∧
    agent.hostname = v.hello.hostname ∧ agent.connectionId = v.connectionId

/-- Where the visit is, when so many of its steps are taken. -/
def At (v : Visit) (s : Server) : List ServerEvent → Prop
  | [] => s.connections v.connectionId = none
  | [_] => s.connections v.connectionId = some ⟨some v.token, none, false, .reading⟩
  | [_, _] => s.connections v.connectionId = some ⟨some v.token, none, false, .registering v.hello⟩
  | _ :: _ :: _ :: _ => v.Joined s

end Visit

/-! ## What others do -/

namespace Visit

variable {v : Visit} {s : Server}

/-- Others leave the visit where it is. -/
theorem At.frame {done : List ServerEvent} (here : v.At s done) {e : ServerEvent}
    (other : e.connection ≠ some v.connectionId) : v.At (step env s e) done := by
  have same : (step env s e).connections v.connectionId = s.connections v.connectionId :=
    connections_frame s other
  match done, here with
  | [], here | [_], here | [_, _], here => exact same.trans here
  | _ :: _ :: _ :: _, ⟨connection, agent, found, filed, host, own⟩ =>
    refine ⟨same.trans connection, agent, ?_, filed, host, own⟩
    by_contra touched
    exact other ((agents_frame s e found touched).trans (congrArg some own))

/-- A connection that is not cleaned up may be replaced by one that claims no more. -/
theorem Vacant.setConnection (vacant : v.Vacant s) {t : Server}
    (same : t.connections = s.connections) {id : String} {before after : Connection}
    (found : s.connections id = some before) (alive : before.phase ≠ .closed)
    (claims : id ≠ v.connectionId → after.Claims v.agentId → before.Claims v.agentId) :
    v.Vacant (t.setConnection id after) := by
  intro connectionId connection there other claim
  rw [setConnection_connections, same] at there
  by_cases it : connectionId = id
  · subst it
    rw [if_pos rfl] at there
    cases there
    exact absurd (vacant _ before found other (claims other claim)) alive
  · rw [if_neg it] at there
    exact vacant connectionId connection there other claim

/-- **Each step keeps the id vacant**, short of a hello with the agent's token. -/
theorem vacant_step (s : Server) (e : ServerEvent) (vacant : v.Vacant s) (alone : v.Alone env s e) :
    v.Vacant (step env s e) := by
  rcases step_acts env s e with same | acts
  · rw [same]
    exact vacant
  generalize step env s e = s' at acts
  -- A connection claims no more once it has no hello to register.
  have settled {before after : Connection} (current : after.currentAgentId = before.currentAgentId)
      (idle : ∀ hello, after.phase ≠ .registering hello) (claim : after.Claims v.agentId) :
      before.Claims v.agentId := by
    rcases claim with claim | ⟨hello, pending, -⟩
    · exact .inl (current.symm.trans claim)
    · exact absurd pending (idle hello)
  cases acts with
  | @opened id headers fresh =>
    intro connectionId connection there other claim
    rw [setConnection_connections] at there
    by_cases it : connectionId = id
    · rw [if_pos it] at there
      cases there
      rcases claim with current | ⟨_, pending, -⟩
      · cases current
      · cases pending
    · rw [if_neg it] at there
      exact vacant connectionId connection there other claim
  | @accepted id hello token current senderClosed found credential =>
    refine vacant.setConnection rfl found (by rintro ⟨⟩) fun other claim => ?_
    rcases claim with current | ⟨_, pending, same⟩
    · exact .inl current
    · cases pending
      rw [alone id hello _ rfl other same found] at credential
      cases credential
  | @registered id now hello token current senderClosed agents found inserted =>
    refine vacant.setConnection (t := { s with agents := agents }) rfl found (by rintro ⟨⟩)
      fun _ claim => ?_
    rcases claim with current | ⟨_, pending, -⟩
    · exact .inr ⟨hello, rfl, Option.some.inj current⟩
    · cases senderClosed <;> cases pending
  | @removed id token current senderClosed found =>
    exact vacant.setConnection (t := { s with agents := removeAgent s.agents id current }) rfl found
      (by rintro ⟨⟩) fun _ => settled rfl (by rintro _ ⟨⟩)
  | refused found | duplicate found | ended found =>
    exact vacant.setConnection rfl found (by rintro ⟨⟩) fun _ => settled rfl (by rintro _ ⟨⟩)
  | _ => exact vacant

/-- Where the id is vacant, no other connection holds its entry. -/
theorem Vacant.free (vacant : v.Vacant s) (sessions : s.Sessions) {agent : ConnectedAgent}
    (found : s.agents[v.agentId]? = some agent) : agent.connectionId = v.connectionId := by
  obtain ⟨-, connection, there, alive, current⟩ := sessions v.agentId agent found
  by_contra other
  exact alive (vacant _ connection there other (.inl current))

/-! ## What the agent does -/

/-- What a step of the visit needs. -/
structure Meets (env : Env) (v : Visit) (s : Server) (e : ServerEvent) : Prop where
  sessions : s.Sessions
  enrolled : v.Enrolled env s.config.config
  vacant : e = .register v.connectionId v.now → v.Vacant s

/-- What the server says to a step of the visit: it acknowledges the registration. -/
def reply (v : Visit) : ServerEvent → Option Answer
  | .register _ now => some (.message (.helloAck now v.connectionId))
  | _ => none

/-- A visit's connection is opened. -/
theorem connect_step (proper : v.Proper env) (here : s.connections v.connectionId = none) :
    (step env s (.agentControl v.connectionId v.headers)).connections v.connectionId =
        some ⟨some v.token, none, false, .reading⟩ ∧
      answer env s (.agentControl v.connectionId v.headers) = none := by
  constructor
  · simp only [step, here, proper.authorized, if_true, setConnection_connections, proper.token]
  · rw [answer, if_pos proper.authorized]

/-- Its hello is accepted, if the visitor is enrolled. -/
theorem hello_step (enrolled : v.Enrolled env s.config.config)
    (here : s.connections v.connectionId = some ⟨some v.token, none, false, .reading⟩) :
    (step env s (.hello v.connectionId v.hello)).connections v.connectionId =
        some ⟨some v.token, none, false, .registering v.hello⟩ ∧
      answer env s (.hello v.connectionId v.hello) = none := by
  have credential : agentHasConfigCredential env.sha256 s.config.config v.hello.agentId
      v.hello.hostname (some v.token) = true := enrolled.credential
  constructor
  · simp only [step, here, credential, if_true, setConnection_connections]
  · simp only [answer, here, credential, if_true]

/-- Where the id is vacant, a hello is registered. -/
theorem register_step (sessions : s.Sessions) (vacant : v.Vacant s)
    (here : s.connections v.connectionId =
      some ⟨some v.token, none, false, .registering v.hello⟩) :
    v.Joined (step env s (.register v.connectionId v.now)) ∧
      answer env s (.register v.connectionId v.now) =
        some (.message (.helloAck v.now v.connectionId)) := by
  have registered : registerAgentConnection s.agents v.connectionId none v.hello v.now =
      some (s.agents.insert v.agentId (connectedAgent v.connectionId v.hello v.now)) := by
    rw [registerAgentConnection_eq, if_neg]
    · rfl
    · rintro ⟨agent, held, other⟩
      exact other (vacant.free sessions held)
  refine ⟨⟨?_, connectedAgent v.connectionId v.hello v.now, ?_, rfl, rfl, rfl⟩, ?_⟩
  · simp only [step, here, registered, setConnection_connections, if_true]
    rfl
  · simp only [step, here, registered, setConnection_agents, BTreeMap.get_insert, if_true]
  · simp only [answer, here, registered]
    rfl

/-- A heartbeat of the agent is recorded. -/
theorem Joined.heartbeat (joined : v.Joined s) {heartbeat : AgentHeartbeat}
    (same : heartbeat.agentId = v.agentId) (hostname : heartbeat.hostname = v.hello.hostname)
    (now : UInt64) :
    v.Joined (step env s (.heartbeat v.connectionId heartbeat now)) := by
  obtain ⟨connection, agent, found, filed, -, own⟩ := joined
  have stepped : step env s (.heartbeat v.connectionId heartbeat now) =
      { s with agents := recordHeartbeat s.agents v.connectionId heartbeat now } := by
    simp only [step, connection]
    exact if_pos (congrArg some same.symm)
  refine ⟨?_, agent.beat heartbeat now, ?_, filed, hostname, own⟩
  · rw [stepped]
    exact connection
  · rw [stepped]
    have held : heldBy s.agents v.agentId v.connectionId = true :=
      heldBy_iff.mpr ⟨agent, found, own⟩
    show (recordHeartbeat s.agents v.connectionId heartbeat now)[v.agentId]? = _
    rw [recordHeartbeat_get, if_pos ⟨same, held⟩, found, Option.map_some]

/-- **Each step of the visit is taken**, when it is its turn. -/
theorem visit_step (proper : v.Proper env) {s : Server} {e : ServerEvent} {done : List ServerEvent}
    (here : v.At s done) (next : done ++ [e] <+: v.events) (meets : v.Meets env s e) :
    v.At (step env s e) (done ++ [e]) ∧ answer env s e = v.reply e := by
  obtain ⟨later, next⟩ := next
  rw [List.append_assoc, List.singleton_append] at next
  match done, here with
  | [], here =>
    obtain ⟨rfl, -⟩ := List.cons.inj next
    exact connect_step proper here
  | [_], here =>
    obtain ⟨-, next⟩ := List.cons.inj next
    obtain ⟨rfl, -⟩ := List.cons.inj next
    exact hello_step meets.enrolled here
  | [_, _], here =>
    obtain ⟨-, next⟩ := List.cons.inj next
    obtain ⟨-, next⟩ := List.cons.inj next
    obtain ⟨rfl, -⟩ := List.cons.inj next
    exact register_step meets.sessions (meets.vacant rfl) here
  | _ :: _ :: _ :: done, joined =>
    have mem : e ∈ v.beats.map fun (heartbeat, now) =>
        ServerEvent.heartbeat v.connectionId heartbeat now := by
      obtain ⟨-, next⟩ := List.cons.inj next
      obtain ⟨-, next⟩ := List.cons.inj next
      obtain ⟨-, next⟩ := List.cons.inj next
      rw [← next]
      exact List.mem_append_right _ List.mem_cons_self
    obtain ⟨⟨heartbeat, now⟩, beat, rfl⟩ := List.mem_map.mp mem
    obtain ⟨same, hostname⟩ := proper.beats _ beat
    exact ⟨Joined.heartbeat joined same hostname now, rfl⟩

/-- The events of the visit's connection, of a run. -/
def own (v : Visit) (e : ServerEvent) : Bool := e.connection = some v.connectionId

/-- **The visit goes on** as long as its own steps are taken in order. -/
theorem visit_run (proper : v.Proper env) {s : Server} (fresh : s.connections v.connectionId = none)
    {es : List ServerEvent} (meets : StepsMeet (step env) (v.Meets env) s es) :
    es.filter v.own <+: v.events → v.At (run (step env) s es) (es.filter v.own) := by
  rw [← outputs_filter (step env) v.own s es]
  refine run_history (P := fun done s => done <+: v.events → v.At s done) ?_ (fun _ => fresh) meets
  intro done s e here meets next
  cases own : v.own e with
  | false =>
    simp only [own, Bool.false_eq_true, if_false, Option.toList_none, List.append_nil] at next ⊢
    exact (here next).frame (of_decide_eq_false own)
  | true =>
    simp only [own, if_true, Option.toList_some] at next ⊢
    exact (visit_step proper (here ((List.prefix_append ..).trans next)) next meets).1

/-- A fetch that has found its agent keeps it until it is answered. -/
theorem fetch_kept_step {s : Server} {e : ServerEvent} {request : Request} {agent : ConnectedAgent}
    (pending : s.fetches request = some agent) (other : e ≠ .agentConfigRead request) :
    (step env s e).fetches request = some agent := by
  rcases step_acts env s e with same | acts
  · rw [same]
    exact pending
  generalize step env s e = s' at acts
  cases acts with
  | lookedUp fresh found =>
    refine (setFetch_fetches ..).trans (Eq.trans (if_neg ?_) pending)
    rintro rfl
    cases fresh.symm.trans pending
  | answered found =>
    refine (setFetch_fetches ..).trans (Eq.trans (if_neg ?_) pending)
    rintro rfl
    exact other rfl
  | _ => exact pending

/-- A pending fetch stays so until it is answered. -/
theorem fetch_kept {s : Server} {request : Request} {agent : ConnectedAgent}
    (pending : s.fetches request = some agent) {es : List ServerEvent}
    (unread : .agentConfigRead request ∉ es) :
    (run (step env) s es).fetches request = some agent := by
  have meets : StepsMeet (step env) (fun _ e => e ≠ .agentConfigRead request) s es := by
    rintro pre e post rfl rfl
    exact unread (by simp)
  let P : Server → Prop := fun s => s.fetches request = some agent
  have kept : ∀ s e, P s → e ≠ .agentConfigRead request → P (step env s e) :=
    fun _ _ => fetch_kept_step
  have after : P (run (step env) s es) := run_invariant_of_steps kept pending meets
  exact after

/-- A fetch in the session finds the agent's entry. -/
theorem Joined.lookup {s : Server} (joined : v.Joined s) {request : Request}
    (fetches : v.Fetches env request) :
    ∃ agent, agentConfigLookup env s.agents request.headers = .ok agent ∧
      agent.agentId = v.agentId ∧ agent.hostname = v.hello.hostname := by
  obtain ⟨agent, found, filed, host, own⟩ := joined.entry
  refine ⟨agent, ?_, filed, host⟩
  have session : connectedAgentForConfig s.agents v.agentId v.connectionId = some agent := by
    rw [connectedAgentForConfig, found]
    exact Option.filter_eq_some_iff.mpr ⟨rfl, decide_eq_true own⟩
  simp only [agentConfigLookup, fetches.authorized, if_true, fetches.agentId, fetches.session,
    session]

/-- **A fetch in the session is answered** with the agent's configuration, whatever happens between
its two reads. -/
theorem Joined.served {s : Server} (joined : v.Joined s) {request : Request}
    (fetches : v.Fetches env request) (fresh : s.fetches request = none) {es : List ServerEvent}
    (unread : .agentConfigRead request ∉ es)
    (enrolled : v.Enrolled env (run (step env) s (.agentConfig request :: es)).config.config) :
    answer env s (.agentConfig request) = none ∧ ∃ runtime,
      (run (step env) s (.agentConfig request :: es)).config.config.runtimeConfigFor
        v.hello.hostname = .ok runtime ∧
      answer env (run (step env) s (.agentConfig request :: es)) (.agentConfigRead request) =
        some (.config runtime) := by
  obtain ⟨agent, found, filed, host⟩ := joined.lookup fetches
  refine ⟨by simp only [answer, fresh, found], ?_⟩
  have looked : (step env s (.agentConfig request)).fetches request = some agent := by
    simp only [step, fresh, found, setFetch_fetches, if_true]
  have pending : (run (step env) s (.agentConfig request :: es)).fetches request = some agent :=
    fetch_kept looked unread
  obtain ⟨credential, runtime, resolved⟩ := enrolled
  refine ⟨runtime, resolved, ?_⟩
  rw [answer, pending, Option.map_some]
  refine congrArg some (agentConfigAnswer_of_resolved ?_ ?_)
  · rw [filed, host, fetches.token]
    exact credential
  · rw [host]
    exact resolved

/-- Once it is registered, the visit is joined. -/
theorem At.joined {s : Server} {done : List ServerEvent} (here : v.At s done)
    (taken : done <+: v.events) (registered : .register v.connectionId v.now ∈ done) :
    v.Joined s := by
  obtain ⟨later, taken⟩ := taken
  match done, here with
  | [], _ => cases registered
  | [_], _ =>
    obtain ⟨rfl, -⟩ := List.cons.inj taken
    simp at registered
  | [_, _], _ =>
    obtain ⟨rfl, rest⟩ := List.cons.inj taken
    obtain ⟨rfl, -⟩ := List.cons.inj rest
    simp at registered
  | _ :: _ :: _ :: _, here => exact here

end Visit

/-! ## Getting in -/

/-- **An agent that connects gets in.** In every run in which an agent visits the server, is
enrolled in every configuration in force, and at some time before it is registered the connections
that had its id are cleaned up and from then on nobody else says hello with its token: the server
takes each step of the visit and refuses none, the agent is connected in every state from its
registration on, and each fetch in its session from then on is answered with the configuration of
its hostname. -/
theorem agent_gets_in (config : LoadedControlConfig) {v : Visit} (proper : v.Proper env)
    {past future : List ServerEvent} (own : (past ++ future).filter v.own = v.events)
    (unregistered : .register v.connectionId v.now ∉ past)
    (enrolled : StepsMeet (step env) (fun s _ => v.Enrolled env s.config.config) (init config)
      (past ++ future))
    (vacant : v.Vacant (run (step env) (init config) past))
    (alone : StepsMeet (step env) (v.Alone env) (run (step env) (init config) past) future) :
    (∀ pre e post, past ++ future = pre ++ e :: post → v.own e = true →
      answer env (run (step env) (init config) pre) e = v.reply e) ∧
    (∀ pre post, past ++ future = pre ++ post → .register v.connectionId v.now ∈ pre →
      v.Joined (run (step env) (init config) pre)) ∧
    (∀ pre request mid post,
      past ++ future = pre ++ .agentConfig request :: (mid ++ .agentConfigRead request :: post) →
      .register v.connectionId v.now ∈ pre → v.Fetches env request →
      (run (step env) (init config) pre).fetches request = none →
      .agentConfigRead request ∉ mid →
      let asked := run (step env) (init config) pre
      let s := run (step env) (init config) (pre ++ .agentConfig request :: mid)
      answer env asked (.agentConfig request) = none ∧ ∃ runtime,
        s.config.config.runtimeConfigFor v.hello.hostname = .ok runtime ∧
        answer env s (.agentConfigRead request) = some (.config runtime)) := by
  have meets : StepsMeet (step env) (v.Meets env) (init config) (past ++ future) := by
    intro pre e post split
    refine ⟨sessions_run config pre, enrolled pre e post split, ?_⟩
    rintro rfl
    -- The registration is not in the past, so the id is vacant by then.
    obtain ⟨since, rfl⟩ : past <+: pre := by
      rcases List.append_eq_append_iff.mp split with ⟨since, before, -⟩ | ⟨rest, before, after⟩
      · exact ⟨since, before.symm⟩
      · cases rest with
        | nil => exact ⟨[], by rw [before, List.append_nil, List.append_nil]⟩
        | cons e rest =>
          obtain ⟨rfl, -⟩ := List.cons.inj after
          exact absurd (before ▸ List.mem_append_right _ List.mem_cons_self) unregistered
    rw [List.append_assoc] at split
    have alone' : StepsMeet (step env) (v.Alone env) (run (step env) (init config) past) since :=
      StepsMeet.left (List.append_cancel_left split ▸ alone)
    rw [run_append]
    exact run_invariant_of_steps Visit.vacant_step vacant alone'
  have here : ∀ pre post, past ++ future = pre ++ post →
      pre.filter v.own <+: v.events ∧ v.At (run (step env) (init config) pre) (pre.filter v.own) := by
    intro pre post split
    have taken : pre.filter v.own <+: v.events := by
      rw [← own, split, List.filter_append]
      exact List.prefix_append ..
    exact ⟨taken, Visit.visit_run proper rfl (split ▸ meets).left taken⟩
  have joined : ∀ pre post, past ++ future = pre ++ post → .register v.connectionId v.now ∈ pre →
      v.Joined (run (step env) (init config) pre) := by
    intro pre post split registered
    obtain ⟨taken, done⟩ := here pre post split
    exact done.joined taken (List.mem_filter.mpr ⟨registered, decide_eq_true rfl⟩)
  refine ⟨?_, joined, ?_⟩
  · intro pre e post split mine
    have next : pre.filter v.own ++ [e] <+: v.events := by
      rw [← own, split, List.filter_append, List.filter_cons, if_pos mine]
      exact ⟨post.filter v.own, by rw [List.append_assoc]; rfl⟩
    exact (Visit.visit_step proper (here pre _ split).2 next (meets pre e post split)).2
  · intro pre request mid post split registered fetches fresh unread
    have there := joined pre _ split registered
    have before := enrolled (pre ++ .agentConfig request :: mid) (.agentConfigRead request) post
      (by rw [split, List.append_assoc]; rfl)
    rw [run_append] at before ⊢
    exact there.served fetches fresh unread before

/-- The one agent's visit. -/
def oneAgentVisit : Visit where
  connectionId := "connection-1"
  headers := [headerOf authorizationHeader "Bearer agent-secret",
    headerOf agentConfigTokenHeader "config-secret"]
  token := "config-secret"
  hello := ⟨"agent-1", "host-1", "0.1.0", none⟩
  now := 1
  beats := [(⟨"agent-1", "host-1", "0.1.0", "v1", ["cpu"]⟩, 2)]

/-- Someone else has the agent token, and says hello under the agent's id with a token that is not
the agent's. -/
def contestedRun : List ServerEvent :=
  [.agentControl "connection-2" [headerOf authorizationHeader "Bearer agent-secret",
      headerOf agentConfigTokenHeader "guess"],
    .agentControl "connection-1" oneAgentVisit.headers,
    .hello "connection-2" ⟨"agent-1", "host-1", "0.1.0", none⟩,
    .hello "connection-1" oneAgentVisit.hello,
    .register "connection-1" 1,
    .agentConfig oneAgentRequest,
    .heartbeat "connection-1" ⟨"agent-1", "host-1", "0.1.0", "v1", ["cpu"]⟩ 2,
    .agentConfigRead oneAgentRequest]

theorem agent_gets_in_contested :
    oneAgentVisit.Joined (run (step oneAgentEnv) (init oneAgentConfig) contestedRun) ∧
      ∃ runtime, answer oneAgentEnv (run (step oneAgentEnv) (init oneAgentConfig)
        (contestedRun.take 7)) (.agentConfigRead oneAgentRequest) = some (.config runtime) := by
  have proper : oneAgentVisit.Proper oneAgentEnv :=
    ⟨by decide +kernel, by decide +kernel, by decide +kernel⟩
  have enrolled : StepsMeet (step oneAgentEnv)
      (fun s _ => oneAgentVisit.Enrolled oneAgentEnv s.config.config) (init oneAgentConfig)
      ([] ++ contestedRun) := by
    intro pre e post split
    have agents : ∀ e ∈ [] ++ contestedRun, e.ofAgent = true := by decide
    rw [(agent_frame_run fun e mem => agents e (split ▸ List.mem_append_left _ mem)).1]
    exact ⟨by decide +kernel,
      (ControlConfigFile.runtimeConfigFor_ok_iff _ _).mpr (by decide +kernel)⟩
  have alone : StepsMeet (step oneAgentEnv) (oneAgentVisit.Alone oneAgentEnv) (init oneAgentConfig)
      contestedRun := by
    have quiet {s : Server} {e : ServerEvent} (other : ∀ id hello, e ≠ .hello id hello) :
        oneAgentVisit.Alone oneAgentEnv s e :=
      fun id hello _ same => absurd same (other id hello)
    refine stepsMeet_cons.mpr ⟨quiet (by rintro _ _ ⟨⟩), stepsMeet_cons.mpr
      ⟨quiet (by rintro _ _ ⟨⟩), stepsMeet_cons.mpr ⟨?_, stepsMeet_cons.mpr ⟨?_, ?_⟩⟩⟩⟩
    · rintro id hello connection ⟨⟩ _ _ found
      have there : (run (step oneAgentEnv) (init oneAgentConfig) (contestedRun.take 2)).connections
          "connection-2" = some ⟨some "guess", none, false, .reading⟩ := by decide +kernel
      cases there.symm.trans found
      decide +kernel
    · rintro id hello connection ⟨⟩ other
      exact absurd rfl other
    · intro pre e post split
      refine quiet fun id hello same => ?_
      have mem : e ∈ contestedRun.drop 4 := by
        rw [show contestedRun.drop 4 = _ from split]
        exact List.mem_append_right _ List.mem_cons_self
      subst same
      simp [contestedRun] at mem
  have own : ([] ++ contestedRun).filter oneAgentVisit.own = oneAgentVisit.events := rfl
  obtain ⟨-, joined, served⟩ := agent_gets_in oneAgentConfig proper own (by simp) enrolled
    (fun _ _ h => nomatch h) alone
  refine ⟨joined contestedRun [] (List.append_nil _).symm (by simp [contestedRun, oneAgentVisit]),
    ?_⟩
  obtain ⟨-, runtime, -, answered⟩ := served (contestedRun.take 5) oneAgentRequest
    [.heartbeat "connection-1" ⟨"agent-1", "host-1", "0.1.0", "v1", ["cpu"]⟩ 2] [] rfl
    (by simp [contestedRun, oneAgentVisit])
    ⟨by decide +kernel, by decide +kernel, by decide +kernel, by decide +kernel⟩
    (by decide +kernel) (by simp)
  exact ⟨runtime, answered⟩

end Talia.Server
