import Talia.Control.Server

/-!
# Who owns a session

`Sessions` links the shared map of agents to the connections' own state: every entry is filed
under its agent id and belongs to a connection that is not cleaned up and whose current id it is.
It is an invariant (`sessions_step`, `sessions_run`). What follows from it: a connection owns one
entry at most, and none once it is cleaned up.

Which step may touch an entry needs no invariant: every write of the map is guarded by the
connection id in the entry (`agents_frame`). The steps that only look at the map and turn a
message away are `Rejected`.
-/

namespace Talia

open Transition

/-- The connection a step belongs to. -/
def ServerEvent.connection : ServerEvent → Option String
  | .agentControl connectionId _ => some connectionId
  | .hello connectionId _ => some connectionId
  | .register connectionId _ => some connectionId
  | .heartbeat connectionId _ _ => some connectionId
  | .socketEnd connectionId => some connectionId
  | .removeAgent connectionId => some connectionId
  | .agentConfig .. | .agentConfigRead .. | .adminAgents .. => none
  | .reload .. | .reloadSwap .. | .reloadCount .. | .reloadNotify .. => none

namespace Server

/-! ## The invariant -/

/-- Every entry is filed under its id and belongs to a connection whose cleanup has not finished
and whose current id it is. -/
def Sessions (s : Server) : Prop :=
  ∀ id agent, s.agents[id]? = some agent → agent.agentId = id ∧
    ∃ connection, s.connections agent.connectionId = some connection ∧
      connection.phase ≠ .closed ∧ connection.currentAgentId = some id

theorem sessions_init (config : LoadedControlConfig) : (init config).Sessions := by
  intro id agent h
  rw [init, BTreeMap.get_empty] at h
  cases h

/-- Changing anything of a connection but its current id, short of closing it, keeps the
invariant. -/
theorem Sessions.setConnection {s : Server} (inv : s.Sessions) {connectionId : String}
    {before after : Connection} (found : s.connections connectionId = some before)
    (current : after.currentAgentId = before.currentAgentId) (alive : after.phase ≠ .closed) :
    (s.setConnection connectionId after).Sessions := by
  intro id agent h
  obtain ⟨filed, connection, hc, hp, hcur⟩ := inv id agent h
  refine ⟨filed, ?_⟩
  rw [setConnection_connections]
  split
  next same =>
    rw [same, found] at hc
    cases hc
    exact ⟨after, rfl, alive, current.trans hcur⟩
  next => exact ⟨connection, hc, hp, hcur⟩

variable {env : Env}

/-- **Each step keeps the invariant.** -/
theorem sessions_step (s : Server) (e : ServerEvent) (inv : s.Sessions) :
    (step env s e).Sessions := by
  rcases step_acts env s e with same | acts
  · rw [same]
    exact inv
  generalize step env s e = s' at acts
  cases acts with
  | opened fresh =>
    -- No entry names a connection that is not there yet.
    intro id agent h
    obtain ⟨filed, connection, hc, hp, hcur⟩ := inv id agent h
    refine ⟨filed, connection, ?_, hp, hcur⟩
    rw [setConnection_connections, if_neg]
    · exact hc
    · rintro rfl
      rw [fresh] at hc
      cases hc
  | accepted found => exact inv.setConnection found rfl (by rintro ⟨⟩)
  | refused found => exact inv.setConnection found rfl (by rintro ⟨⟩)
  | duplicate found => exact inv.setConnection found rfl (by rintro ⟨⟩)
  | ended found => exact inv.setConnection found rfl (by rintro ⟨⟩)
  | @registered connectionId now hello token current senderClosed agents found inserted =>
    obtain ⟨-, get⟩ := registerAgentConnection_get inserted
    intro id agent h
    rw [setConnection_agents, get] at h
    rw [setConnection_connections]
    split at h
    next same =>
      cases h
      refine ⟨same, _, if_pos rfl, ?_, congrArg some same⟩
      cases senderClosed <;> rintro ⟨⟩
    next other =>
      split at h
      next => cases h
      next kept =>
        obtain ⟨filed, connection, hc, hp, hcur⟩ := inv id agent h
        refine ⟨filed, connection, ?_, hp, hcur⟩
        -- An entry the connection held under another id would have been removed.
        rw [if_neg]
        · exact hc
        · intro own
          rw [own, found] at hc
          cases hc
          exact kept ⟨hcur, heldBy_iff.mpr ⟨agent, h, own⟩⟩
  | @beat connectionId heartbeat now token senderClosed found =>
    intro id agent h
    rw [recordHeartbeat_get] at h
    split at h
    · obtain ⟨before, hb, rfl⟩ := Option.map_eq_some_iff.mp h
      exact inv id before hb
    · exact inv id agent h
  | @removed connectionId token current senderClosed found =>
    intro id agent h
    rw [setConnection_agents, removeAgent_get] at h
    split at h
    next => cases h
    next kept =>
      obtain ⟨filed, connection, hc, hp, hcur⟩ := inv id agent h
      refine ⟨filed, connection, ?_, hp, hcur⟩
      rw [setConnection_connections, if_neg]
      · exact hc
      · intro own
        rw [own, found] at hc
        cases hc
        exact kept ⟨hcur, heldBy_iff.mpr ⟨agent, h, own⟩⟩
  | lookedUp => exact inv
  | answered => exact inv
  | loaded => exact inv
  | swapped => exact inv
  | counted => exact inv
  | notified => exact inv

theorem sessions_run (config : LoadedControlConfig) (es : List ServerEvent) :
    (run (step env) (init config) es).Sessions :=
  run_invariant (sessions_step) (sessions_init config) es

/-- A connection owns one entry at most. -/
theorem Sessions.unique {s : Server} (inv : s.Sessions) {id id' : String}
    {agent agent' : ConnectedAgent} (h : s.agents[id]? = some agent)
    (h' : s.agents[id']? = some agent') (same : agent.connectionId = agent'.connectionId) :
    id = id' := by
  obtain ⟨-, connection, hc, -, hcur⟩ := inv id agent h
  obtain ⟨-, connection', hc', -, hcur'⟩ := inv id' agent' h'
  rw [same, hc'] at hc
  cases hc
  exact Option.some.inj (hcur.symm.trans hcur')

/-! ## Closed connections -/

/-- A connection that is cleaned up. -/
def Closed (connectionId : String) (s : Server) : Prop :=
  ∃ connection, s.connections connectionId = some connection ∧ connection.phase = .closed

/-- Cleaned up connections stay so: no step finds one in a phase it acts on. -/
theorem closed_step (connectionId : String) (s : Server) (e : ServerEvent)
    (closed : s.Closed connectionId) : (step env s e).Closed connectionId := by
  obtain ⟨connection, hc, hp⟩ := closed
  -- A step that replaces some other connection's state leaves this one.
  have other : ∀ {id : String} {before after : Connection}, s.connections id = some before →
      before.phase ≠ .closed → (s.setConnection id after).Closed connectionId := by
    intro id before after found alive
    refine ⟨connection, ?_, hp⟩
    rw [setConnection_connections, if_neg]
    · exact hc
    · rintro rfl
      rw [found] at hc
      cases hc
      exact alive hp
  rcases step_acts env s e with same | acts
  · rw [same]
    exact ⟨connection, hc, hp⟩
  generalize step env s e = s' at acts
  cases acts with
  | opened fresh =>
    refine ⟨connection, ?_, hp⟩
    rw [setConnection_connections, if_neg]
    · exact hc
    · rintro rfl
      rw [fresh] at hc
      cases hc
  | accepted found => exact other found (by rintro ⟨⟩)
  | refused found => exact other found (by rintro ⟨⟩)
  | registered found => exact other found (by rintro ⟨⟩)
  | duplicate found => exact other found (by rintro ⟨⟩)
  | ended found => exact other found (by rintro ⟨⟩)
  | removed found => exact other found (by rintro ⟨⟩)
  | beat => exact ⟨connection, hc, hp⟩
  | lookedUp => exact ⟨connection, hc, hp⟩
  | answered => exact ⟨connection, hc, hp⟩
  | loaded => exact ⟨connection, hc, hp⟩
  | swapped => exact ⟨connection, hc, hp⟩
  | counted => exact ⟨connection, hc, hp⟩
  | notified => exact ⟨connection, hc, hp⟩

/-- The cleanup of a connection that stopped reading closes it. -/
theorem closed_removeAgent {s : Server} {connectionId : String} {connection : Connection}
    (found : s.connections connectionId = some connection) (ended : connection.phase = .ended) :
    (step env s (.removeAgent connectionId)).Closed connectionId := by
  obtain ⟨token, current, senderClosed, phase⟩ := connection
  subst ended
  simp only [step, found]
  exact ⟨_, by rw [setConnection_connections, if_pos rfl], rfl⟩

/-- No entry carries the id of a closed connection. -/
theorem Sessions.not_closed {s : Server} (inv : s.Sessions) {connectionId id : String}
    {agent : ConnectedAgent} (closed : s.Closed connectionId)
    (h : s.agents[id]? = some agent) : agent.connectionId ≠ connectionId := by
  rintro rfl
  obtain ⟨-, connection, hc, alive, -⟩ := inv id agent h
  obtain ⟨connection', hc', closed⟩ := closed
  rw [hc] at hc'
  cases hc'
  exact alive closed

/-! ## Frames -/

/-- **Only its own connection touches an entry.** -/
theorem agents_frame (s : Server) (e : ServerEvent) {id : String} {agent : ConnectedAgent}
    (h : s.agents[id]? = some agent) (touched : (step env s e).agents[id]? ≠ some agent) :
    e.connection = some agent.connectionId := by
  rcases step_acts env s e with same | acts
  · rw [same] at touched
    exact absurd h touched
  generalize step env s e = s' at acts touched
  cases acts with
  | @registered connectionId now hello token current senderClosed agents found inserted =>
    obtain ⟨free, get⟩ := registerAgentConnection_get inserted
    rw [setConnection_agents, get] at touched
    split at touched
    next same =>
      subst same
      exact congrArg some (free agent h).symm
    next =>
      split at touched
      next removed =>
        obtain ⟨held, hh, own⟩ := heldBy_iff.mp removed.2
        rw [h] at hh
        cases hh
        exact congrArg some own.symm
      next => exact absurd h touched
  | @beat connectionId heartbeat now token senderClosed found =>
    rw [recordHeartbeat_get] at touched
    split at touched
    next updated =>
      obtain ⟨held, hh, own⟩ := heldBy_iff.mp updated.2
      rw [h] at hh
      cases hh
      exact congrArg some own.symm
    next => exact absurd h touched
  | @removed connectionId token current senderClosed found =>
    rw [setConnection_agents, removeAgent_get] at touched
    split at touched
    next removed =>
      obtain ⟨held, hh, own⟩ := heldBy_iff.mp removed.2
      rw [h] at hh
      cases hh
      exact congrArg some own.symm
    next => exact absurd h touched
  | _ => exact absurd h touched

/-- Only its own events change a connection. -/
theorem connections_frame (s : Server) {e : ServerEvent} {connectionId : String}
    (other : e.connection ≠ some connectionId) :
    (step env s e).connections connectionId = s.connections connectionId := by
  rcases step_acts env s e with same | acts
  · rw [same]
  generalize step env s e = s' at acts
  have apart {id : String} {t : Server} {after : Connection} (same : t.connections = s.connections)
      (event : e.connection = some id) :
      (t.setConnection id after).connections connectionId = s.connections connectionId := by
    rw [setConnection_connections, if_neg, same]
    rintro rfl
    exact other event
  cases acts with
  | opened | accepted | refused | registered | duplicate | ended | removed => exact apart rfl rfl
  | _ => rfl

/-- The current id of a connection, if it is open. -/
def currentAgentId (s : Server) (connectionId : String) : Option String :=
  (s.connections connectionId).bind Connection.currentAgentId

/-- A hello whose credential is refused, or whose id another connection holds; a heartbeat for an
id that is not the connection's, that has no entry, or whose entry is another connection's. -/
inductive Rejected (env : Env) (s : Server) : ServerEvent → Prop
  | credential {connectionId : String} {hello : AgentHello} {token current : Option String}
      {senderClosed : Bool}
      (found : s.connections connectionId = some ⟨token, current, senderClosed, .reading⟩)
      (refused : agentHasConfigCredential env.sha256 s.config.config hello.agentId
        hello.hostname token = false) : Rejected env s (.hello connectionId hello)
  | duplicate {connectionId : String} {now : UInt64} {hello : AgentHello}
      {token current : Option String} {senderClosed : Bool} {agent : ConnectedAgent}
      (found : s.connections connectionId =
        some ⟨token, current, senderClosed, .registering hello⟩)
      (held : s.agents[hello.agentId]? = some agent) (other : agent.connectionId ≠ connectionId) :
      Rejected env s (.register connectionId now)
  | unbound {connectionId : String} {heartbeat : AgentHeartbeat} {now : UInt64}
      (unbound : s.currentAgentId connectionId ≠ some heartbeat.agentId) :
      Rejected env s (.heartbeat connectionId heartbeat now)
  | unknown {connectionId : String} {heartbeat : AgentHeartbeat} {now : UInt64}
      (unknown : s.agents[heartbeat.agentId]? = none) :
      Rejected env s (.heartbeat connectionId heartbeat now)
  | stale {connectionId : String} {heartbeat : AgentHeartbeat} {now : UInt64}
      {agent : ConnectedAgent} (held : s.agents[heartbeat.agentId]? = some agent)
      (other : agent.connectionId ≠ connectionId) :
      Rejected env s (.heartbeat connectionId heartbeat now)

/-- Replacing a connection's state by one with the same current id. -/
theorem setConnection_currentAgentId {s : Server} {connectionId : String}
    {before after : Connection} (found : s.connections connectionId = some before)
    (current : after.currentAgentId = before.currentAgentId) (id : String) :
    (s.setConnection connectionId after).currentAgentId id = s.currentAgentId id := by
  rw [currentAgentId, currentAgentId, setConnection_connections]
  split
  next same =>
    subst same
    rw [found]
    exact current
  next => rfl

/-- A heartbeat whose entry the connection does not hold changes nothing. -/
theorem recordHeartbeat_of_not_held {agents : Agents} {connectionId : String}
    {heartbeat : AgentHeartbeat} (now : UInt64)
    (held : ¬ heldBy agents heartbeat.agentId connectionId = true) :
    recordHeartbeat agents connectionId heartbeat now = agents := by
  unfold recordHeartbeat
  split
  next agent found =>
    split
    · rfl
    · next own => exact absurd (heldBy_iff.mpr ⟨agent, found, not_not.mp own⟩) held
  next => rfl

/-- **A rejected message changes neither the map nor any current id.** -/
theorem rejected_frame {s : Server} {e : ServerEvent} (rejected : Rejected env s e) :
    (step env s e).agents = s.agents ∧
      ∀ id, (step env s e).currentAgentId id = s.currentAgentId id := by
  -- A heartbeat that passes the check of its id but finds no entry of its own.
  have beat : ∀ {connectionId : String} {heartbeat : AgentHeartbeat} {now : UInt64},
      ¬ heldBy s.agents heartbeat.agentId connectionId = true →
      step env s (.heartbeat connectionId heartbeat now) = s := by
    intro connectionId heartbeat now held
    rw [step]
    split
    · split
      · rw [recordHeartbeat_of_not_held now held]
      · rfl
    · rfl
  cases rejected with
  | credential found refused =>
    simp only [step, found, refused, Bool.false_eq_true, if_false]
    exact ⟨rfl, setConnection_currentAgentId found rfl⟩
  | @duplicate connectionId now hello token current senderClosed agent found held other =>
    have none : registerAgentConnection s.agents connectionId current hello now = none := by
      rw [registerAgentConnection_eq, if_pos ⟨agent, held, other⟩]
    simp only [step, found, none]
    exact ⟨rfl, setConnection_currentAgentId found rfl⟩
  | @unbound connectionId heartbeat now unbound =>
    have same : step env s (.heartbeat connectionId heartbeat now) = s := by
      rw [step]
      split
      next found =>
        rw [currentAgentId, found] at unbound
        exact if_neg unbound
      next => rfl
    rw [same]
    exact ⟨rfl, fun _ => rfl⟩
  | unknown unknown =>
    rw [beat]
    · exact ⟨rfl, fun _ => rfl⟩
    · rw [heldBy_iff, unknown]
      rintro ⟨_, h, -⟩
      cases h
  | stale held other =>
    rw [beat]
    · exact ⟨rfl, fun _ => rfl⟩
    · rw [heldBy_iff, held]
      rintro ⟨_, h, own⟩
      cases h
      exact other own

/-! ## Session ownership -/

/-- **Session ownership.** In every reachable state, every entry is filed under its agent id and
belongs to a connection whose cleanup has not finished and whose current id it is; a connection
owns one entry at most, and none after its cleanup; an entry is touched only by its own
connection's steps; a rejected message leaves the map and every current id as they were. -/
theorem session_ownership (config : LoadedControlConfig) (es : List ServerEvent) :
    let s := run (step env) (init config) es
    (∀ (id : String) (agent : ConnectedAgent), s.agents[id]? = some agent → agent.agentId = id ∧
      ∃ connection, s.connections agent.connectionId = some connection ∧
        connection.phase ≠ .closed ∧ connection.currentAgentId = some id) ∧
    (∀ (id id' : String) (agent agent' : ConnectedAgent), s.agents[id]? = some agent →
      s.agents[id']? = some agent' → agent.connectionId = agent'.connectionId → id = id') ∧
    (∀ pre post connectionId connection, es = pre ++ .removeAgent connectionId :: post →
      (run (step env) (init config) pre).connections connectionId = some connection →
      connection.phase = .ended →
      ∀ (id : String) (agent : ConnectedAgent), s.agents[id]? = some agent →
        agent.connectionId ≠ connectionId) ∧
    (∀ (e : ServerEvent) (id : String) (agent : ConnectedAgent), s.agents[id]? = some agent →
      (step env s e).agents[id]? ≠ some agent → e.connection = some agent.connectionId) ∧
    (∀ e, Rejected env s e → (step env s e).agents = s.agents ∧
      ∀ connectionId, (step env s e).currentAgentId connectionId =
        s.currentAgentId connectionId) := by
  have inv : (run (step env) (init config) es).Sessions := sessions_run config es
  refine ⟨inv, fun _ _ _ _ => inv.unique, ?_, fun e _ _ => agents_frame _ e,
    fun _ => rejected_frame⟩
  rintro pre post connectionId connection rfl found ended id agent h
  refine inv.not_closed ?_ h
  rw [run_append, run_cons]
  exact run_invariant (closed_step connectionId) (closed_removeAgent found ended) post

end Server

end Talia
