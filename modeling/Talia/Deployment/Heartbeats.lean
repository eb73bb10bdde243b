import Talia.Agent.Runner
import Talia.Control.Socket
import Talia.Deployment.Refinement

/-!
# What the server shows of an agent

An agent says hello when it opens its WebSocket, and from then on reports, heartbeat by heartbeat,
the version of the configuration it has applied and the collectors that enables. `Reporting` is the
deployment with these messages under way: the agent writes them at its own pace, whatever else its
tasks do, and the server reads them in order, at its own.

The entry that the server shows of the agent is what the agent said last of what the server has read
(`Told`), so a state the agent was in when it said so. Where the server has read everything, and
nothing was applied since a heartbeat, it is the state the agent is in (`agent_as_reported`). It is not
shown that the server ever has.
-/

namespace Talia

/-- What an agent tells of itself, beside its id. -/
structure Presence where
  hostname : String
  agentVersion : String
  bootId : Option String

/-- The names of the collectors that a configuration enables. -/
def enabledCollectors (config : AgentRuntimeConfig) : List String :=
  (collectorSpecs.filter fun spec => (spec.schedule config).1).map (·.name)

namespace Presence

variable (presence : Presence) (agentId : String)

/-- The hello that the agent sends. -/
def hello : AgentHello := ⟨agentId, presence.hostname, presence.agentVersion, presence.bootId⟩

/-- The heartbeat that it sends under a configuration. -/
def heartbeat (config : AgentRuntimeConfig) : AgentHeartbeat :=
  ⟨agentId, presence.hostname, presence.agentVersion, config.version, enabledCollectors config⟩

end Presence

/-- The connection that a step opens for the agent. -/
def Deployment.opens (site : Site) (s : Deployment) : Deployment.Event → Option String
  | .connect connectionId =>
    match s.link, s.server.connections connectionId with
    | none, none =>
      if authorized site.env.sha256 site.websocketHeaders site.env.agentToken then
        some connectionId
      else none
    | _, _ => none
  | _ => none

/-- The deployment with what the agent says on its connections. -/
structure Reporting where
  deployment : Deployment
  /-- What the agent wrote on each connection it opened, oldest first. -/
  sent : String → List AgentControlMessage
  /-- How much of it the server has read. -/
  handled : String → ℕ

namespace Reporting

open Transition

/-- At first the agent has said nothing. -/
def init (config : LoadedControlConfig) (bootstrap : AgentBootstrapConfig) (dir : StateDir) :
    Reporting :=
  ⟨Deployment.init config bootstrap dir, fun _ => [], fun _ => 0⟩

/-- What the deployment does, and the agent's heartbeats with their way to the server. -/
inductive Event where
  | deployment (e : Deployment.Event)
  /-- The agent sends a heartbeat. -/
  | heartbeat
  /-- The server reads what comes next on a connection of the agent. -/
  | handle (connectionId : String) (now : UInt64)

variable (site : Site) (presence : Presence)

/-- The agent says something on a connection. -/
def say (s : Reporting) (connectionId : String) (message : AgentControlMessage) : Reporting :=
  { s with sent := Function.update s.sent connectionId (s.sent connectionId ++ [message]) }

/-- The step would have the server read something the agent did not write. -/
def forged (s : Reporting) : Deployment.Event → Bool
  | .server (.hello connectionId _) => s.sent connectionId ≠ []
  | .server (.heartbeat connectionId _ _) => s.sent connectionId ≠ []
  | _ => false

/-- A message is a step of the server that reads it. -/
def reads (connectionId : String) (now : UInt64) : AgentControlMessage → ServerEvent
  | .hello greeting => .hello connectionId greeting
  | .heartbeat report => .heartbeat connectionId report now

/-- The server hears of the agent what the agent has said, and no other event on one of its
connections (`forged`). -/
def step (s : Reporting) : Event → Reporting
  | .deployment e =>
    if s.forged e then s
    else
      let stepped : Reporting := { s with deployment := s.deployment.step site e }
      match s.deployment.opens site e with
      | some connectionId =>
        stepped.say connectionId (.hello (presence.hello site.identity.agentId))
      | none => stepped
  -- The WebSocket task sends nothing while it refreshes.
  | .heartbeat =>
    match s.deployment.agent.refresh .websocket, s.deployment.link with
    | .idle, some link =>
      s.say link.connectionId (.heartbeat
        (presence.heartbeat site.identity.agentId s.deployment.agent.sharedConfig))
    | _, _ => s
  | .handle connectionId now =>
    match s.deployment.server.connections connectionId,
      (s.sent connectionId)[s.handled connectionId]? with
    | some ⟨_, _, _, .reading⟩, some message =>
      { s with
        deployment := s.deployment.step site (.server (reads connectionId now message))
        handled := Function.update s.handled connectionId (s.handled connectionId + 1) }
    | _, _ => s

/-- What a step writes on a connection. -/
def writes (connectionId : String) (s : Reporting) : Event → Option AgentControlMessage
  | .deployment e =>
    if s.deployment.opens site e = some connectionId then
      some (.hello (presence.hello site.identity.agentId))
    else none
  | .heartbeat =>
    match s.deployment.agent.refresh .websocket, s.deployment.link with
    | .idle, some link =>
      if link.connectionId = connectionId then
        some (.heartbeat
          (presence.heartbeat site.identity.agentId s.deployment.agent.sharedConfig))
      else none
    | _, _ => none
  | .handle .. => none

end Reporting

/-! ## What the server makes of it -/

/-- The heartbeat among the messages that came last. -/
def lastReport (told : List AgentControlMessage) : Option AgentHeartbeat :=
  (told.filterMap fun
    | .hello _ => none
    | .heartbeat report => some report).getLast?

@[simp] theorem lastReport_heartbeat (told : List AgentControlMessage) (report : AgentHeartbeat) :
    lastReport (told ++ [.heartbeat report]) = some report := by
  rw [lastReport, List.filterMap_append]
  exact List.getLast?_concat

/-- The entry is that of an agent which introduced itself and told this since. -/
structure ConnectedAgent.Shows (agent : ConnectedAgent) (presence : Presence) (agentId : String)
    (told : List AgentControlMessage) : Prop where
  agentId : agent.agentId = agentId
  hostname : agent.hostname = presence.hostname
  agentVersion : agent.agentVersion = presence.agentVersion
  bootId : agent.bootId = presence.bootId
  configVersion : agent.configVersion = (lastReport told).map (·.configVersion)
  enabledCollectors : agent.enabledCollectors = (lastReport told).elim [] (·.enabledCollectors)

namespace Server

variable {env : Env} {presence : Presence} {agentId connectionId : String}
  {told : List AgentControlMessage}

/-- The server has been told this on a connection of the agent. -/
structure Told (presence : Presence) (agentId connectionId : String)
    (told : List AgentControlMessage) (s : Server) : Prop where
  opened : s.Opened connectionId
  current : ∀ connection, s.connections connectionId = some connection →
    connection.currentAgentId = none ∨ connection.currentAgentId = some agentId
  greeted : ∀ token current senderClosed greeting,
    s.connections connectionId = some ⟨token, current, senderClosed, .registering greeting⟩ →
      greeting = presence.hello agentId ∧ told = [.hello greeting]
  entries : ∀ (id : String) (agent : ConnectedAgent), s.agents[id]? = some agent →
    agent.connectionId = connectionId → agent.Shows presence agentId told

/-- The step has the server read nothing on the connection. -/
def Unheard (connectionId : String) (e : ServerEvent) : Prop :=
  (∀ greeting, e ≠ .hello connectionId greeting) ∧
    ∀ report now, e ≠ .heartbeat connectionId report now

/-- What becomes of another connection does not matter. -/
theorem Told.setConnection {s : Server} (inv : s.Told presence agentId connectionId told)
    {id : String} (other : id ≠ connectionId) (connection : Connection) :
    (s.setConnection id connection).Told presence agentId connectionId told := by
  have same : (s.setConnection id connection).connections connectionId =
      s.connections connectionId := by
    rw [setConnection_connections, if_neg (Ne.symm other)]
  exact ⟨by rw [Opened, same]; exact inv.opened, by rw [same]; exact inv.current,
    by rw [same]; exact inv.greeted, inv.entries⟩

/-- The connection moves on, short of a hello. -/
theorem Told.moved {s : Server} (inv : s.Told presence agentId connectionId told)
    {connection : Connection}
    (current : connection.currentAgentId = none ∨ connection.currentAgentId = some agentId)
    (quiet : ∀ greeting, connection.phase ≠ .registering greeting) :
    (s.setConnection connectionId connection).Told presence agentId connectionId told := by
  have there : (s.setConnection connectionId connection).connections connectionId =
      some connection := by
    rw [setConnection_connections, if_pos rfl]
  refine ⟨?_, ?_, ?_, inv.entries⟩
  · rw [Opened, there]
    rintro ⟨⟩
  · rw [there]
    rintro _ ⟨⟩
    exact current
  · rw [there]
    rintro token current' senderClosed greeting ⟨⟩
    exact absurd rfl (quiet greeting)

/-- The agents map may change where the connection's entries stay. -/
theorem Told.setAgents {s : Server} (inv : s.Told presence agentId connectionId told)
    {agents : Agents}
    (entries : ∀ (id : String) (agent : ConnectedAgent), agents[id]? = some agent →
      agent.connectionId = connectionId → agent.Shows presence agentId told) :
    { s with agents := agents }.Told presence agentId connectionId told :=
  ⟨inv.opened, inv.current, inv.greeted, entries⟩

/-- **What the server was told stays what it shows**, as long as it reads nothing more. -/
theorem told_step {s : Server} (inv : s.Told presence agentId connectionId told)
    {e : ServerEvent} (unheard : Unheard connectionId e) :
    (step env s e).Told presence agentId connectionId told := by
  rcases step_acts env s e with same | acts
  · rw [same]
    exact inv
  generalize step env s e = s' at acts
  cases acts with
  | opened fresh =>
    refine inv.setConnection ?_ _
    rintro rfl
    exact inv.opened fresh
  | accepted found =>
    refine inv.setConnection ?_ _
    rintro rfl
    exact unheard.1 _ rfl
  | refused found =>
    refine inv.setConnection ?_ _
    rintro rfl
    exact unheard.1 _ rfl
  | @registered id now greeting token current senderClosed agents found inserted =>
    obtain ⟨-, get⟩ := registerAgentConnection_get inserted
    by_cases own : id = connectionId
    · subst own
      obtain ⟨rfl, rfl⟩ := inv.greeted _ _ _ _ found
      refine (inv.setAgents fun id' agent there same => ?_).moved (.inr rfl) ?_
      · rw [get] at there
        split at there
        next =>
          cases there
          exact ⟨rfl, rfl, rfl, rfl, rfl, rfl⟩
        next =>
          split at there
          next => cases there
          next => exact inv.entries id' agent there same
      · intro greeting
        cases senderClosed <;> exact Phase.noConfusion
    · refine (inv.setAgents fun id' agent there same => ?_).setConnection own _
      rw [get] at there
      split at there
      next =>
        cases there
        exact absurd same own
      next =>
        split at there
        next => cases there
        next => exact inv.entries id' agent there same
  | @duplicate id _ _ _ current _ found =>
    by_cases own : id = connectionId
    · subst own
      have bound : current = none ∨ current = some agentId := inv.current _ found
      exact inv.moved bound fun _ => Phase.noConfusion
    · exact inv.setConnection own _
  | @beat id report now _ _ found =>
    refine inv.setAgents fun id' agent there same => ?_
    rw [recordHeartbeat_get] at there
    split at there
    next held =>
      obtain ⟨before, prior, rfl⟩ := Option.map_eq_some_iff.mp there
      obtain ⟨holder, at_id, holds⟩ := heldBy_iff.mp held.2
      cases prior.symm.trans at_id
      exact absurd (by rw [← same, ← holds]; rfl) (unheard.2 report now)
    next => exact inv.entries id' agent there same
  | @ended id _ current _ found =>
    by_cases own : id = connectionId
    · subst own
      have bound : current = none ∨ current = some agentId := inv.current _ found
      exact inv.moved bound fun _ => Phase.noConfusion
    · exact inv.setConnection own _
  | @removed id token current _ found =>
    have kept : ∀ (id' : String) (agent : ConnectedAgent),
        (Talia.removeAgent s.agents id current)[id']? = some agent →
          agent.connectionId = connectionId → agent.Shows presence agentId told := by
      intro id' agent there same
      rw [removeAgent_get] at there
      split at there
      next => cases there
      next => exact inv.entries id' agent there same
    by_cases own : id = connectionId
    · subst own
      have bound : current = none ∨ current = some agentId := inv.current _ found
      exact (inv.setAgents kept).moved bound fun _ => Phase.noConfusion
    · exact (inv.setAgents kept).setConnection own _
  | _ => exact ⟨inv.opened, inv.current, inv.greeted, inv.entries⟩

/-- A hello that is read. -/
theorem told_hello {s : Server} {token current : Option String} {senderClosed : Bool}
    (inv : s.Told presence agentId connectionId [])
    (found : s.connections connectionId = some ⟨token, current, senderClosed, .reading⟩) :
    (step env s (.hello connectionId (presence.hello agentId))).Told presence agentId connectionId
      [.hello (presence.hello agentId)] := by
  have bound : current = none ∨ current = some agentId := inv.current _ found
  have shown : s.Told presence agentId connectionId [.hello (presence.hello agentId)] := by
    refine ⟨inv.opened, inv.current, ?_, fun id agent there same => ?_⟩
    · intro token current senderClosed greeting registering
      rw [found] at registering
      cases registering
    · obtain ⟨id, hostname, version, boot, config, collectors⟩ := inv.entries id agent there same
      exact ⟨id, hostname, version, boot, config, collectors⟩
  simp only [step, found]
  split
  next =>
    refine ⟨?_, ?_, ?_, shown.entries⟩
    · rw [Opened, setConnection_connections, if_pos rfl]
      rintro ⟨⟩
    · rw [setConnection_connections, if_pos rfl]
      rintro _ ⟨⟩
      exact bound
    · rw [setConnection_connections, if_pos rfl]
      rintro _ _ _ _ ⟨⟩
      exact ⟨rfl, rfl⟩
  next => exact shown.moved bound fun _ => Phase.noConfusion

/-- A heartbeat that is read. -/
theorem told_heartbeat {s : Server} {token current : Option String} {senderClosed : Bool}
    (sessions : s.Sessions) (inv : s.Told presence agentId connectionId told)
    (found : s.connections connectionId = some ⟨token, current, senderClosed, .reading⟩)
    (config : AgentRuntimeConfig) (now : UInt64) :
    (step env s (.heartbeat connectionId (presence.heartbeat agentId config) now)).Told presence
      agentId connectionId (told ++ [.heartbeat (presence.heartbeat agentId config)]) := by
  have reading : ∀ token current senderClosed greeting, s.connections connectionId ≠
      some ⟨token, current, senderClosed, .registering greeting⟩ := by
    intro token current senderClosed greeting registering
    rw [found] at registering
    cases registering
  -- An entry of the connection is under the agent's id, which the connection is bound to.
  have filed : ∀ (id : String) (agent : ConnectedAgent), s.agents[id]? = some agent →
      agent.connectionId = connectionId → id = agentId ∧ current = some agentId := by
    rintro id agent there rfl
    obtain ⟨-, connection, found', -, bound⟩ := sessions id agent there
    cases found.symm.trans found'
    rcases inv.current _ found with unbound | bound'
    · cases unbound.symm.trans bound
    · cases bound'.symm.trans bound
      exact ⟨rfl, bound⟩
  simp only [step, found]
  split
  next =>
    refine ⟨inv.opened, inv.current, fun _ _ _ _ registering => ?_, ?_⟩
    · exact absurd registering (reading _ _ _ _)
    intro id agent there same
    rw [recordHeartbeat_get] at there
    split at there
    next held =>
      obtain ⟨before, prior, rfl⟩ := Option.map_eq_some_iff.mp there
      obtain ⟨shownId, -, -, boot, -, -⟩ := inv.entries id before prior same
      exact ⟨shownId, rfl, rfl, boot, by rw [lastReport_heartbeat]; rfl,
        by rw [lastReport_heartbeat]; rfl⟩
    next other =>
      exact absurd ⟨(filed id agent there same).1.symm, heldBy_iff.mpr ⟨agent, there, same⟩⟩ other
  next unbound =>
    refine ⟨inv.opened, inv.current, fun _ _ _ _ registering => ?_, ?_⟩
    · exact absurd registering (reading _ _ _ _)
    intro id agent there same
    exact absurd (filed id agent there same).2 unbound

end Server

namespace Deployment

variable {site : Site}

/-- The step of the server that a step of the deployment takes. -/
def serverEvent (site : Site) (s : Deployment) : Event → Option ServerEvent
  | .server e => some e
  | .connect connectionId =>
    (s.opens site (.connect connectionId)).map (.agentControl · site.websocketHeaders)
  | _ => none

/-- A step opens a connection if it connects a free one with the agent's credential. -/
theorem opens_eq_some {s : Deployment} {e : Event} {connectionId : String}
    (opened : s.opens site e = some connectionId) :
    e = .connect connectionId ∧ s.server.connections connectionId = none ∧
      authorized site.env.sha256 site.websocketHeaders site.env.agentToken = true := by
  cases e with
  | connect id =>
    rw [opens] at opened
    split at opened
    next fresh =>
      split at opened
      next accepted =>
        cases opened
        exact ⟨rfl, fresh, accepted⟩
      next => cases opened
    next => cases opened
  | _ => cases opened

/-- What a task launches leaves the server alone. -/
theorem launch_server (s : Deployment) (task : Task) (e : Agent.Event) :
    (s.launch site task e).server = s.server := by
  rw [launch]
  split <;> rfl

/-- It leaves the link alone. -/
theorem launch_link (s : Deployment) (task : Task) (e : Agent.Event) :
    (s.launch site task e).link = s.link := by
  rw [launch]
  split <;> rfl

/-- The server makes a step where the deployment passes it an event. -/
theorem step_server (s : Deployment) (e : Event) :
    (step site s e).server =
      (serverEvent site s e).elim s.server (Server.step site.env s.server) := by
  cases e with
  | server e => rfl
  | connect connectionId =>
    simp only [step, serverEvent, opens]
    cases s.link with
    | some link => rfl
    | none =>
      cases s.server.connections connectionId with
      | some connection => rfl
      | none =>
        cases authorized site.env.sha256 site.websocketHeaders site.env.agentToken <;> rfl
  | acknowledge =>
    rw [step]
    split
    · exact launch_server ..
    · rfl
  | notify =>
    rw [step]
    split
    · split
      · exact launch_server ..
      · rfl
    · rfl
  | disconnect =>
    rw [step]
    split <;> rfl
  | poll => exact launch_server ..
  | lookup task =>
    rw [step]
    split
    · split <;> rfl
    · rfl
  | read task =>
    rw [step]
    split <;> rfl
  | receive task =>
    rw [step]
    split <;> rfl
  | fail task =>
    rw [step]
    split <;> rfl
  | validate task => rfl
  | save task fault => rfl
  | apply task =>
    rw [step]
    split <;> rfl

/-- The agent's WebSocket is the one it had, or the one that the step opens. -/
theorem step_link {s : Deployment} {e : Event} {link : Link}
    (after : (step site s e).link = some link) :
    s.opens site e = some link.connectionId ∨
      ∃ before, s.link = some before ∧ before.connectionId = link.connectionId := by
  have kept (same : (step site s e).link = s.link) :
      ∃ before, s.link = some before ∧ before.connectionId = link.connectionId :=
    ⟨link, same.symm.trans after, rfl⟩
  cases e with
  | server e =>
    obtain ⟨before, found, rfl⟩ := Option.map_eq_some_iff.mp after
    exact .inr ⟨before, found, rfl⟩
  | connect connectionId =>
    rw [step] at after
    split at after
    next fresh closed =>
      split at after
      next accepted =>
        cases after
        simp only [opens, fresh, closed, if_pos accepted]
        exact .inl trivial
      next => exact .inr ⟨link, after, rfl⟩
    next => exact .inr ⟨link, after, rfl⟩
  | acknowledge =>
    rw [step] at after
    split at after
    next found =>
      rw [launch_link] at after
      cases after
      exact .inr ⟨_, found, rfl⟩
    next => exact .inr ⟨link, after, rfl⟩
  | notify =>
    rw [step] at after
    split at after
    next found =>
      split at after
      next =>
        rw [launch_link] at after
        cases after
        exact .inr ⟨_, found, rfl⟩
      next => exact .inr ⟨link, after, rfl⟩
    next => exact .inr ⟨link, after, rfl⟩
  | disconnect =>
    rw [step] at after
    split at after
    next => cases after
    next => exact .inr ⟨link, after, rfl⟩
  | poll => exact .inr (kept (launch_link ..))
  | lookup task =>
    refine .inr (kept ?_)
    rw [step]
    split
    · split <;> rfl
    · rfl
  | read task | receive task | fail task | apply task =>
    refine .inr (kept ?_)
    rw [step]
    split <;> rfl
  | validate task => exact .inr (kept rfl)
  | save task fault => exact .inr (kept rfl)

/-- Only an apply changes the agent's configuration. -/
theorem sharedConfig_frame (s : Deployment) {e : Event} (other : ∀ task, e ≠ .apply task) :
    (step site s e).agent.sharedConfig = s.agent.sharedConfig := by
  have acted (d : Agent.Event) (kept : ∀ task, d ≠ .apply task) :
      (s.agent.step d).sharedConfig = s.agent.sharedConfig := Agent.sharedConfig_frame _ kept
  have launched (t : Deployment) (task : Task) (d : Agent.Event) (same : t.agent = s.agent)
      (kept : ∀ task, d ≠ .apply task) :
      (t.launch site task d).agent.sharedConfig = s.agent.sharedConfig := by
    rw [launch, same]
    split <;> exact acted d kept
  cases e with
  | server e => rfl
  | connect connectionId =>
    rw [step]
    split
    · split <;> rfl
    · rfl
  | acknowledge =>
    rw [step]
    split
    · exact launched _ _ _ rfl (by rintro _ ⟨⟩)
    · rfl
  | notify =>
    rw [step]
    split
    · split
      · exact launched _ _ _ rfl (by rintro _ ⟨⟩)
      · rfl
    · rfl
  | disconnect =>
    rw [step]
    split
    · exact acted _ (by rintro _ ⟨⟩)
    · rfl
  | poll => exact launched s _ _ rfl (by rintro _ ⟨⟩)
  | lookup task =>
    rw [step]
    split
    · split <;> rfl
    · rfl
  | read task =>
    rw [step]
    split <;> rfl
  | receive task | fail task =>
    rw [step]
    split
    · exact acted _ (by rintro _ ⟨⟩)
    · rfl
  | validate task => exact acted _ (by rintro _ ⟨⟩)
  | save task fault => exact acted _ (by rintro _ ⟨⟩)
  | apply task => exact absurd rfl (other task)

end Deployment

namespace Reporting

open Transition

variable {site : Site} {presence : Presence}

/-- What the server has read on a connection. -/
def told (s : Reporting) (connectionId : String) : List AgentControlMessage :=
  (s.sent connectionId).take (s.handled connectionId)

/-- The server shows what the agent told it on each connection. -/
structure Faithful (site : Site) (presence : Presence) (s : Reporting) : Prop where
  sessions : s.deployment.server.Sessions
  wrote : ∀ connectionId, s.sent connectionId ≠ [] → ∃ configs : List AgentRuntimeConfig,
    s.sent connectionId = .hello (presence.hello site.identity.agentId) ::
      configs.map fun config => .heartbeat (presence.heartbeat site.identity.agentId config)
  read : ∀ connectionId, s.handled connectionId ≤ (s.sent connectionId).length
  shown : ∀ connectionId, s.sent connectionId ≠ [] → s.deployment.server.Told presence
    site.identity.agentId connectionId (s.told connectionId)
  linked : ∀ link, s.deployment.link = some link → s.sent link.connectionId ≠ []

/-- At first nothing was told. -/
theorem faithful_init (config : LoadedControlConfig) (bootstrap : AgentBootstrapConfig)
    (dir : StateDir) : Faithful site presence (init config bootstrap dir) where
  sessions := Server.sessions_init config
  wrote := fun _ wrote => absurd rfl wrote
  read := fun _ => le_rfl
  shown := fun _ wrote => absurd rfl wrote
  linked := fun _ found => nomatch found

@[simp] theorem say_deployment (s : Reporting) (connectionId : String)
    (message : AgentControlMessage) : (s.say connectionId message).deployment = s.deployment := rfl

@[simp] theorem say_handled (s : Reporting) (connectionId : String)
    (message : AgentControlMessage) : (s.say connectionId message).handled = s.handled := rfl

/-- A message is sent over its own connection. -/
theorem say_sent (s : Reporting) (connectionId id : String) (message : AgentControlMessage) :
    (s.say connectionId message).sent id =
      if id = connectionId then s.sent id ++ [message] else s.sent id := by
  simp only [say, Function.update_apply]
  split
  next same => rw [same]
  next => rfl

/-- What is written later is not what was read. -/
theorem told_say {s : Reporting} (read : ∀ connectionId, s.handled connectionId ≤
      (s.sent connectionId).length) (connectionId id : String) (message : AgentControlMessage) :
    (s.say connectionId message).told id = s.told id := by
  rw [told, told, say_sent, say_handled]
  split
  next => exact List.take_append_of_le_length (read id)
  next => rfl

/-- Another heartbeat, or none. -/
theorem Faithful.beat {s : Reporting} (inv : Faithful site presence s) {connectionId : String}
    (wrote : s.sent connectionId ≠ []) (config : AgentRuntimeConfig) :
    Faithful site presence (s.say connectionId
      (.heartbeat (presence.heartbeat site.identity.agentId config))) where
  sessions := inv.sessions
  wrote := by
    intro id written
    rw [say_sent] at written ⊢
    split
    next same =>
      subst same
      obtain ⟨configs, sent⟩ := inv.wrote id wrote
      refine ⟨configs ++ [config], ?_⟩
      rw [sent, List.map_append]
      rfl
    next other =>
      rw [if_neg other] at written
      exact inv.wrote id written
  read := by
    intro id
    rw [say_sent, say_handled]
    split
    next => exact (inv.read id).trans (by simp)
    next => exact inv.read id
  shown := by
    intro id written
    rw [told_say inv.read]
    rw [say_sent] at written
    split at written
    next same => exact inv.shown id (same ▸ wrote)
    next => exact inv.shown id written
  linked := by
    intro link found
    rw [say_sent]
    split
    · exact List.append_ne_nil_of_right_ne_nil _ (List.cons_ne_nil _ _)
    · exact inv.linked link found

/-- A step of the deployment that has the server read nothing of the agent and opens nothing. -/
theorem Faithful.act {s : Reporting} (inv : Faithful site presence s) {e : Deployment.Event}
    (honest : s.forged e = false) (opens : s.deployment.opens site e = none) :
    Faithful site presence { s with deployment := s.deployment.step site e } where
  sessions := by
    rw [Deployment.step_server]
    cases Deployment.serverEvent site s.deployment e with
    | none => exact inv.sessions
    | some d => exact Server.sessions_step _ _ inv.sessions
  wrote := inv.wrote
  read := inv.read
  shown := by
    intro connectionId written
    have shown := inv.shown connectionId written
    rw [Deployment.step_server]
    cases event : Deployment.serverEvent site s.deployment e with
    | none => exact shown
    | some d =>
      refine Server.told_step shown ?_
      cases e with
      | server e =>
        cases event
        constructor
        · rintro greeting rfl
          exact absurd written (of_decide_eq_false honest)
        · rintro report now rfl
          exact absurd written (of_decide_eq_false honest)
      | connect id =>
        rw [Deployment.serverEvent, opens] at event
        cases event
      | _ => cases event
  linked := by
    intro link found
    rcases Deployment.step_link found with opened | ⟨before, found, same⟩
    · rw [opens] at opened
      cases opened
    · exact same ▸ inv.linked before found

/-- The agent opens its WebSocket and says hello. -/
theorem Faithful.connect {s : Reporting} (inv : Faithful site presence s) {connectionId : String}
    (opens : s.deployment.opens site (.connect connectionId) = some connectionId) :
    Faithful site presence
      ({ s with deployment := s.deployment.step site (.connect connectionId) }.say connectionId
        (.hello (presence.hello site.identity.agentId))) := by
  obtain ⟨-, fresh, accepted⟩ := Deployment.opens_eq_some opens
  have unsaid : s.sent connectionId = [] := by
    by_contra wrote
    exact (inv.shown connectionId wrote).opened fresh
  have unread : s.handled connectionId = 0 := by
    have read := inv.read connectionId
    rw [unsaid] at read
    exact Nat.le_zero.mp read
  have stepped : (s.deployment.step site (.connect connectionId)).server =
      Server.step site.env s.deployment.server
        (.agentControl connectionId site.websocketHeaders) := by
    rw [Deployment.step_server, Deployment.serverEvent, opens]
    rfl
  -- No entry carries the id of a connection that was not there.
  have shown : (Server.step site.env s.deployment.server
      (.agentControl connectionId site.websocketHeaders)).Told presence site.identity.agentId
        connectionId [] := by
    simp only [Server.step, fresh, if_pos accepted]
    refine ⟨?_, ?_, ?_, ?_⟩
    · rw [Server.Opened, Server.setConnection_connections, if_pos rfl]
      rintro ⟨⟩
    · rw [Server.setConnection_connections, if_pos rfl]
      rintro _ ⟨⟩
      exact .inl rfl
    · rw [Server.setConnection_connections, if_pos rfl]
      rintro _ _ _ _ ⟨⟩
    · rintro id agent there rfl
      obtain ⟨-, connection, found, -⟩ := inv.sessions id agent there
      rw [fresh] at found
      cases found
  constructor
  · rw [say_deployment, stepped]
    exact Server.sessions_step _ _ inv.sessions
  · intro id wrote
    rw [say_sent] at wrote ⊢
    split
    next same =>
      refine ⟨[], ?_⟩
      rw [same, unsaid]
      rfl
    next other =>
      rw [if_neg other] at wrote
      exact inv.wrote id wrote
  · intro id
    rw [say_sent, say_handled]
    split
    next => exact (inv.read id).trans (by simp)
    next => exact inv.read id
  · intro id wrote
    rw [told_say (s := { s with deployment := s.deployment.step site (.connect connectionId) })
      inv.read, say_deployment, stepped]
    by_cases same : id = connectionId
    · subst same
      have nothing : told { s with deployment := s.deployment.step site (.connect id) } id =
          [] := by
        rw [told, unread, List.take_zero]
      rw [nothing]
      exact shown
    · rw [say_sent, if_neg same] at wrote
      exact Server.told_step (inv.shown id wrote) ⟨by rintro _ ⟨⟩, by rintro _ _ ⟨⟩⟩
  · intro link found
    rw [say_sent]
    split
    · exact List.append_ne_nil_of_right_ne_nil _ (List.cons_ne_nil _ _)
    next other =>
      rcases Deployment.step_link found with opened | ⟨before, found, same⟩
      · rw [opens] at opened
        cases opened
        exact absurd rfl other
      · exact same ▸ inv.linked before found

/-- What comes next after what was told. -/
theorem told_handle (s : Reporting) (deployment : Deployment) {connectionId : String}
    {message : AgentControlMessage}
    (next : (s.sent connectionId)[s.handled connectionId]? = some message) (id : String) :
    told { s with
      deployment := deployment
      handled := Function.update s.handled connectionId (s.handled connectionId + 1) } id =
      if id = connectionId then s.told id ++ [message] else s.told id := by
  simp only [told, Function.update_apply]
  split
  next same =>
    subst same
    rw [List.take_add_one, next]
    rfl
  next => rfl

/-- The server reads what comes next. -/
theorem Faithful.handle {s : Reporting} (inv : Faithful site presence s) {connectionId : String}
    {token current : Option String} {senderClosed : Bool} {message : AgentControlMessage}
    (found : s.deployment.server.connections connectionId =
      some ⟨token, current, senderClosed, .reading⟩)
    (next : (s.sent connectionId)[s.handled connectionId]? = some message) (now : UInt64) :
    Faithful site presence { s with
      deployment := s.deployment.step site (.server (reads connectionId now message))
      handled := Function.update s.handled connectionId (s.handled connectionId + 1) } := by
  obtain ⟨within, -⟩ := List.getElem?_eq_some_iff.mp next
  constructor
  · exact Server.sessions_step _ _ inv.sessions
  · exact inv.wrote
  · intro id
    simp only [Function.update_apply]
    split
    next same =>
      rw [same]
      exact within
    next => exact inv.read id
  · intro id wrote
    rw [told_handle s _ next]
    show (Server.step site.env s.deployment.server _).Told _ _ _ _
    by_cases same : id = connectionId
    · subst same
      rw [if_pos rfl]
      have shown := inv.shown id wrote
      obtain ⟨configs, sent⟩ := inv.wrote id wrote
      cases read : s.handled id with
      | zero =>
        rw [sent, read] at next
        cases next
        have nothing : s.told id = [] := by rw [told, read, List.take_zero]
        rw [nothing] at shown ⊢
        exact Server.told_hello shown found
      | succ n =>
        rw [sent, read, List.getElem?_cons_succ, List.getElem?_map] at next
        obtain ⟨config, -, rfl⟩ := Option.map_eq_some_iff.mp next
        exact Server.told_heartbeat inv.sessions shown found config now
    · rw [if_neg same]
      refine Server.told_step (inv.shown id wrote) ⟨?_, ?_⟩
      · rintro greeting reading
        cases message with
        | hello => cases reading; exact same rfl
        | heartbeat => cases reading
      · rintro report now' reading
        cases message with
        | hello => cases reading
        | heartbeat => cases reading; exact same rfl
  · intro link after
    rcases Deployment.step_link after with opened | ⟨before, found, same⟩
    · cases opened
    · exact same ▸ inv.linked before found

/-- **Each step keeps the reports faithful.** -/
theorem faithful_step (s : Reporting) (e : Event) (inv : Faithful site presence s) :
    Faithful site presence (step site presence s e) := by
  cases e with
  | deployment e =>
    rw [step]
    split
    next => exact inv
    next honest =>
      have honest : s.forged e = false := Bool.eq_false_iff.mpr honest
      split
      next connectionId opened =>
        obtain ⟨rfl, -⟩ := Deployment.opens_eq_some opened
        exact inv.connect opened
      next opens => exact inv.act honest opens
  | heartbeat =>
    rw [step]
    split
    next link _ linked => exact inv.beat (inv.linked link linked) _
    next => exact inv
  | handle connectionId now =>
    rw [step]
    split
    next found next => exact inv.handle found next now
    next => exact inv

/-! ## What was written -/

/-- What is sent over a connection is what the steps write to it. -/
theorem sent_step (connectionId : String) (s : Reporting) (e : Event) :
    (step site presence s e).sent connectionId =
      s.sent connectionId ++ (writes site presence connectionId s e).toList := by
  cases e with
  | deployment e =>
    simp only [step, writes]
    split
    next forged =>
      have opens : s.deployment.opens site e = none := by
        cases e with
        | server e => rfl
        | _ => cases forged
      rw [opens, if_neg (by rintro ⟨⟩)]
      exact (List.append_nil _).symm
    next =>
      cases s.deployment.opens site e with
      | none => exact (List.append_nil _).symm
      | some id =>
        rw [say_sent]
        by_cases same : id = connectionId
        · rw [if_pos same.symm, if_pos (congrArg some same)]
          rfl
        · rw [if_neg (Ne.symm same), if_neg fun h => same (Option.some.inj h)]
          exact (List.append_nil _).symm
  | heartbeat =>
    simp only [step, writes]
    split
    next link _ _ =>
      rw [say_sent]
      by_cases same : link.connectionId = connectionId
      · rw [if_pos same.symm, if_pos same]
        rfl
      · rw [if_neg (Ne.symm same), if_neg same]
        exact (List.append_nil _).symm
    next => exact (List.append_nil _).symm
  | handle id now =>
    rw [step]
    split <;> exact (List.append_nil _).symm

/-- The agent has reported the configuration it has, on the connection, and written nothing else
since. -/
def Reported (site : Site) (presence : Presence) (connectionId : String)
    (config : AgentRuntimeConfig) (s : Reporting) : Prop :=
  s.deployment.agent.sharedConfig = config ∧
    (s.sent connectionId).getLast? =
      some (.heartbeat (presence.heartbeat site.identity.agentId config))

/-- As long as nothing is applied, the report stays right. -/
theorem reported_step {s : Reporting} {e : Event} {connectionId : String}
    {config : AgentRuntimeConfig} (inv : Faithful site presence s)
    (noApply : ∀ task, e ≠ .deployment (.apply task))
    (reported : Reported site presence connectionId config s) :
    Reported site presence connectionId config (step site presence s e) := by
  obtain ⟨current, last⟩ := reported
  constructor
  · rw [← current]
    cases e with
    | deployment e =>
      have kept : (Deployment.step site s.deployment e).agent.sharedConfig =
          s.deployment.agent.sharedConfig :=
        Deployment.sharedConfig_frame s.deployment fun task apply => noApply task (congrArg _ apply)
      rw [step]
      split
      next => rfl
      next => split <;> exact kept
    | heartbeat =>
      rw [step]
      split <;> rfl
    | handle id now =>
      rw [step]
      split
      next => exact Deployment.sharedConfig_frame _ (by rintro _ ⟨⟩)
      next => rfl
  · rw [sent_step]
    cases written : writes site presence connectionId s e with
    | none =>
      rw [Option.toList_none, List.append_nil]
      exact last
    | some message =>
      rw [Option.toList_some, List.getLast?_concat]
      cases e with
      | deployment e =>
        -- The connection is there, so no step opens it.
        rw [writes] at written
        split at written
        next opened =>
          obtain ⟨-, fresh, -⟩ := Deployment.opens_eq_some opened
          refine absurd fresh (inv.shown connectionId ?_).opened
          intro unsaid
          rw [unsaid] at last
          cases last
        next => cases written
      | heartbeat =>
        rw [writes] at written
        split at written
        next =>
          split at written
          next =>
            cases written
            rw [current]
          next => cases written
        next => cases written
      | handle id now => cases written

/-- A heartbeat that is sent reports the configuration the agent has. -/
theorem reported_heartbeat {s : Reporting} {link : Link}
    (idle : s.deployment.agent.refresh .websocket = .idle)
    (linked : s.deployment.link = some link) :
    Reported site presence link.connectionId s.deployment.agent.sharedConfig
      (step site presence s .heartbeat) := by
  simp only [step, idle, linked]
  refine ⟨rfl, ?_⟩
  rw [say_sent, if_pos rfl, List.getLast?_concat]

/-- **The server shows an agent as it reported itself.** In every run of an agent, its server and
whoever else talks to it:

- what the agent writes on a connection is its hello when it opens it and, at each heartbeat, its
  configuration at that moment;
- an entry of a connection that the agent opened is the agent's, with what the last heartbeat says
  that the server has read there, so a configuration the agent had, and the collectors that one
  enables;
- where the server has read everything on the connection, and the agent has applied nothing since a
  heartbeat, that is the configuration the agent has. -/
theorem agent_as_reported (config : LoadedControlConfig) (bootstrap : AgentBootstrapConfig)
    (dir : StateDir) (es : List Event) :
    let s₀ := init config bootstrap dir
    let s := run (step site presence) s₀ es
    (∀ connectionId, s.sent connectionId =
      outputs (step site presence) (writes site presence connectionId) s₀ es) ∧
    (∀ (id : String) (agent : ConnectedAgent), s.deployment.server.agents[id]? = some agent →
      s.sent agent.connectionId ≠ [] →
      agent.Shows presence site.identity.agentId (s.told agent.connectionId)) ∧
    ∀ pre post link, es = pre ++ .heartbeat :: post →
      let t := run (step site presence) s₀ pre
      t.deployment.agent.refresh .websocket = .idle → t.deployment.link = some link →
      (∀ task, .deployment (.apply task) ∉ post) →
      s.handled link.connectionId = (s.sent link.connectionId).length →
      ∀ (id : String) (agent : ConnectedAgent), s.deployment.server.agents[id]? = some agent →
        agent.connectionId = link.connectionId →
        agent.configVersion = some s.deployment.agent.sharedConfig.version ∧
          agent.enabledCollectors = enabledCollectors s.deployment.agent.sharedConfig := by
  intro s₀ s
  have faithful (es : List Event) : Faithful site presence (run (step site presence) s₀ es) :=
    run_invariant faithful_step (faithful_init config bootstrap dir) es
  refine ⟨fun connectionId => ?_, fun id agent there wrote => ?_, ?_⟩
  · exact run_log (fun s : Reporting => s.sent connectionId)
      (fun s e _ => sent_step connectionId s e) (stepsMeet_true _ s₀ es)
  · exact ((faithful es).shown _ wrote).entries id agent there rfl
  · intro pre post link split t idle linked noApply readAll id agent there same
    obtain ⟨current, last⟩ : Reported site presence link.connectionId
        t.deployment.agent.sharedConfig s := by
      have started : Reported site presence link.connectionId t.deployment.agent.sharedConfig
          (run (step site presence) s₀ (pre ++ [.heartbeat])) := by
        rw [run_append, run_cons, run_nil]
        exact reported_heartbeat idle linked
      let Inv : Reporting → Prop := fun u => Faithful site presence u ∧
        Reported site presence link.connectionId t.deployment.agent.sharedConfig u
      have meets : StepsMeet (step site presence) (fun _ e => ∀ task, e ≠ .deployment (.apply task))
          (run (step site presence) s₀ (pre ++ [.heartbeat])) post := by
        rintro before e after rfl task rfl
        exact noApply task (List.mem_append_right _ List.mem_cons_self)
      have kept : Inv (run (step site presence) (run (step site presence) s₀ (pre ++ [.heartbeat]))
          post) := by
        refine run_invariant_of_steps ?_ ⟨faithful _, started⟩ meets
        exact fun u e inv noApply => ⟨faithful_step u e inv.1, reported_step inv.1 noApply inv.2⟩
      rw [← run_append, List.append_assoc, List.singleton_append, ← split] at kept
      exact kept.2
    have wrote : s.sent link.connectionId ≠ [] := by
      intro unsaid
      rw [unsaid] at last
      cases last
    have shows := ((faithful es).shown _ wrote).entries id agent there same
    have all : (run (step site presence) s₀ es).told link.connectionId =
        s.sent link.connectionId := List.take_of_length_le readAll.ge
    obtain ⟨before, sent⟩ := List.getLast?_eq_some_iff.mp last
    rw [all, sent] at shows
    rw [shows.configVersion, shows.enabledCollectors, lastReport_heartbeat, current]
    exact ⟨rfl, rfl⟩

end Reporting

end Talia
