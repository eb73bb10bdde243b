import Talia.Core.Control

/-!
# The map of connected agents

The shared map of the agents that are connected, by agent id, and the three ways it is written: a
hello registers its connection, a heartbeat updates the entry of its id, a connection's cleanup
removes its entry. Each way touches only entries the connection holds (`heldBy`), apart from
inserting the entry of an id no connection holds; the lemmas `*_get` say this of every id at once.
-/

namespace Talia

structure ConnectedAgent where
  agentId : String
  hostname : String
  agentVersion : String
  bootId : Option String
  configVersion : Option String
  enabledCollectors : List String
  connectedAtUnixSeconds : UInt64
  lastSeenUnixSeconds : UInt64
  connectionId : String
  deriving DecidableEq

abbrev Agents := BTreeMap String ConnectedAgent

/-- The entry of an agent id is there and belongs to the connection. -/
def heldBy (agents : Agents) (agentId connectionId : String) : Bool :=
  match agents[agentId]? with
  | some agent => agent.connectionId = connectionId
  | none => false

/-- The entry a hello makes. -/
def connectedAgent (connectionId : String) (hello : AgentHello) (now : UInt64) :
    ConnectedAgent where
  agentId := hello.agentId
  hostname := hello.hostname
  agentVersion := hello.agentVersion
  bootId := hello.bootId
  configVersion := none
  enabledCollectors := []
  connectedAtUnixSeconds := now
  lastSeenUnixSeconds := now
  connectionId := connectionId

/-- The entry of the id the connection had before, if that was another one and the entry is still
its own, is removed. -/
def removePrevious (agents : Agents) (connectionId : String) (current : Option String)
    (agentId : String) : Agents :=
  match current with
  | some previous =>
    if previous ≠ agentId ∧ heldBy agents previous connectionId then agents.erase previous
    else agents
  | none => agents

/-- The map after a hello whose credential was accepted, unless another connection holds the id. -/
def registerAgentConnection (agents : Agents) (connectionId : String) (current : Option String)
    (hello : AgentHello) (now : UInt64) : Option Agents :=
  match agents[hello.agentId]? with
  | some agent =>
    if agent.connectionId ≠ connectionId then none
    else some ((removePrevious agents connectionId current hello.agentId).insert hello.agentId
      (connectedAgent connectionId hello now))
  | none => some ((removePrevious agents connectionId current hello.agentId).insert hello.agentId
      (connectedAgent connectionId hello now))

/-- The entry with what a heartbeat reports. -/
def ConnectedAgent.beat (agent : ConnectedAgent) (heartbeat : AgentHeartbeat) (now : UInt64) :
    ConnectedAgent :=
  { agent with
    hostname := heartbeat.hostname
    agentVersion := heartbeat.agentVersion
    configVersion := some heartbeat.configVersion
    enabledCollectors := heartbeat.enabledCollectors
    lastSeenUnixSeconds := now }

/-- The map after a heartbeat: a stale or unknown one changes nothing. -/
def recordHeartbeat (agents : Agents) (connectionId : String) (heartbeat : AgentHeartbeat)
    (now : UInt64) : Agents :=
  match agents[heartbeat.agentId]? with
  | some agent =>
    if agent.connectionId ≠ connectionId then agents
    else agents.insert heartbeat.agentId (agent.beat heartbeat now)
  | none => agents

/-- The map after a connection's cleanup. -/
def removeAgent (agents : Agents) (connectionId : String) (current : Option String) : Agents :=
  match current with
  | some agentId => if heldBy agents agentId connectionId then agents.erase agentId else agents
  | none => agents

/-- The agent is enrolled for the hostname and presents the enrolled token. -/
def agentHasConfigCredential (sha256 : ByteArray → ByteArray) (config : ControlConfigFile)
    (agentId hostname : String) (agentConfigToken : Option String) : Bool :=
  config.agentIsEnrolledForHostname agentId hostname &&
    match agentConfigToken with
    | some token => config.agentConfigTokenMatches sha256 agentId token
    | none => false

/-- The credential check, with a collision-free digest: the hostname is the one enrolled, and the
token presented is the one enrolled, which is not blank. -/
theorem agentHasConfigCredential_iff {sha256 : ByteArray → ByteArray}
    (inj : Function.Injective sha256) {config : ControlConfigFile} {agentId hostname : String}
    {agentConfigToken : Option String} :
    agentHasConfigCredential sha256 config agentId hostname agentConfigToken = true ↔
      ∃ enrollment token, config.agents[agentId]? = some enrollment ∧
        enrollment.hostname = hostname ∧ enrollment.configToken = some token ∧
        Text.isBlank token = false ∧ agentConfigToken = some token := by
  unfold agentHasConfigCredential ControlConfigFile.agentIsEnrolledForHostname
    ControlConfigFile.agentConfigTokenMatches
  rw [Bool.and_eq_true]
  cases config.agents[agentId]? with
  | none => exact ⟨fun h => (nomatch h.1), fun ⟨_, _, h, _⟩ => (nomatch h)⟩
  | some enrollment =>
    constructor
    · rintro ⟨host, matched⟩
      cases agentConfigToken with
      | none => cases matched
      | some presented =>
        cases configured : enrollment.configToken with
        | none =>
          simp only [Option.bind_some, configured] at matched
          cases matched
        | some token =>
          simp only [Option.bind_some, configured] at matched
          obtain ⟨visible, same⟩ := (secretMatches_iff inj).mp matched
          exact ⟨enrollment, token, rfl, of_decide_eq_true host, configured, visible,
            congrArg some same⟩
    · rintro ⟨_, token, h, host, configured, visible, rfl⟩
      cases h
      refine ⟨decide_eq_true host, ?_⟩
      simp only [Option.bind_some, configured]
      exact (secretMatches_iff inj).mpr ⟨visible, rfl⟩

/-! ## What the map holds afterwards -/

section Get

variable {agents : Agents} {connectionId : String} {current : Option String}

theorem heldBy_iff {agentId : String} :
    heldBy agents agentId connectionId = true ↔
      ∃ agent, agents[agentId]? = some agent ∧ agent.connectionId = connectionId := by
  unfold heldBy
  cases agents[agentId]? with
  | none => exact ⟨fun h => (nomatch h), fun ⟨_, h, _⟩ => (nomatch h)⟩
  | some agent =>
    rw [decide_eq_true_eq]
    exact ⟨fun h => ⟨agent, rfl, h⟩, fun ⟨_, h, hc⟩ => by cases h; exact hc⟩

/-- A cleanup removes the entry of the connection's current id, if the connection holds it. -/
theorem removeAgent_get (id : String) :
    (removeAgent agents connectionId current)[id]? =
      if current = some id ∧ heldBy agents id connectionId then none else agents[id]? := by
  cases current with
  | none => rw [removeAgent, if_neg (by rintro ⟨h, -⟩; cases h)]
  | some agentId =>
    rw [removeAgent]
    by_cases held : heldBy agents agentId connectionId = true
    · rw [if_pos held, BTreeMap.get_erase]
      by_cases same : agentId = id
      · subst same
        rw [if_pos rfl, if_pos ⟨rfl, held⟩]
      · rw [if_neg same, if_neg (fun h => same (Option.some.inj h.1))]
    · rw [if_neg held, if_neg]
      rintro ⟨h, held'⟩
      cases h
      exact held held'

/-- Registering under the same id removes nothing; under another, it starts with a cleanup. -/
theorem removePrevious_eq (agentId : String) :
    removePrevious agents connectionId current agentId =
      if current = some agentId then agents else removeAgent agents connectionId current := by
  cases current with
  | none => rw [if_neg (by rintro ⟨⟩)]; rfl
  | some previous =>
    by_cases same : previous = agentId
    · rw [removePrevious, if_pos (congrArg some same), if_neg (fun h => h.1 same)]
    · simp only [removePrevious, removeAgent, ne_eq, same, not_false_eq_true, true_and,
        Option.some.injEq, if_false]

/-- A hello is a duplicate exactly when another connection holds its id. -/
theorem registerAgentConnection_eq (hello : AgentHello) (now : UInt64) :
    registerAgentConnection agents connectionId current hello now =
      if ∃ agent, agents[hello.agentId]? = some agent ∧ agent.connectionId ≠ connectionId then none
      else some ((removePrevious agents connectionId current hello.agentId).insert hello.agentId
        (connectedAgent connectionId hello now)) := by
  unfold registerAgentConnection
  cases agents[hello.agentId]? with
  | none => rw [if_neg (fun ⟨_, h, _⟩ => (nomatch h))]
  | some agent =>
    by_cases other : agent.connectionId ≠ connectionId
    · rw [if_pos ⟨agent, rfl, other⟩]
      exact if_pos other
    · rw [if_neg (fun ⟨_, h, hc⟩ => by cases h; exact other hc)]
      exact if_neg other

/-- Where a hello registers, no other connection holds the id, and the map has the new entry, lacks
the connection's previous one and is otherwise as it was. -/
theorem registerAgentConnection_get {hello : AgentHello} {now : UInt64} {agents' : Agents}
    (h : registerAgentConnection agents connectionId current hello now = some agents') :
    (∀ agent, agents[hello.agentId]? = some agent → agent.connectionId = connectionId) ∧
    ∀ id, agents'[id]? =
      if hello.agentId = id then some (connectedAgent connectionId hello now)
      else if current = some id ∧ heldBy agents id connectionId then none
      else agents[id]? := by
  rw [registerAgentConnection_eq] at h
  split at h
  next => cases h
  next free =>
    cases h
    refine ⟨fun agent found => ?_, fun id => ?_⟩
    · by_contra other
      exact free ⟨agent, found, other⟩
    · rw [BTreeMap.get_insert]
      by_cases same : hello.agentId = id
      · rw [if_pos same, if_pos same]
      · rw [if_neg same, if_neg same, removePrevious_eq]
        by_cases again : current = some hello.agentId
        · rw [if_pos again, if_neg]
          rintro ⟨h, -⟩
          exact same (Option.some.inj (again.symm.trans h))
        · rw [if_neg again, removeAgent_get]

/-- A heartbeat updates the entry of its id, if the connection holds it. -/
theorem recordHeartbeat_get (heartbeat : AgentHeartbeat) (now : UInt64) (id : String) :
    (recordHeartbeat agents connectionId heartbeat now)[id]? =
      if heartbeat.agentId = id ∧ heldBy agents id connectionId then
        agents[id]?.map (·.beat heartbeat now)
      else agents[id]? := by
  unfold recordHeartbeat
  by_cases same : heartbeat.agentId = id
  · subst same
    unfold heldBy
    cases found : agents[heartbeat.agentId]? with
    | none =>
      rw [if_neg (fun h => (nomatch h.2))]
      exact found
    | some agent =>
      by_cases other : agent.connectionId ≠ connectionId
      · rw [if_neg (fun h => other (of_decide_eq_true h.2))]
        show (if agent.connectionId ≠ connectionId then agents else _)[heartbeat.agentId]? = _
        rw [if_pos other, found]
      · rw [if_pos ⟨rfl, decide_eq_true (not_not.mp other)⟩]
        show (if agent.connectionId ≠ connectionId then agents else _)[heartbeat.agentId]? = _
        rw [if_neg other, BTreeMap.get_insert, if_pos rfl]
        rfl
  · rw [if_neg (fun h => same h.1)]
    cases agents[heartbeat.agentId]? with
    | none => rfl
    | some agent =>
      show (if agent.connectionId ≠ connectionId then agents else _)[id]? = _
      split
      · rfl
      · rw [BTreeMap.get_insert, if_neg same]

end Get

end Talia
