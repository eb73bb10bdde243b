import Talia.Control.Sessions

/-!
# Whether connected agents have the hostname they are enrolled for

A hello is checked against the enrollment before its hostname enters the map. A heartbeat writes
the hostname of its entry again and is not checked. Between swaps of the configuration, the
entries have the hostnames enrolled for their ids (`Bound`) for as long as the heartbeats recorded
name them, and no longer (`enrollment_binding_iff`). What a swap makes of the entries that are in the
map is not covered: the next hello is checked against the new enrollment, the entries are not.
-/

namespace Talia.Server

open Transition

/-- Every entry has the hostname its id is enrolled for. -/
def Bound (s : Server) : Prop :=
  ∀ id agent, s.agents[id]? = some agent →
    s.config.config.agentIsEnrolledForHostname id agent.hostname = true

/-- A step is not a heartbeat that is recorded, or its hostname is the enrolled one. -/
def HeartbeatEnrolled (s : Server) (e : ServerEvent) : Prop :=
  ∀ connectionId heartbeat now token senderClosed, e = .heartbeat connectionId heartbeat now →
    s.connections connectionId =
      some ⟨token, some heartbeat.agentId, senderClosed, .reading⟩ →
    heldBy s.agents heartbeat.agentId connectionId = true →
    s.config.config.agentIsEnrolledForHostname heartbeat.agentId heartbeat.hostname = true

/-- The entries are bound, and so are the hellos about to become entries. -/
structure Binding (s : Server) : Prop where
  entries : s.Bound
  hellos : ∀ connectionId connection hello, s.connections connectionId = some connection →
    connection.phase = .registering hello →
    s.config.config.agentIsEnrolledForHostname hello.agentId hello.hostname = true

theorem binding_init (config : LoadedControlConfig) : (init config).Binding where
  entries := by
    intro id agent h
    rw [init, BTreeMap.get_empty] at h
    cases h
  hellos := fun _ _ _ h => (nomatch h)

/-- A connection may be replaced by one whose pending hello, if any, is bound. -/
theorem Binding.setConnection {s : Server} (inv : s.Binding) (connectionId : String)
    {after : Connection} (pending : ∀ hello, after.phase = .registering hello →
      s.config.config.agentIsEnrolledForHostname hello.agentId hello.hostname = true) :
    (s.setConnection connectionId after).Binding where
  entries := inv.entries
  hellos := by
    intro id connection hello h hp
    rw [setConnection_connections] at h
    split at h
    · cases h
      exact pending hello hp
    · exact inv.hellos id connection hello h hp

/-- The map may be replaced by one whose entries are bound. -/
theorem Binding.setAgents {s : Server} (inv : s.Binding) {agents : Agents}
    (entries : ∀ (id : String) (agent : ConnectedAgent), agents[id]? = some agent →
      s.config.config.agentIsEnrolledForHostname id agent.hostname = true) :
    ({ s with agents := agents } : Server).Binding where
  entries := entries
  hellos := inv.hellos

variable {env : Env}

/-- **Each step keeps the binding**, short of a swap or a heartbeat under another hostname. -/
theorem binding_step (s : Server) (e : ServerEvent) (inv : s.Binding)
    (meets : HeartbeatEnrolled s e ∧ ∀ id, e ≠ .reloadSwap id) : (step env s e).Binding := by
  rcases step_acts env s e with same | acts
  · rw [same]
    exact inv
  generalize step env s e = s' at acts
  cases acts with
  | opened => exact inv.setConnection _ (fun _ h => (nomatch h))
  | accepted found credential =>
    refine inv.setConnection _ fun hello h => ?_
    cases h
    exact (Bool.and_eq_true_iff.mp credential).1
  | refused => exact inv.setConnection _ (fun _ h => (nomatch h))
  | duplicate => exact inv.setConnection _ (fun _ h => (nomatch h))
  | ended => exact inv.setConnection _ (fun _ h => (nomatch h))
  | @registered connectionId now hello token current senderClosed agents found inserted =>
    obtain ⟨-, get⟩ := registerAgentConnection_get inserted
    have entries : ({ s with agents := agents } : Server).Binding := by
      refine inv.setAgents fun id agent h => ?_
      rw [get] at h
      split at h
      next same =>
        subst same
        cases h
        exact inv.hellos connectionId _ hello found rfl
      next =>
        split at h
        · cases h
        · exact inv.entries id agent h
    refine entries.setConnection _ fun hello h => ?_
    cases senderClosed <;> cases h
  | @beat connectionId heartbeat now token senderClosed found =>
    refine inv.setAgents fun id agent h => ?_
    rw [recordHeartbeat_get] at h
    split at h
    next held =>
      obtain ⟨rfl, held⟩ := held
      obtain ⟨before, -, rfl⟩ := Option.map_eq_some_iff.mp h
      exact meets.1 connectionId heartbeat now token senderClosed rfl found held
    next => exact inv.entries id agent h
  | @removed connectionId token current senderClosed found =>
    have entries : ({ s with
        agents := removeAgent s.agents connectionId current } : Server).Binding := by
      refine inv.setAgents fun id agent h => ?_
      rw [removeAgent_get] at h
      split at h
      · cases h
      · exact inv.entries id agent h
    exact entries.setConnection _ (fun _ h => (nomatch h))
  | swapped => exact absurd rfl (meets.2 _)
  | lookedUp => exact ⟨inv.entries, inv.hellos⟩
  | answered => exact ⟨inv.entries, inv.hellos⟩
  | loaded => exact ⟨inv.entries, inv.hellos⟩
  | counted => exact ⟨inv.entries, inv.hellos⟩
  | notified => exact ⟨inv.entries, inv.hellos⟩

/-- A heartbeat recorded under another hostname ends the binding. -/
theorem heartbeatEnrolled_of_bound {s : Server} {e : ServerEvent} (bound : (step env s e).Bound) :
    HeartbeatEnrolled s e := by
  rintro connectionId heartbeat now token senderClosed rfl found held
  obtain ⟨agent, entry, -⟩ := heldBy_iff.mp held
  have stepped : step env s (.heartbeat connectionId heartbeat now) =
      { s with agents := recordHeartbeat s.agents connectionId heartbeat now } := by
    simp only [step, found, if_true]
  rw [stepped] at bound
  refine bound heartbeat.agentId (agent.beat heartbeat now) ?_
  rw [recordHeartbeat_get, if_pos ⟨rfl, held⟩, entry, Option.map_some]

/-- **Enrollment binding, exactly.** In a run without a swap of the configuration, every entry has
the hostname its id is enrolled for in every state reached if and only if every heartbeat recorded
named that hostname. -/
theorem enrollment_binding_iff (config : LoadedControlConfig) {es : List ServerEvent}
    (noReload : ∀ id, .reloadSwap id ∉ es) :
    (∀ pre, pre <+: es → (run (step env) (init config) pre).Bound) ↔
      StepsMeet (step env) HeartbeatEnrolled (init config) es := by
  constructor
  · rintro bound pre e post rfl
    have after := bound (pre ++ [e]) ⟨post, by rw [List.append_assoc]; rfl⟩
    rw [run_append, run_cons, run_nil] at after
    exact heartbeatEnrolled_of_bound after
  · rintro meets pre ⟨post, rfl⟩
    refine (run_invariant_of_steps binding_step (binding_init config) ?_).entries
    intro before e after split
    refine ⟨meets.left before e after split, ?_⟩
    rintro id rfl
    exact noReload id (by rw [split]; simp)

/-- The agent says hello and sends a heartbeat, with the hostname it is enrolled for. -/
def enrolledRun : List ServerEvent :=
  oneAgentRun ++ [.heartbeat "connection-1" ⟨"agent-1", "host-1", "0.1.0", "local", []⟩ 2]

theorem enrollment_binding_iff_oneAgent :
    (run (step oneAgentEnv) (init oneAgentConfig) enrolledRun).Bound ∧
      (run (step oneAgentEnv) (init oneAgentConfig) enrolledRun).agents["agent-1"]? =
        some ⟨"agent-1", "host-1", "0.1.0", none, some "local", [], 1, 2, "connection-1"⟩ := by
  refine ⟨(enrollment_binding_iff oneAgentConfig ?_).mpr ?_ _ List.prefix_rfl, by decide +kernel⟩
  · simp [enrolledRun, oneAgentRun]
  · refine stepsMeet_cons.mpr ⟨by rintro _ _ _ _ _ ⟨⟩, ?_⟩
    refine stepsMeet_cons.mpr ⟨by rintro _ _ _ _ _ ⟨⟩, ?_⟩
    refine stepsMeet_cons.mpr ⟨by rintro _ _ _ _ _ ⟨⟩, ?_⟩
    refine stepsMeet_cons.mpr ⟨?_, stepsMeet_nil _ _ _⟩
    rintro _ _ _ _ _ ⟨⟩ - -
    decide +kernel

/-- **A heartbeat can claim any hostname**: a run without a swap after which the one agent's entry
has a hostname it is not enrolled for. -/
theorem heartbeat_unbinds :
    ∃ es, (∀ id, .reloadSwap id ∉ es) ∧
      ¬ (run (step oneAgentEnv) (init oneAgentConfig) es).Bound := by
  let heartbeat : AgentHeartbeat := ⟨"agent-1", "host-2", "0.1.0", "local", []⟩
  refine ⟨oneAgentRun ++ [.heartbeat "connection-1" heartbeat 2], by simp [oneAgentRun], ?_⟩
  intro bound
  have entry : (run (step oneAgentEnv) (init oneAgentConfig) (oneAgentRun ++
      [.heartbeat "connection-1" heartbeat 2])).agents["agent-1"]? =
        some ⟨"agent-1", "host-2", "0.1.0", none, some "local", [], 1, 2, "connection-1"⟩ := by
    decide +kernel
  exact absurd (bound "agent-1" _ entry) (by decide +kernel)

end Talia.Server
