import Talia.Control.Sessions

/-!
# What a rejected connection can still do

The server answers a hello it rejects by closing its sending half of the WebSocket, and goes on
reading. What arrives afterwards is handled as before: a hello with the right credential enters the
map, a heartbeat for the id registered earlier is recorded (`rejected_registers`).

What has to arrive for that is told by the messages: a hello whose credential is accepted, for an
id that no other connection holds, or a heartbeat for the id registered last. As long as there is
none of these (`Harmless`), the connection does nothing more to the map than remove its entry
(`rejection_final`). Along such a run the connection keeps its current id, and is registering only
what `Harmless` speaks of (`Waiting`); so each of its steps is one that the server does not heed
(`Unheeded`).

It is not shown that every other run does change the map: a heartbeat may find its entry as it
leaves it.
-/

namespace Talia.Server

open Transition

variable {env : Env} {connectionId : String}

/-- The step rejects a hello of the connection. -/
def RejectsHello (env : Env) (connectionId : String) (s : Server) (e : ServerEvent) : Prop :=
  Rejected env s e ∧ ((∃ hello, e = .hello connectionId hello) ∨
    ∃ now, e = .register connectionId now)

/-- A step is not one by which a message of the connection is accepted: the id of a hello about to
be registered is held by another connection, a heartbeat is rejected. -/
def Unheeded (env : Env) (connectionId : String) (s : Server) (e : ServerEvent) : Prop :=
  (∀ now hello token current senderClosed, e = .register connectionId now →
    s.connections connectionId = some ⟨token, current, senderClosed, .registering hello⟩ →
    ∃ agent, s.agents[hello.agentId]? = some agent ∧ agent.connectionId ≠ connectionId) ∧
  ∀ heartbeat now, e = .heartbeat connectionId heartbeat now → Rejected env s e

/-- **A step of the connection that is not heeded leaves the map as it was, or removes the
connection's entry.** -/
theorem agents_of_unheeded {s : Server} (sessions : s.Sessions) {e : ServerEvent}
    (own : e.connection = some connectionId) (unheeded : Unheeded env connectionId s e) :
    (step env s e).agents = s.agents ∨ e = .removeAgent connectionId ∧ ∀ id,
      (step env s e).agents[id]? =
        if heldBy s.agents id connectionId then none else s.agents[id]? := by
  rcases step_acts env s e with same | acts
  · rw [same]
    exact .inl rfl
  generalize after : step env s e = s' at acts
  cases acts with
  | @registered id now hello token current senderClosed agents found inserted =>
    cases own
    obtain ⟨agent, held, other⟩ := unheeded.1 now hello token current senderClosed rfl found
    exact absurd ((registerAgentConnection_get inserted).1 agent held) other
  | @beat id heartbeat now token senderClosed found =>
    cases own
    rw [← after]
    exact .inl (rejected_frame (unheeded.2 heartbeat now rfl)).1
  | @removed id token current senderClosed found =>
    cases own
    refine .inr ⟨rfl, fun id => ?_⟩
    rw [setConnection_agents, removeAgent_get]
    by_cases held : heldBy s.agents id connectionId = true
    · -- What the connection holds is filed under its current id.
      obtain ⟨agent, entry, rfl⟩ := heldBy_iff.mp held
      obtain ⟨-, connection, hc, -, current'⟩ := sessions id agent entry
      rw [found] at hc
      cases hc
      rw [if_pos ⟨current', held⟩, if_pos held]
    · rw [if_neg fun h => held h.2, if_neg held]
  | _ => exact .inl rfl

/-! ## Messages after a rejection -/

/-- A hello that the connection sends now is read, and its credential accepted. -/
def Accepts (env : Env) (connectionId : String) (s : Server) (hello : AgentHello) : Prop :=
  ∃ token current senderClosed,
    s.connections connectionId = some ⟨token, current, senderClosed, .reading⟩ ∧
      agentHasConfigCredential env.sha256 s.config.config hello.agentId hello.hostname token = true

/-- What arrives on the connection cannot enter the map: a hello with an accepted credential names
an id that another connection holds when the map is read, and no heartbeat names the connection's
current id. -/
structure Harmless (env : Env) (connectionId : String) (s : Server) (post : List ServerEvent) :
    Prop where
  hellos : ∀ mid hello wait now rest,
    post = mid ++ .hello connectionId hello :: (wait ++ .register connectionId now :: rest) →
    (∀ now, .register connectionId now ∉ wait) →
    Accepts env connectionId (run (step env) s mid) hello →
    ∃ agent, (run (step env) s (mid ++ .hello connectionId hello :: wait)).agents[hello.agentId]? =
      some agent ∧ agent.connectionId ≠ connectionId
  heartbeats : ∀ heartbeat now, .heartbeat connectionId heartbeat now ∈ post →
    s.currentAgentId connectionId ≠ some heartbeat.agentId

/-- Where the connection stands after some of these: it has the current id it had, and a hello that
it is registering arrived among them. -/
structure Waiting (env : Env) (connectionId : String) (s : Server) (done : List ServerEvent)
    (s' : Server) : Prop where
  current : s'.currentAgentId connectionId = s.currentAgentId connectionId
  hello : ∀ token current senderClosed hello,
    s'.connections connectionId = some ⟨token, current, senderClosed, .registering hello⟩ →
    ∃ mid wait, done = mid ++ .hello connectionId hello :: wait ∧
      (∀ now, .register connectionId now ∉ wait) ∧
      Accepts env connectionId (run (step env) s mid) hello

variable {s : Server} {done post : List ServerEvent} {e : ServerEvent}

/-- An event that leaves the connection as it was, and is not the one by which it registers. -/
theorem Waiting.keep {s' t : Server} (waiting : Waiting env connectionId s done s')
    (same : t.connections connectionId = s'.connections connectionId)
    (other : ∀ now, e ≠ .register connectionId now) :
    Waiting env connectionId s (done ++ [e]) t := by
  constructor
  · rw [currentAgentId, same]
    exact waiting.current
  · intro token current senderClosed hello found
    rw [same] at found
    obtain ⟨mid, wait, split, quiet, accepts⟩ := waiting.hello token current senderClosed hello found
    refine ⟨mid, wait ++ [e], by rw [split, List.append_assoc, List.cons_append], ?_, accepts⟩
    intro now mem
    rcases List.mem_append.mp mem with before | last
    · exact quiet now before
    · exact other now (List.mem_singleton.mp last).symm

/-- An event that leaves the connection its current id, and nothing to register. -/
theorem Waiting.settle {s' t : Server} (waiting : Waiting env connectionId s done s')
    {after : Connection} (found : t.connections connectionId = some after)
    (current : s'.currentAgentId connectionId = after.currentAgentId)
    (idle : ∀ hello, after.phase ≠ .registering hello) :
    Waiting env connectionId s (done ++ [e]) t := by
  constructor
  · rw [currentAgentId, found, ← waiting.current, current]
    rfl
  · intro token current senderClosed hello there
    cases found.symm.trans there
    exact absurd rfl (idle hello)

/-- A hello whose id another connection holds does not stay to be registered. -/
theorem not_registered_again {s' : Server} {now : UInt64} {hello : AgentHello}
    {token current : Option String} {senderClosed : Bool} {agent : ConnectedAgent}
    (found : s'.connections connectionId =
      some ⟨token, current, senderClosed, .registering hello⟩)
    (there : s'.agents[hello.agentId]? = some agent) (other : agent.connectionId ≠ connectionId) :
    step env s' (.register connectionId now) ≠ s' := by
  have refused : registerAgentConnection s'.agents connectionId current hello now = none := by
    rw [registerAgentConnection_eq, if_pos ⟨agent, there, other⟩]
  intro same
  have closed := congrArg (fun t : Server => t.connections connectionId) same
  simp only [step, found, refused, setConnection_connections, if_true] at closed
  cases closed

/-- **One more event** on the connection or elsewhere, where a hello that is registered names an id
that another connection holds. -/
theorem Waiting.step (waiting : Waiting env connectionId s done (run (step env) s done))
    (held : ∀ now token current senderClosed hello, e = .register connectionId now →
      (run (Server.step env) s done).connections connectionId =
        some ⟨token, current, senderClosed, .registering hello⟩ →
      ∃ agent, (run (Server.step env) s done).agents[hello.agentId]? = some agent ∧
        agent.connectionId ≠ connectionId) :
    Waiting env connectionId s (done ++ [e]) (run (Server.step env) s (done ++ [e])) := by
  rw [run_append, run_cons, run_nil]
  generalize now : run (Server.step env) s done = s' at waiting held ⊢
  by_cases own : e.connection = some connectionId
  swap
  · refine waiting.keep (connections_frame s' own) ?_
    rintro now rfl
    exact own rfl
  rcases step_acts env s' e with same | acts
  · by_cases register : ∃ now, e = .register connectionId now
    · obtain ⟨now, rfl⟩ := register
      refine ⟨by rw [same]; exact waiting.current, ?_⟩
      intro token current senderClosed hello found
      rw [same] at found
      obtain ⟨agent, there, other⟩ := held now token current senderClosed hello rfl found
      exact absurd same (not_registered_again found there other)
    · exact waiting.keep (by rw [same]) fun now is => register ⟨now, is⟩
  generalize Server.step env s' e = t at acts ⊢
  -- Where the connection moves, it moves to a phase in which it registers nothing, but for a hello
  -- whose credential is accepted.
  have moved {u : Server} {c : Connection} (current : s'.currentAgentId connectionId =
      c.currentAgentId) (idle : ∀ hello, c.phase ≠ .registering hello) :
      Waiting env connectionId s (done ++ [e]) (u.setConnection connectionId c) :=
    waiting.settle (by rw [setConnection_connections, if_pos rfl]) current idle
  cases acts with
  | opened fresh =>
    cases own
    exact moved (by rw [currentAgentId, fresh]; rfl) fun _ => Phase.noConfusion
  | @accepted id hello token current senderClosed found credential =>
    cases own
    have kept : (s'.setConnection connectionId
        ⟨token, current, senderClosed, .registering hello⟩).currentAgentId connectionId =
          s'.currentAgentId connectionId := setConnection_currentAgentId found (by rfl) connectionId
    refine ⟨kept.trans waiting.current, ?_⟩
    intro token' current' senderClosed' hello' there
    rw [setConnection_connections, if_pos rfl] at there
    cases there
    exact ⟨done, [], rfl, fun _ => List.not_mem_nil,
      token, current, senderClosed, now ▸ found, now ▸ credential⟩
  | refused found =>
    cases own
    exact moved (by rw [currentAgentId, found]; rfl) fun _ => Phase.noConfusion
  | @registered id at' hello token current senderClosed agents found inserted =>
    cases own
    obtain ⟨agent, there, other⟩ := held at' token current senderClosed hello rfl found
    exact absurd ((registerAgentConnection_get inserted).1 agent there) other
  | duplicate found =>
    cases own
    exact moved (by rw [currentAgentId, found]; rfl) fun _ => Phase.noConfusion
  | beat =>
    cases own
    exact waiting.keep rfl fun now => ServerEvent.noConfusion
  | ended found =>
    cases own
    exact moved (by rw [currentAgentId, found]; rfl) fun _ => Phase.noConfusion
  | removed found =>
    cases own
    exact moved (by rw [currentAgentId, found]; rfl) fun _ => Phase.noConfusion
  | _ => cases own

/-- **Harmless messages are not heeded**, from a state in which the connection registers nothing. -/
theorem Harmless.waiting (harmless : Harmless env connectionId s post)
    (idle : ∀ token current senderClosed hello,
      s.connections connectionId ≠ some ⟨token, current, senderClosed, .registering hello⟩)
    (first : done <+: post) : Waiting env connectionId s done (run (step env) s done) := by
  induction done using List.reverseRecOn with
  | nil => exact ⟨rfl, fun _ _ _ _ found => absurd found (idle _ _ _ _)⟩
  | append_singleton done e ih =>
    obtain ⟨rest, split⟩ := first
    have waiting := ih ⟨e :: rest, by rw [← split, List.append_assoc]; rfl⟩
    refine waiting.step ?_
    rintro now token current senderClosed hello rfl found
    obtain ⟨mid, wait, same, quiet, accepts⟩ := waiting.hello token current senderClosed hello found
    have held := harmless.hellos mid hello wait now rest (by rw [← split, same]; simp) quiet accepts
    rw [same]
    exact held

theorem Harmless.unheeded (harmless : Harmless env connectionId s post)
    (idle : ∀ token current senderClosed hello,
      s.connections connectionId ≠ some ⟨token, current, senderClosed, .registering hello⟩) :
    StepsMeet (step env) (Unheeded env connectionId) s post := by
  intro done e rest split
  have waiting := harmless.waiting idle ⟨e :: rest, split.symm⟩
  constructor
  · rintro now hello token current senderClosed rfl found
    obtain ⟨mid, wait, same, quiet, accepts⟩ := waiting.hello token current senderClosed hello found
    have held := harmless.hellos mid hello wait now rest (by rw [split, same]; simp) quiet accepts
    rw [same]
    exact held
  · rintro heartbeat now rfl
    refine .unbound ?_
    rw [waiting.current]
    exact harmless.heartbeats heartbeat now (split ▸ by simp)

/-- A connection that a hello was just rejected on registers nothing. -/
theorem RejectsHello.idle (rejects : RejectsHello env connectionId s e) (token current : Option String)
    (senderClosed : Bool) (hello : AgentHello) : (step env s e).connections connectionId ≠
      some ⟨token, current, senderClosed, .registering hello⟩ := by
  intro registering
  obtain ⟨rejected, ⟨_, rfl⟩ | ⟨now, rfl⟩⟩ := rejects
  · cases rejected with
    | credential found refused =>
      simp only [step, found, refused, Bool.false_eq_true, if_false, setConnection_connections,
        if_true] at registering
      cases registering
  · cases rejected with
    | @duplicate _ _ hello token current senderClosed agent found held other =>
      have refused : registerAgentConnection s.agents connectionId current hello now = none := by
        rw [registerAgentConnection_eq, if_pos ⟨agent, held, other⟩]
      simp only [step, found, refused, setConnection_connections, if_true] at registering
      cases registering

/-- **A rejected connection stays rejected**, as long as what arrives on it is harmless: after a
hello of the connection was rejected, no step of the connection changes the map but its cleanup,
which removes the connection's entry. -/
theorem rejection_final (config : LoadedControlConfig) {pre post : List ServerEvent}
    {e : ServerEvent} (rejects : RejectsHello env connectionId (run (step env) (init config) pre) e)
    (harmless : Harmless env connectionId (run (step env) (init config) (pre ++ [e])) post) :
    let after := run (step env) (init config)
    (after (pre ++ [e])).agents = (after pre).agents ∧
    ∀ mid e' rest, post = mid ++ e' :: rest → e'.connection = some connectionId →
      (after (pre ++ e :: (mid ++ [e']))).agents = (after (pre ++ e :: mid)).agents ∨
      e' = .removeAgent connectionId ∧ ∀ id, (after (pre ++ e :: (mid ++ [e']))).agents[id]? =
        if heldBy (after (pre ++ e :: mid)).agents id connectionId then none
        else (after (pre ++ e :: mid)).agents[id]? := by
  have here : run (step env) (init config) (pre ++ [e]) =
      step env (run (step env) (init config) pre) e := by
    rw [run_append, run_cons, run_nil]
  refine ⟨?_, ?_⟩
  · rw [here]
    exact (rejected_frame rejects.1).1
  · intro mid e' rest split own
    have sessions : (run (step env) (init config) (pre ++ e :: mid)).Sessions :=
      sessions_run config (pre ++ e :: mid)
    have meets := harmless.unheeded (here ▸ rejects.idle) mid e' rest split
    rw [← run_append, List.append_assoc, List.singleton_append] at meets
    have stepped : run (step env) (init config) (pre ++ e :: (mid ++ [e'])) =
        step env (run (step env) (init config) (pre ++ e :: mid)) e' := by
      rw [← List.cons_append, ← List.append_assoc, run_append, run_cons, run_nil]
    rw [stepped]
    exact agents_of_unheeded sessions own meets

/-! ## One agent, rejected -/

/-- The agent connects and says hello under a hostname it is not enrolled for. -/
def misnamedRun : List ServerEvent :=
  [.agentControl "connection-1" [headerOf authorizationHeader "Bearer agent-secret",
      headerOf agentConfigTokenHeader "config-secret"]]

def misnamedHello : ServerEvent := .hello "connection-1" ⟨"agent-1", "host-2", "0.1.0", none⟩

theorem misnamed_rejected : RejectsHello oneAgentEnv "connection-1"
    (run (step oneAgentEnv) (init oneAgentConfig) misnamedRun) misnamedHello := by
  have found : (run (step oneAgentEnv) (init oneAgentConfig) misnamedRun).connections
      "connection-1" = some ⟨some "config-secret", none, false, .reading⟩ := by
    decide +kernel
  exact ⟨.credential found (by decide +kernel), .inl ⟨_, rfl⟩⟩

/-- The agent is connected already, and connects once more. -/
def reconnectedRun : List ServerEvent :=
  [.agentControl "connection-2" [headerOf authorizationHeader "Bearer agent-secret",
      headerOf agentConfigTokenHeader "config-secret"],
    .hello "connection-2" ⟨"agent-1", "host-1", "0.1.0", none⟩,
    .register "connection-2" 1] ++ misnamedRun

/-- On the new connection, after a hello that was rejected, it says hello under its own hostname,
sends a heartbeat and leaves. Its id is held by the old connection all the while. -/
theorem rejection_final_misnamed :
    let after := run (step oneAgentEnv) (init oneAgentConfig)
    let greeting := ServerEvent.hello "connection-1" ⟨"agent-1", "host-1", "0.1.0", none⟩
    (after (reconnectedRun ++ misnamedHello :: ([greeting] ++ [.register "connection-1" 2]))).agents =
      (after (reconnectedRun ++ misnamedHello :: [greeting])).agents := by
  have found : (run (step oneAgentEnv) (init oneAgentConfig) reconnectedRun).connections
      "connection-1" = some ⟨some "config-secret", none, false, .reading⟩ := by
    decide +kernel
  have rejects : RejectsHello oneAgentEnv "connection-1"
      (run (step oneAgentEnv) (init oneAgentConfig) reconnectedRun) misnamedHello :=
    ⟨.credential found (by decide +kernel), .inl ⟨_, rfl⟩⟩
  have unbound : (run (step oneAgentEnv) (init oneAgentConfig)
      (reconnectedRun ++ [misnamedHello])).currentAgentId "connection-1" ≠ some "agent-1" := by
    decide +kernel
  have harmless : Harmless oneAgentEnv "connection-1"
      (run (step oneAgentEnv) (init oneAgentConfig) (reconnectedRun ++ [misnamedHello]))
      [.hello "connection-1" ⟨"agent-1", "host-1", "0.1.0", none⟩, .register "connection-1" 2,
        .heartbeat "connection-1" ⟨"agent-1", "host-1", "0.1.0", "v1", []⟩ 3,
        .socketEnd "connection-1", .removeAgent "connection-1"] := by
    constructor
    · intro mid hello wait now rest split quiet _
      cases mid with
      | cons first mid =>
        obtain ⟨-, split⟩ := List.cons.inj split
        have mem : ServerEvent.hello "connection-1" hello ∈ mid.append
            (.hello "connection-1" hello :: (wait ++ .register "connection-1" now :: rest)) := by
          simp
        rw [← split] at mem
        simp at mem
      | nil =>
        obtain ⟨same, later⟩ := List.cons.inj split
        cases same
        cases wait with
        | cons first wait =>
          obtain ⟨rfl, -⟩ := List.cons.inj later
          exact absurd List.mem_cons_self (quiet 2)
        | nil =>
          exact ⟨⟨"agent-1", "host-1", "0.1.0", none, none, [], 1, 1, "connection-2"⟩,
            by decide +kernel, by decide⟩
    · intro heartbeat now mem
      simp only [List.mem_cons, List.not_mem_nil, or_false, reduceCtorEq, false_or,
        ServerEvent.heartbeat.injEq, true_and] at mem
      rw [mem.1]
      exact unbound
  have unchanged := (rejection_final oneAgentConfig rejects harmless).2
    [.hello "connection-1" ⟨"agent-1", "host-1", "0.1.0", none⟩] (.register "connection-1" 2) _ rfl rfl
  rcases unchanged with same | ⟨cleanup, -⟩
  · exact same
  · cases cleanup

/-- **A rejected connection can enter the map**: the hello is rejected, the one after it registers
the agent. -/
theorem rejected_registers :
    ∃ (config : LoadedControlConfig) (pre mid : List ServerEvent) (e : ServerEvent) (now : UInt64),
      let after := run (step oneAgentEnv) (init config)
      RejectsHello oneAgentEnv "connection-1" (after pre) e ∧
      (after (pre ++ e :: mid)).agents["agent-1"]? = none ∧
      (after (pre ++ e :: (mid ++ [.register "connection-1" now]))).agents["agent-1"]? =
        some ⟨"agent-1", "host-1", "0.1.0", none, none, [], now, now, "connection-1"⟩ :=
  ⟨oneAgentConfig, misnamedRun, [.hello "connection-1" ⟨"agent-1", "host-1", "0.1.0", none⟩],
    misnamedHello, 1, misnamed_rejected, by decide +kernel, by decide +kernel⟩

end Talia.Server
