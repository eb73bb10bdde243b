import Talia.Control.Sessions

/-!
# Who is given a configuration

A config fetch answered with a configuration went through two reads. `fetch_origin` finds the
first in the run: the step that read the agents map and left the fetch pending. The entry it found
is filed under the agent id of the request (`sessions_run`), whatever its connection has said since;
the second read checks the token and the hostname of that entry against the configuration then in
force. Both checks together leave the enrolled hostname as the only one whose configuration can be
the answer.

That a credential revoked by a reload stays revoked is the origin rule again: only a swap changes
the configuration in force (`config_step`). Nothing is said of who reads the answer on its way.
-/

namespace Talia.Server

open Transition

variable {env : Env}

/-- A lookup that finds an entry: the bearer is the agent token, and the entry is the agent id's,
held by the connection that is the session. -/
theorem agentConfigLookup_ok (inj : Function.Injective env.sha256) {agents : Agents}
    {headers : HeaderMap} {agent : ConnectedAgent}
    (h : agentConfigLookup env agents headers = .ok agent) :
    bearer headers = some env.agentToken ∧
      ∃ agentId, headerValue headers agentIdHeader = some agentId ∧
        agents[agentId]? = some agent ∧
        headerValue headers configSessionIdHeader = some agent.connectionId := by
  unfold agentConfigLookup at h
  split at h
  next auth =>
    split at h
    next agentId configSessionId hid hsession =>
      split at h
      next found hfound =>
        cases h
        obtain ⟨entry, session⟩ := Option.filter_eq_some_iff.mp hfound
        rw [decide_eq_true_eq] at session
        exact ⟨((authorized_iff inj).mp auth).2, agentId, hid, entry, by rw [hsession, session]⟩
      next => cases h
    next => cases h
  next => cases h

/-- A lookup finds an entry filed under the agent id of the request. -/
theorem agentConfigLookup_filed {s : Server} (sessions : s.Sessions) {headers : HeaderMap}
    {agent : ConnectedAgent} (h : agentConfigLookup env s.agents headers = .ok agent) :
    headerValue headers agentIdHeader = some agent.agentId := by
  unfold agentConfigLookup at h
  split at h
  next =>
    split at h
    next id session hid hsession =>
      split at h
      next found hfound =>
        cases h
        rw [hid, (sessions id agent (Option.filter_eq_some_iff.mp hfound).1).1]
      next => cases h
    next => cases h
  next => cases h

/-- A configuration in answer: the credential was the enrolled one, and the configuration is the
enrolled hostname's. -/
theorem agentConfigAnswer_config (inj : Function.Injective env.sha256) {config : ControlConfigFile}
    {headers : HeaderMap} {agent : ConnectedAgent} {runtime : AgentRuntimeConfig}
    (h : agentConfigAnswer env config headers agent = .config runtime) :
    ∃ enrollment token, config.agents[agent.agentId]? = some enrollment ∧
      enrollment.hostname = agent.hostname ∧ enrollment.configToken = some token ∧
      Text.isBlank token = false ∧ headerValue headers agentConfigTokenHeader = some token ∧
      config.runtimeConfigFor enrollment.hostname = .ok runtime := by
  unfold agentConfigAnswer at h
  split at h
  next credential =>
    obtain ⟨enrollment, token, enrolled, host, configured, visible, presented⟩ :=
      (agentHasConfigCredential_iff inj).mp credential
    split at h
    next resolved =>
      cases h
      exact ⟨enrollment, token, enrolled, host, configured, visible, presented,
        by rw [host]; exact resolved⟩
    next => cases h
  next => cases h

/-- A fetch whose credential is accepted is answered with what its entry's hostname resolves
to. -/
theorem agentConfigAnswer_of_resolved {config : ControlConfigFile} {headers : HeaderMap}
    {agent : ConnectedAgent} {runtime : AgentRuntimeConfig}
    (credential : agentHasConfigCredential env.sha256 config agent.agentId agent.hostname
      (headerValue headers agentConfigTokenHeader) = true)
    (resolved : config.runtimeConfigFor agent.hostname = .ok runtime) :
    agentConfigAnswer env config headers agent = .config runtime := by
  rw [agentConfigAnswer, if_pos credential, resolved]

/-- A fetch is answered with a configuration or a status. -/
theorem agentConfigAnswer_cases (env : Env) (config : ControlConfigFile) (headers : HeaderMap)
    (agent : ConnectedAgent) :
    (∃ runtime, agentConfigAnswer env config headers agent = .config runtime) ∨
      ∃ status, agentConfigAnswer env config headers agent = .status status := by
  unfold agentConfigAnswer
  split
  · split
    · exact .inl ⟨_, rfl⟩
    · exact .inr ⟨_, rfl⟩
  · exact .inr ⟨_, rfl⟩

/-- A fetch is left pending only by its own lookup. -/
theorem fetch_step {s : Server} {e : ServerEvent} {request : Request} {agent : ConnectedAgent}
    (before : s.fetches request ≠ some agent)
    (after : (step env s e).fetches request = some agent) :
    e = .agentConfig request ∧ agentConfigLookup env s.agents request.headers = .ok agent := by
  rcases step_acts env s e with same | acts
  · rw [same] at after
    exact absurd after before
  generalize step env s e = s' at acts after
  cases acts with
  | lookedUp fresh found =>
    rw [setFetch_fetches] at after
    split at after
    next same =>
      subst same
      cases after
      exact ⟨rfl, found⟩
    next => exact absurd after before
  | answered found =>
    rw [setFetch_fetches] at after
    split at after
    next => cases after
    next => exact absurd after before
  | _ => exact absurd after before

/-- **A pending fetch was looked up by an earlier step of the run.** -/
theorem fetch_origin (config : LoadedControlConfig) {es : List ServerEvent} {request : Request}
    {agent : ConnectedAgent}
    (pending : (run (step env) (init config) es).fetches request = some agent) :
    ∃ pre post, es = pre ++ .agentConfig request :: post ∧
      agentConfigLookup env (run (step env) (init config) pre).agents request.headers =
        .ok agent := by
  let P : Server → Prop := fun s => s.fetches request = some agent
  have start : ¬ P (init config) := fun h => by cases h
  obtain ⟨pre, e, post, rfl, before, after⟩ := exists_established (P := P) start pending
  have looked := after [] List.nil_prefix
  rw [run_append, run_cons, run_nil] at looked
  obtain ⟨rfl, found⟩ := fetch_step before looked
  exact ⟨pre, post, rfl, found⟩

/-- Only a swap changes the configuration in force. -/
theorem config_step {s : Server} {e : ServerEvent} (changed : (step env s e).config ≠ s.config) :
    ∃ id, e = .reloadSwap id := by
  rcases step_acts env s e with same | acts
  · rw [same] at changed
    exact absurd rfl changed
  generalize step env s e = s' at acts changed
  cases acts with
  | swapped => exact ⟨_, rfl⟩
  | _ => exact absurd rfl changed

/-- **A credential comes into force only by a swap.** -/
theorem enrolled_origin {s : Server} {es : List ServerEvent} {agentId token : String}
    (before : ¬ s.config.config.EnrollsToken agentId token)
    (after : (run (step env) s es).config.config.EnrollsToken agentId token) :
    ∃ pre id post, es = pre ++ .reloadSwap id :: post ∧
      ¬ (run (step env) s pre).config.config.EnrollsToken agentId token ∧
      (step env (run (step env) s pre) (.reloadSwap id)).config.config.EnrollsToken
        agentId token := by
  let P : Server → Prop := fun s => s.config.config.EnrollsToken agentId token
  obtain ⟨pre, e, post, rfl, start, established⟩ :=
    exists_established (P := P) before after
  have enrolled : (run (step env) s (pre ++ [e])).config.config.EnrollsToken agentId token :=
    established [] List.nil_prefix
  rw [run_append, run_cons, run_nil] at enrolled
  have changed : (step env (run (step env) s pre) e).config ≠ (run (step env) s pre).config := by
    intro same
    rw [same] at enrolled
    exact start enrolled
  obtain ⟨id, rfl⟩ := config_step changed
  exact ⟨pre, id, post, rfl, start, enrolled⟩

/-- **Config disclosure.** A config fetch answered with a configuration carried the agent token,
named an agent id and, as its session, the connection that held that id's entry when the map was
read, and presented the token enrolled for the id, which is not blank; and the configuration is
that of the hostname enrolled for the id, both in the configuration in force at the answer. If that
token was not enrolled for the id at some point of the run, a later swap enrolled it. -/
theorem config_disclosure (inj : Function.Injective env.sha256) (config : LoadedControlConfig)
    {es : List ServerEvent} {request : Request} {runtime : AgentRuntimeConfig}
    (served : answer env (run (step env) (init config) es) (.agentConfigRead request) =
      some (.config runtime)) :
    let inForce := (run (step env) (init config) es).config.config
    ∃ pre post agentId agent enrollment token,
      es = pre ++ .agentConfig request :: post ∧
      bearer request.headers = some env.agentToken ∧
      headerValue request.headers agentIdHeader = some agentId ∧
      (run (step env) (init config) pre).agents[agentId]? = some agent ∧
      headerValue request.headers configSessionIdHeader = some agent.connectionId ∧
      (run (step env) (init config) pre).currentAgentId agent.connectionId = some agentId ∧
      inForce.agents[agentId]? = some enrollment ∧
      enrollment.configToken = some token ∧ Text.isBlank token = false ∧
      headerValue request.headers agentConfigTokenHeader = some token ∧
      inForce.runtimeConfigFor enrollment.hostname = .ok runtime ∧
      ∀ past later, es = past ++ later →
        ¬ (run (step env) (init config) past).config.config.EnrollsToken agentId token →
        ∃ between id rest, later = between ++ .reloadSwap id :: rest ∧
          (run (step env) (init config)
            (past ++ between ++ [.reloadSwap id])).config.config.EnrollsToken agentId token := by
  obtain ⟨agent, pending, body⟩ := Option.map_eq_some_iff.mp served
  obtain ⟨pre, post, split, looked⟩ := fetch_origin config pending
  obtain ⟨auth, agentId, hid, entry, session⟩ := agentConfigLookup_ok inj looked
  obtain ⟨filed, connection, hc, -, current⟩ := sessions_run config pre agentId agent entry
  obtain ⟨enrollment, token, enrolled, -, configured, visible, presented, resolved⟩ :=
    agentConfigAnswer_config inj body
  rw [filed] at enrolled
  refine ⟨pre, post, agentId, agent, enrollment, token, split, auth, hid, entry, session,
    by rw [currentAgentId, hc]; exact current, enrolled, configured, visible, presented, resolved,
    ?_⟩
  rintro past later rfl revoked
  have now : (run (step env) (run (step env) (init config) past) later).config.config.EnrollsToken
      agentId token := by
    rw [← run_append]
    exact ⟨enrollment, enrolled, configured⟩
  obtain ⟨between, id, rest, rfl, -, again⟩ := enrolled_origin revoked now
  refine ⟨between, id, rest, rfl, ?_⟩
  rw [run_append, run_append, run_cons, run_nil]
  exact again

/-- The one agent's fetch, after its hello. -/
theorem config_disclosure_oneAgent :
    ∃ (pre post : List ServerEvent) (agentId token : String) (enrollment : AgentEnrollment)
      (runtime : AgentRuntimeConfig),
      oneAgentRun ++ [.agentConfig oneAgentRequest] = pre ++ .agentConfig oneAgentRequest :: post ∧
      headerValue oneAgentRequest.headers agentIdHeader = some agentId ∧
      enrollment.configToken = some token ∧
      headerValue oneAgentRequest.headers agentConfigTokenHeader = some token ∧
      (run (step oneAgentEnv) (init oneAgentConfig)
        (oneAgentRun ++ [.agentConfig oneAgentRequest])).config.config.runtimeConfigFor
          enrollment.hostname = .ok runtime := by
  let s := run (step oneAgentEnv) (init oneAgentConfig)
    (oneAgentRun ++ [.agentConfig oneAgentRequest])
  let agent : ConnectedAgent :=
    ⟨"agent-1", "host-1", "0.1.0", none, none, [], 1, 1, "connection-1"⟩
  have pending : s.fetches oneAgentRequest = some agent := by decide +kernel
  have credential : agentHasConfigCredential oneAgentEnv.sha256 s.config.config agent.agentId
      agent.hostname (headerValue oneAgentRequest.headers agentConfigTokenHeader) = true := by
    decide +kernel
  obtain ⟨runtime, resolved⟩ :=
    (s.config.config.runtimeConfigFor_ok_iff agent.hostname).mpr (by decide +kernel)
  have served : answer oneAgentEnv s (.agentConfigRead oneAgentRequest) =
      some (.config runtime) := by
    rw [answer, pending, Option.map_some, agentConfigAnswer_of_resolved credential resolved]
  obtain ⟨pre, post, agentId, -, enrollment, token, split, -, hid, -, -, -, -, configured, -,
    presented, body, -⟩ := config_disclosure (fun _ _ h => h) oneAgentConfig served
  exact ⟨pre, post, agentId, token, enrollment, runtime, split, hid, configured, presented, body⟩

end Talia.Server
