import Talia.Deployment.Step

/-!
# The deployment as a cached source

The configuration in force is a source that changes, and the configuration the agent applied is a
cache of what the source resolves to for it, with the agent's two tasks for readers: a task takes
the value when the server answers its fetch, holds it while the response travels, is validated and
saved, and writes it when it applies it. `view` reads a deployment as such a cache and `label` its
steps; `view_step` is the refinement. It holds of deployments whose flights are `Wired`: each is of
a task that waits for it, and for the agent's own id.
-/

namespace Talia

namespace Agent

/-- One task's refresh leaves the other's alone. -/
theorem setRefresh_other (s : Agent) (task : Task) (refresh : Refresh) (other : Task)
    (differs : other ≠ task) : (s.setRefresh task refresh).refresh other = s.refresh other := by
  rw [setRefresh_refresh, if_neg differs]

/-- What moves the refresh of a task: a start when it is idle, the response to its request, and its
own steps with what it fetched. -/
inductive Moves (s : Agent) (task : Task) : Event → Prop
  | poll (idle : s.refresh task = .idle) : Moves s task .poll
  | message {message : ServerControlMessage} (idle : s.refresh task = .idle) :
    Moves s task (.message message)
  | response {result : Option AgentRuntimeConfig} {configSessionId : String}
    (found : s.refresh task = .requested configSessionId) : Moves s task (.response task result)
  | fetched {e : Event} (started : s.refresh task ≠ .idle)
    (answered : ∀ configSessionId, s.refresh task ≠ .requested configSessionId) : Moves s task e

/-- **The refresh of a task moves, or stays as it is.** -/
theorem moves_or_stays (s : Agent) (e : Event) (task : Task) :
    Moves s task e ∨ (step s e).refresh task = s.refresh task := by
  rcases step_acts s e with ⟨same, -⟩ | acts
  · rw [same]
    exact .inr rfl
  generalize step s e = s' at acts
  -- A step of the other task leaves this one's refresh.
  have own {changed : Task} {t : Agent} {refresh : Refresh} (same : t.refresh = s.refresh)
      (moves : task = changed → Moves s task e) :
      Moves s task e ∨ (t.setRefresh changed refresh).refresh task = s.refresh task := by
    by_cases it : task = changed
    · exact .inl (moves it)
    · rw [setRefresh_other t changed refresh task it, same]
      exact .inr rfl
  cases acts with
  | polled idle => exact own rfl fun it => .poll (it ▸ idle)
  | acknowledged idle => exact own rfl fun it => .message (it ▸ idle)
  | notified idle => exact own rfl fun it => .message (it ▸ idle)
  | ended => exact .inr rfl
  | received found =>
    refine own rfl fun it => ?_
    subst it
    exact .response found
  | failed found =>
    refine own rfl fun it => ?_
    subst it
    exact .response found
  | valid found | invalid found | saved found | applied found =>
    refine own rfl fun it => ?_
    subst it
    exact .fetched (by rw [found]; exact Refresh.noConfusion)
      (fun _ => by rw [found]; exact Refresh.noConfusion)

/-- A fetch stays under way until its response. -/
theorem requested_step {s : Agent} {e : Event} {task : Task} {configSessionId : String}
    (requested : s.refresh task = .requested configSessionId)
    (noResponse : ∀ result, e ≠ .response task result) :
    (step s e).refresh task = .requested configSessionId := by
  rcases moves_or_stays s e task with moves | same
  · cases moves with
    | poll idle | message idle =>
      rw [requested] at idle
      cases idle
    | response => exact absurd rfl (noResponse _)
    | fetched _ answered => exact absurd requested (answered configSessionId)
  · rw [same, requested]

/-- A task that is idle stays so, but for a poll or a message. -/
theorem idle_step {s : Agent} {e : Event} {task : Task} (idle : s.refresh task = .idle)
    (noPoll : e ≠ .poll) (noMessage : ∀ message, e ≠ .message message) :
    (step s e).refresh task = .idle := by
  rcases moves_or_stays s e task with moves | same
  · cases moves with
    | poll => exact absurd rfl noPoll
    | message => exact absurd rfl (noMessage _)
    | response found =>
      rw [idle] at found
      cases found
    | fetched started => exact absurd idle started
  · rw [same, idle]

/-- Only an apply changes the shared configuration. -/
theorem sharedConfig_frame (s : Agent) {e : Event} (other : ∀ task, e ≠ .apply task) :
    (step s e).sharedConfig = s.sharedConfig := by
  have unapplied : appliedConfig s e = none := by
    cases e with
    | apply task => exact absurd rfl (other task)
    | _ => rfl
  rw [sharedConfig_step, unapplied, Option.map_none, Option.getD_none]

end Agent

/-- The request is the agent's own, and the entry found for it is filed under its id. -/
def Flight.Own (site : Site) : Flight → Prop
  | .sent headers => headerValue headers agentIdHeader = site.presentedId
  | .lookedUp _ agent => site.presentedId = some agent.agentId
  | .answered _ => True

namespace Deployment

open Transition

variable {site : Site}

/-- The configuration in force after a step is the one it swapped in, if it did. -/
theorem config_swappedIn (env : Env) (server : Server) (e : ServerEvent) :
    (Server.step env server e).config = (swappedIn server e).getD server.config := by
  cases e with
  | reloadSwap id =>
    rw [Server.step, swappedIn]
    cases server.reloads id with
    | none => rfl
    | some reload => cases reload <;> rfl
  | _ =>
    by_contra changed
    obtain ⟨id, swap⟩ := Server.config_step changed
    cases swap

/-! ## What is on its way -/

/-- Every flight is of a task that waits for it, and the agent's own. -/
structure Wired (site : Site) (s : Deployment) : Prop where
  sessions : s.server.Sessions
  waiting : ∀ task flight, s.flights task = some flight →
    ∃ configSessionId, s.agent.refresh task = .requested configSessionId
  own : ∀ task flight, s.flights task = some flight → flight.Own site

/-- At first nothing is on its way. -/
theorem wired_init (config : LoadedControlConfig) (bootstrap : AgentBootstrapConfig)
    (dir : StateDir) : Wired site (init config bootstrap dir) where
  sessions := Server.sessions_init config
  waiting := fun _ _ h => nomatch h
  own := fun _ _ h => nomatch h

/-- What starts a refresh: the poll task's interval, or a message to the WebSocket task. -/
inductive Starts : Task → Agent.Event → Prop
  | poll : Starts .poll .poll
  | message (message : ServerControlMessage) : Starts .websocket (.message message)

/-- A launch starts a refresh of a task that was idle, or changes nothing. -/
theorem launch_cases (site : Site) {s : Deployment} {task : Task} {e : Agent.Event}
    (starts : Starts task e) :
    s.launch site task e = s ∨ ∃ configSessionId, s.agent.refresh task = .idle ∧
      (s.agent.step e).refresh =
        Function.update s.agent.refresh task (.requested configSessionId) ∧
      s.launch site task e = { s with agent := s.agent.step e }.setFlight task
        (some (.sent (site.fetchHeaders configSessionId))) := by
  rcases Agent.step_acts s.agent e with ⟨same, -⟩ | acts
  · left
    rw [launch, same]
    split
    next idle requested =>
      rw [idle] at requested
      cases requested
    next => rfl
  · right
    -- In each case the task was idle and has made its request.
    have launched : ∀ {configSessionId : String}, s.agent.refresh task = .idle →
        (s.agent.step e).refresh =
          Function.update s.agent.refresh task (.requested configSessionId) →
        s.launch site task e = { s with agent := s.agent.step e }.setFlight task
          (some (.sent (site.fetchHeaders configSessionId))) := by
      intro configSessionId idle requested
      rw [launch, idle, requested, Function.update_self]
    cases starts with
    | poll =>
      generalize after : s.agent.step .poll = agent at acts launched
      cases acts with
      | polled idle => exact ⟨_, idle, rfl, launched idle rfl⟩
    | message message =>
      generalize after : s.agent.step (.message message) = agent at acts launched
      cases acts with
      | acknowledged idle => exact ⟨_, idle, rfl, launched idle rfl⟩
      | notified idle => exact ⟨_, idle, rfl, launched idle rfl⟩

/-- Each step of the agent leaves the flights wired whose response it is not. -/
theorem Wired.act {s : Deployment} (wired : Wired site s) {e : Agent.Event}
    (noResponse : ∀ task result, e ≠ .response task result) :
    Wired site { s with agent := s.agent.step e } where
  sessions := wired.sessions
  waiting := by
    intro task flight found
    obtain ⟨configSessionId, requested⟩ := wired.waiting task flight found
    exact ⟨configSessionId, Agent.requested_step requested (noResponse task)⟩
  own := wired.own

/-- The link does not bear on the flights. -/
theorem Wired.setLink {s : Deployment} (wired : Wired site s) (link : Option Link) :
    Wired site { s with link := link } :=
  ⟨wired.sessions, wired.waiting, wired.own⟩

/-- A flight under way may be replaced by another one of the agent's own. -/
theorem Wired.setFlight {s : Deployment} (wired : Wired site s) {task : Task} {flight : Flight}
    {configSessionId : String} (requested : s.agent.refresh task = .requested configSessionId)
    (own : flight.Own site) : Wired site (s.setFlight task (some flight)) where
  sessions := wired.sessions
  waiting := by
    intro other flight' found
    rw [setFlight_flights] at found
    split at found
    next same =>
      subst same
      exact ⟨configSessionId, requested⟩
    next => exact wired.waiting other flight' found
  own := by
    intro other flight' found
    rw [setFlight_flights] at found
    split at found
    next =>
      cases found
      exact own
    next => exact wired.own other flight' found

/-- The response to a fetch ends its flight. -/
theorem Wired.respond {s : Deployment} (wired : Wired site s) (task : Task)
    (result : Option AgentRuntimeConfig) :
    Wired site ({ s with agent := s.agent.step (.response task result) }.setFlight task none) where
  sessions := wired.sessions
  waiting := by
    intro other flight found
    rw [setFlight_flights] at found
    split at found
    next => cases found
    next differs =>
      obtain ⟨configSessionId, requested⟩ := wired.waiting other flight found
      refine ⟨configSessionId, Agent.requested_step requested ?_⟩
      rintro result' ⟨⟩
      exact differs rfl
  own := by
    intro other flight found
    rw [setFlight_flights] at found
    split at found
    next => cases found
    next => exact wired.own other flight found

/-- A task that starts has its flight launched with it. -/
theorem Wired.launch {s : Deployment} (wired : Wired site s) {task : Task} {e : Agent.Event}
    (starts : Starts task e) : Wired site (s.launch site task e) := by
  rcases launch_cases site starts with same | ⟨configSessionId, idle, requested, launched⟩
  · rw [same]
    exact wired
  · rw [launched]
    have acted : Wired site { s with agent := s.agent.step e } :=
      wired.act (by cases starts <;> rintro _ _ ⟨⟩)
    have waits : (s.agent.step e).refresh task = .requested configSessionId := by
      rw [requested, Function.update_self]
    exact acted.setFlight waits (site.headerValue_fetchHeaders configSessionId)

/-- **Each step keeps the flights wired.** -/
theorem wired_step (s : Deployment) (e : Event) (wired : Wired site s) :
    Wired site (step site s e) := by
  cases e with
  | server e =>
    exact ⟨Server.sessions_step s.server e wired.sessions, wired.waiting, wired.own⟩
  | connect connectionId =>
    rw [step]
    split
    · split
      · exact ⟨Server.sessions_step _ _ wired.sessions, wired.waiting, wired.own⟩
      · exact wired
    · exact wired
  | acknowledge =>
    rw [step]
    split
    · exact (wired.setLink _).launch (.message _)
    · exact wired
  | notify =>
    rw [step]
    split
    · split
      · exact (wired.setLink _).launch (.message _)
      · exact wired
    · exact wired
  | disconnect =>
    rw [step]
    split
    · have acted : Wired site { s with agent := s.agent.step .websocketEnd } :=
        wired.act (by rintro _ _ ⟨⟩)
      exact acted.setLink none
    · exact wired
  | poll => exact wired.launch .poll
  | lookup task =>
    rw [step]
    split
    next headers sent =>
      obtain ⟨configSessionId, requested⟩ := wired.waiting task _ sent
      have named : headerValue headers agentIdHeader = site.presentedId := wired.own task _ sent
      split
      next agent found =>
        have filed := Server.agentConfigLookup_filed wired.sessions found
        exact wired.setFlight requested (named.symm.trans filed)
      next => exact wired.setFlight requested trivial
    next => exact wired
  | read task =>
    rw [step]
    split
    next headers agent looked =>
      obtain ⟨configSessionId, requested⟩ := wired.waiting task _ looked
      have stamped : Wired site
          { s with resolvedAt := Function.update s.resolvedAt task s.swaps } :=
        ⟨wired.sessions, wired.waiting, wired.own⟩
      exact stamped.setFlight requested trivial
    next => exact wired
  | receive task =>
    rw [step]
    split
    · exact wired.respond task _
    · exact wired
  | fail task =>
    rw [step]
    split
    · exact wired.respond task none
    · exact wired
  | validate task => exact wired.act (by rintro _ _ ⟨⟩)
  | save task fault => exact wired.act (by rintro _ _ ⟨⟩)
  | apply task =>
    rw [step]
    split
    · have acted : Wired site { s with agent := s.agent.step (.apply task) } :=
        wired.act (by rintro _ _ ⟨⟩)
      exact ⟨acted.sessions, acted.waiting, acted.own⟩
    · exact wired

/-! ## The deployment as a cached source -/

/-- What a configuration resolves to for the agent: the runtime configuration of the hostname it is
enrolled for. -/
def resolve (site : Site) (config : ControlConfigFile) : Option AgentRuntimeConfig :=
  site.presentedId.bind fun agentId => config.agents[agentId]?.bind fun enrollment =>
    (config.runtimeConfigFor enrollment.hostname).toOption

/-- A configuration in answer to the agent is what is resolved for it. -/
theorem resolve_of_answer {config : ControlConfigFile} {headers : HeaderMap}
    {agent : ConnectedAgent} {runtime : AgentRuntimeConfig}
    (own : site.presentedId = some agent.agentId)
    (answer : agentConfigAnswer site.env config headers agent = .config runtime) :
    resolve site config = some runtime := by
  unfold agentConfigAnswer at answer
  split at answer
  next credential =>
    -- The entry's hostname is the enrolled one.
    have bound := (Bool.and_eq_true_iff.mp credential).1
    unfold ControlConfigFile.agentIsEnrolledForHostname at bound
    split at bound
    next enrollment enrolled =>
      have named : enrollment.hostname = agent.hostname := of_decide_eq_true bound
      split at answer
      next resolved =>
        cases answer
        rw [resolve, own, Option.bind_some, enrolled, Option.bind_some, named, resolved]
        rfl
      next => cases answer
    next => cases bound
  next => cases answer

/-- A configuration resolved for the agent is valid. -/
theorem valid_of_resolve {config : ControlConfigFile} {runtime : AgentRuntimeConfig}
    (resolved : resolve site config = some runtime) : runtime.Valid := by
  obtain ⟨agentId, -, rest⟩ := Option.bind_eq_some_iff.mp resolved
  obtain ⟨enrollment, -, body⟩ := Option.bind_eq_some_iff.mp rest
  cases answer : config.runtimeConfigFor enrollment.hostname with
  | error e =>
    rw [answer] at body
    cases body
  | ok runtime' =>
    rw [answer] at body
    cases body
    exact ControlConfigFile.valid_of_runtimeConfigFor answer

/-- The configuration a task is on its way with, between the server's answer and the apply. -/
def inHand (resolvedAt : Nat) :
    Refresh → Option Flight → Option (Freshness.Stamped AgentRuntimeConfig)
  | .requested _, some (.answered (.config runtime)) => some ⟨resolvedAt, runtime⟩
  | .requested _, _ => none
  | .fetched config, _ => some ⟨resolvedAt, config⟩
  | .validated config, _ => some ⟨resolvedAt, config.1⟩
  | .saved config, _ => some ⟨resolvedAt, config.1⟩
  | .idle, _ => none

def held (s : Deployment) (task : Task) : Option (Freshness.Stamped AgentRuntimeConfig) :=
  inHand (s.resolvedAt task) (s.agent.refresh task) (s.flights task)

/-- The deployment as a source with its readers and cache. -/
def view (s : Deployment) : Freshness.State Task ControlConfigFile AgentRuntimeConfig where
  changes := s.swaps
  source := s.server.config.config
  held := s.held
  cached := s.appliedAt.map fun stamp => ⟨stamp, s.agent.sharedConfig⟩

/-- What a step is to the source, its readers and the cache. -/
def label (site : Site) (s : Deployment) : Event → Option (Freshness.Event Task ControlConfigFile)
  | .server e => (swappedIn s.server e).map fun config => .change config.config
  | .read task =>
    match s.flights task with
    | some (.lookedUp headers agent) =>
      match agentConfigAnswer site.env s.server.config.config headers agent with
      | .config _ => some (.take task)
      | _ => none
    | _ => none
  | .fail task => (s.flights task).map fun _ => .drop task
  | .validate task =>
    match s.agent.refresh task with
    | .fetched config => if config.Valid then none else some (.drop task)
    | _ => none
  | .apply task =>
    match s.agent.refresh task with
    | .saved _ => some (.write task)
    | _ => none
  | _ => none

/-- The steps that are seen, each with what was so before it. -/
inductive Seen (s : Deployment) : Event → Freshness.Event Task ControlConfigFile → Prop
  | swapped {id : Nat} {config : LoadedControlConfig}
      (found : s.server.reloads id = some (.loaded config)) :
      Seen s (.server (.reloadSwap id)) (.change config.config)
  | answered {task : Task} : Seen s (.read task) (.take task)
  | failed {task : Task} : Seen s (.fail task) (.drop task)
  | invalid {task : Task} {config : AgentRuntimeConfig}
      (found : s.agent.refresh task = .fetched config) (invalid : ¬ config.Valid) :
      Seen s (.validate task) (.drop task)
  | applied {task : Task} {config : ValidConfig} (found : s.agent.refresh task = .saved config) :
      Seen s (.apply task) (.write task)

/-- What is labelled can be seen in the deployment. -/
theorem seen_of_label {s : Deployment} {e : Event} {d : Freshness.Event Task ControlConfigFile}
    (labelled : label site s e = some d) : Seen s e d := by
  cases e with
  | server e =>
    obtain ⟨config, swapped, rfl⟩ := Option.map_eq_some_iff.mp labelled
    cases e with
    | reloadSwap id =>
      rw [swappedIn] at swapped
      split at swapped
      next found =>
        cases swapped
        exact .swapped found
      next => cases swapped
    | _ => cases swapped
  | read task =>
    rw [label] at labelled
    split at labelled
    next =>
      split at labelled <;> cases labelled
      exact .answered
    next => cases labelled
  | fail task =>
    obtain ⟨flight, -, rfl⟩ := Option.map_eq_some_iff.mp labelled
    exact .failed
  | validate task =>
    rw [label] at labelled
    split at labelled
    next found =>
      split at labelled
      next => cases labelled
      next invalid =>
        cases labelled
        exact .invalid found invalid
    next => cases labelled
  | apply task =>
    rw [label] at labelled
    split at labelled
    next found =>
      cases labelled
      exact .applied found
    next => cases labelled
  | _ => cases labelled

/-- The view depends on these parts of the deployment. -/
theorem view_congr {s t : Deployment} (swaps : t.swaps = s.swaps)
    (source : t.server.config = s.server.config) (held : t.held = s.held)
    (appliedAt : t.appliedAt = s.appliedAt)
    (shared : t.agent.sharedConfig = s.agent.sharedConfig) : t.view = s.view := by
  rw [view, view, swaps, source, held, appliedAt, shared]

/-- Where nothing of the other tasks changed, they have in hand what they had. -/
theorem held_update {s t : Deployment} (task : Task)
    (refresh : ∀ other, other ≠ task → t.agent.refresh other = s.agent.refresh other)
    (flights : ∀ other, other ≠ task → t.flights other = s.flights other)
    (resolvedAt : ∀ other, other ≠ task → t.resolvedAt other = s.resolvedAt other)
    {x : Option (Freshness.Stamped AgentRuntimeConfig)} (here : t.held task = x) :
    t.held = Function.update s.held task x := by
  funext other
  by_cases same : other = task
  · subst same
    rw [Function.update_self, here]
  · rw [Function.update_of_ne same, held, held, refresh other same, flights other same,
      resolvedAt other same]

/-- What one task does changes the view of that task only. -/
theorem view_update {s t : Deployment} (task : Task)
    (refresh : ∀ other, other ≠ task → t.agent.refresh other = s.agent.refresh other)
    (flights : ∀ other, other ≠ task → t.flights other = s.flights other)
    (resolvedAt : ∀ other, other ≠ task → t.resolvedAt other = s.resolvedAt other)
    (swaps : t.swaps = s.swaps) (source : t.server.config = s.server.config)
    (appliedAt : t.appliedAt = s.appliedAt)
    (shared : t.agent.sharedConfig = s.agent.sharedConfig)
    {x : Option (Freshness.Stamped AgentRuntimeConfig)} (here : t.held task = x) :
    t.view = ⟨s.swaps, s.server.config.config, Function.update s.held task x, s.view.cached⟩ := by
  have others := held_update task refresh flights resolvedAt here
  rw [view, swaps, source, appliedAt, shared]
  exact congrArg (Freshness.State.mk _ _ · _) others

/-- What the task has in hand may change its form unseen. -/
theorem view_move {s t : Deployment} (task : Task)
    (refresh : ∀ other, other ≠ task → t.agent.refresh other = s.agent.refresh other)
    (flights : ∀ other, other ≠ task → t.flights other = s.flights other)
    (resolvedAt : ∀ other, other ≠ task → t.resolvedAt other = s.resolvedAt other)
    (swaps : t.swaps = s.swaps) (source : t.server.config = s.server.config)
    (appliedAt : t.appliedAt = s.appliedAt)
    (shared : t.agent.sharedConfig = s.agent.sharedConfig) (same : t.held task = s.held task) :
    t.view = s.view := by
  rw [view_update task refresh flights resolvedAt swaps source appliedAt shared same,
    Function.update_eq_self]
  rfl

/-- One task's flight leaves the other's alone. -/
theorem setFlight_other (s : Deployment) (task : Task) (flight : Option Flight) (other : Task)
    (differs : other ≠ task) : (s.setFlight task flight).flights other = s.flights other := by
  rw [setFlight_flights, if_neg differs]

/-- A launch is not seen: the configuration is still to be resolved. -/
theorem view_launch {s : Deployment} {task : Task} {e : Agent.Event} (starts : Starts task e) :
    (s.launch site task e).view = s.view := by
  rcases launch_cases site starts with same | ⟨configSessionId, idle, requested, launched⟩
  · rw [same]
  · have shared : (s.agent.step e).sharedConfig = s.agent.sharedConfig :=
      Agent.sharedConfig_frame s.agent (by cases starts <;> rintro _ ⟨⟩)
    rw [launched]
    refine view_move task ?_ ?_ (fun _ _ => rfl) rfl rfl rfl shared ?_
    · intro other differs
      exact (congrFun requested other).trans (Function.update_of_ne differs ..)
    · exact fun other differs => setFlight_other _ task _ other differs
    · have waits : (s.agent.step e).refresh task = .requested configSessionId := by
        rw [requested, Function.update_self]
      simp only [held, setFlight, waits, idle, Function.update_self, inHand]

/-- A step of the publication of configurations. -/
abbrev refreshes (site : Site) : Freshness.State Task ControlConfigFile AgentRuntimeConfig →
    Freshness.Event Task ControlConfigFile →
      Freshness.State Task ControlConfigFile AgentRuntimeConfig :=
  Freshness.step (resolve site)

/-- A fetch that ends without a configuration drops what the task was on its way with. -/
theorem view_respond_none (s : Deployment) {task : Task} {configSessionId : String}
    (requested : s.agent.refresh task = .requested configSessionId) :
    ({ s with agent := s.agent.step (.response task none) }.setFlight task none).view =
      ⟨s.swaps, s.server.config.config, Function.update s.held task none, s.view.cached⟩ := by
  have after : s.agent.step (.response task none) = s.agent.setRefresh task .idle := by
    rw [Agent.step, requested]
  rw [after]
  refine view_update task ?_ ?_ (fun _ _ => by rfl) (by rfl) (by rfl) (by rfl) (by rfl) ?_
  · exact Agent.setRefresh_other s.agent task .idle
  · exact setFlight_other _ task none
  simp only [held, setFlight, Agent.setRefresh, Function.update_self, inHand]

/-- Without a configuration in the response, a fetch has nothing in hand. -/
theorem inHand_requested {resolvedAt : Nat} {configSessionId : String} {flight : Flight}
    (empty : ∀ runtime, flight ≠ .answered (.config runtime)) :
    inHand resolvedAt (.requested configSessionId) (some flight) = none := by
  cases flight with
  | answered answer =>
    cases answer with
    | config runtime => exact absurd rfl (empty runtime)
    | _ => rfl
  | _ => rfl

/-- A flight that has not brought a configuration is not seen. -/
theorem view_flight {s t : Deployment} {task : Task} {configSessionId : String}
    {before after : Flight} (requested : s.agent.refresh task = .requested configSessionId)
    (found : s.flights task = some before)
    (empty : ∀ runtime, before ≠ .answered (.config runtime))
    (empty' : ∀ runtime, after ≠ .answered (.config runtime))
    (server : t.server = s.server) (agent : t.agent = s.agent) (swaps : t.swaps = s.swaps)
    (appliedAt : t.appliedAt = s.appliedAt) (flights : t.flights = s.flights)
    (resolvedAt : ∀ other, other ≠ task → t.resolvedAt other = s.resolvedAt other) :
    (t.setFlight task (some after)).view = s.view := by
  refine view_move task ?_ ?_ resolvedAt swaps (congrArg Server.config server) appliedAt
    (congrArg Agent.sharedConfig agent) ?_
  · exact fun other _ => congrFun (congrArg Agent.refresh agent) other
  · intro other differs
    rw [setFlight_other t task _ other differs, flights]
  · rw [held, held, found, setFlight_flights, if_pos rfl, requested, inHand_requested empty]
    exact (congrArg (inHand _ · _) ((congrFun (congrArg Agent.refresh agent) task).trans
      requested)).trans (inHand_requested empty')

/-- The server changes the source when it swaps a configuration in. -/
theorem view_server (s : Deployment) (e : ServerEvent) :
    (step site s (.server e)).view =
      (label site s (.server e)).elim s.view (refreshes site s.view) := by
  have config := config_swappedIn site.env s.server e
  rw [step, label]
  cases swapped : swappedIn s.server e with
  | none =>
    rw [swapped, Option.getD_none] at config
    simp only [Option.isSome_none, Bool.false_eq_true, if_false, Option.map_none,
      Option.elim_none]
    exact view_congr rfl config rfl rfl rfl
  | some loaded =>
    rw [swapped, Option.getD_some] at config
    simp only [Option.isSome_some, if_true, Option.map_some, Option.elim_some, refreshes,
      Freshness.step, view, config]
    rfl

/-- A task takes what the source resolves to, if the server answers with a configuration. -/
theorem view_read (s : Deployment) (task : Task) (wired : Wired site s) :
    (step site s (.read task)).view =
      (label site s (.read task)).elim s.view (refreshes site s.view) := by
  rw [step, label]
  cases flying : s.flights task with
  | none => rfl
  | some flight =>
    cases flight with
    | sent | answered => rfl
    | lookedUp headers agent =>
      obtain ⟨configSessionId, requested⟩ := wired.waiting task _ flying
      have own : site.presentedId = some agent.agentId := wired.own task _ flying
      have free : s.held task = none := by
        rw [held, flying, requested]
        rfl
      have others (other : Task) (differs : other ≠ task) :
          Function.update s.resolvedAt task s.swaps other = s.resolvedAt other :=
        Function.update_of_ne differs ..
      dsimp only
      cases answer : agentConfigAnswer site.env s.server.config.config headers agent with
      | config runtime =>
        have resolved : resolve site s.view.source = some runtime := resolve_of_answer own answer
        rw [Option.elim_some, refreshes, Freshness.step_take free resolved]
        refine view_update (s := s) task (fun _ _ => by rfl) ?_ (by exact others) (by rfl) (by rfl)
          (by rfl) (by rfl) ?_
        · exact setFlight_other _ task _
        simp only [held, setFlight, Function.update_self, requested, inHand]
        rfl
      | status | agents | reloaded | message | close =>
        exact view_flight requested flying (by rintro _ ⟨⟩) (by rintro _ ⟨⟩) rfl rfl rfl rfl rfl
          others

/-- What a task has taken stays in its hand when it arrives. -/
theorem view_receive (s : Deployment) (task : Task) (wired : Wired site s) :
    (step site s (.receive task)).view =
      (label site s (.receive task)).elim s.view (refreshes site s.view) := by
  have unseen : label site s (.receive task) = none := rfl
  rw [unseen, Option.elim_none, step]
  cases flying : s.flights task with
  | none => rfl
  | some flight =>
    cases flight with
    | sent | lookedUp => rfl
    | answered answer =>
      obtain ⟨configSessionId, requested⟩ := wired.waiting task _ flying
      cases answer with
      | config runtime =>
        have after : s.agent.step (.response task (some runtime)) =
            s.agent.setRefresh task (.fetched runtime) := by
          rw [Agent.step, requested]
        simp only [receivedConfig_config, after]
        refine view_move task (Agent.setRefresh_other s.agent task _) (setFlight_other _ task none)
          (fun _ _ => rfl) rfl rfl rfl rfl ?_
        simp only [held, setFlight, Agent.setRefresh, Function.update_self, requested, flying,
          inHand]
      | status | agents | reloaded | message | close =>
        have empty : s.held task = none := by
          rw [held, flying, requested]
          rfl
        refine (view_respond_none s requested).trans ?_
        rw [← empty, Function.update_eq_self]
        rfl

/-- A task drops what is not valid. -/
theorem view_validate (s : Deployment) (task : Task) :
    (step site s (.validate task)).view =
      (label site s (.validate task)).elim s.view (refreshes site s.view) := by
  rw [step, label]
  cases found : s.agent.refresh task with
  | fetched config =>
    by_cases valid : config.Valid
    · have after : s.agent.step (.validate task) =
          s.agent.setRefresh task (.validated ⟨config, valid⟩) := by
        rw [Agent.step, found]
        exact dif_pos valid
      simp only [if_pos valid, Option.elim_none, after]
      refine view_move task (Agent.setRefresh_other s.agent task _) (fun _ _ => rfl) (fun _ _ => rfl)
        rfl rfl rfl rfl ?_
      simp only [held, Agent.setRefresh, Function.update_self, found, inHand]
    · have after : s.agent.step (.validate task) = s.agent.setRefresh task .idle := by
        rw [Agent.step, found]
        exact dif_neg valid
      simp only [if_neg valid, Option.elim_some, after]
      refine view_update (s := s) task ?_ (fun _ _ => by rfl) (fun _ _ => by rfl) (by rfl)
        (by rfl) (by rfl) (by rfl) ?_
      · exact Agent.setRefresh_other s.agent task _
      simp only [held, Agent.setRefresh, Function.update_self, inHand]
  | idle | requested | validated | saved =>
    have after : s.agent.step (.validate task) = s.agent := by rw [Agent.step, found]
    rw [after]
    rfl

/-- A save is the abstract write, whether or not the file can be written. -/
theorem view_save (s : Deployment) (task : Task) (fault : Option SaveFault) :
    (step site s (.save task fault)).view =
      (label site s (.save task fault)).elim s.view (refreshes site s.view) := by
  have unseen : label site s (.save task fault) = none := rfl
  rw [unseen, Option.elim_none, step]
  cases found : s.agent.refresh task with
  | validated config =>
    have after : s.agent.step (.save task fault) =
        { s.agent with
          stateDir := (saveLastKnownConfig fault s.agent.stateDir config).1 }.setRefresh task
            (.saved config) := by
      rw [Agent.step, found]
    rw [after]
    refine view_move task (Agent.setRefresh_other _ task _) (fun _ _ => rfl) (fun _ _ => rfl)
      rfl rfl rfl rfl ?_
    simp only [held, Agent.setRefresh, Function.update_self, found, inHand]
  | idle | requested | fetched | saved =>
    have after : s.agent.step (.save task fault) = s.agent := by rw [Agent.step, found]
    rw [after]

/-- A task writes what it holds when it applies it. -/
theorem view_apply (s : Deployment) (task : Task) :
    (step site s (.apply task)).view =
      (label site s (.apply task)).elim s.view (refreshes site s.view) := by
  rw [step, label]
  cases found : s.agent.refresh task with
  | saved config =>
    have inHand : s.view.held task = some ⟨s.resolvedAt task, config.1⟩ := by
      show s.held task = _
      rw [held, found]
      rfl
    have after : s.agent.step (.apply task) =
        { s.agent with sharedConfig := config.1 }.setRefresh task .idle := by
      rw [Agent.step, found]
    dsimp only
    rw [Option.elim_some, refreshes, Freshness.step_write inHand, after]
    refine congrArg (Freshness.State.mk _ _ · _) ?_
    refine held_update (s := s) task ?_ (fun _ _ => by rfl) (fun _ _ => by rfl) ?_
    · exact Agent.setRefresh_other _ task .idle
    simp only [held, Agent.setRefresh, Function.update_self, Deployment.inHand]
  | idle | requested | fetched | validated => rfl

/-- **The deployment refines the cached source.** -/
theorem view_step (s : Deployment) (e : Event) (wired : Wired site s) :
    (step site s e).view = (label site s e).elim s.view (refreshes site s.view) := by
  cases e with
  | server e => exact view_server s e
  | connect connectionId =>
    have unseen : label site s (.connect connectionId) = none := rfl
    rw [unseen, Option.elim_none, step]
    split
    · split
      · refine view_congr rfl ?_ rfl rfl rfl
        by_contra changed
        obtain ⟨id, swap⟩ := Server.config_step changed
        cases swap
      · rfl
    · rfl
  | acknowledge =>
    have unseen : label site s .acknowledge = none := rfl
    rw [unseen, Option.elim_none, step]
    split
    · exact view_launch (.message _)
    · rfl
  | notify =>
    have unseen : label site s .notify = none := rfl
    rw [unseen, Option.elim_none, step]
    split
    · split
      · exact view_launch (.message _)
      · rfl
    · rfl
  | disconnect =>
    have unseen : label site s .disconnect = none := rfl
    rw [unseen, Option.elim_none, step]
    split
    next idle =>
      have after : s.agent.step .websocketEnd = { s.agent with configSessionId := none } := by
        rw [Agent.step, idle]
      rw [after]
      exact view_congr rfl rfl rfl rfl rfl
    next => rfl
  | poll => exact view_launch .poll
  | lookup task =>
    have unseen : label site s (.lookup task) = none := rfl
    rw [unseen, Option.elim_none, step]
    split
    next headers sent =>
      obtain ⟨configSessionId, requested⟩ := wired.waiting task _ sent
      split
      · exact view_flight requested sent (by rintro _ ⟨⟩) (by rintro _ ⟨⟩) rfl rfl rfl rfl rfl
          (fun _ _ => rfl)
      · exact view_flight requested sent (by rintro _ ⟨⟩) (by rintro _ ⟨⟩) rfl rfl rfl rfl rfl
          (fun _ _ => rfl)
    next => rfl
  | read task => exact view_read s task wired
  | receive task => exact view_receive s task wired
  | fail task =>
    rw [step, label]
    cases flying : s.flights task with
    | none => rfl
    | some flight =>
      obtain ⟨configSessionId, requested⟩ := wired.waiting task _ flying
      exact view_respond_none s requested
  | validate task => exact view_validate s task
  | save task fault => exact view_save s task fault
  | apply task => exact view_apply s task

end Deployment

end Talia
