import Talia.Control.Privilege
import Talia.Control.Reload
import Talia.Deployment.Refinement

/-!
# Whether the agent's configuration converges

Nothing in the agent or the server orders the refreshes of the agent's two tasks, and a response
that was overtaken is applied over the newer one (`config_regresses`). Short of that, that is if no
refresh is applied while the other task is on its way with an older configuration, the agent never
goes back to a configuration resolved before an earlier swap, and a refresh begun after the last
swap leaves it with what is resolved for it now (`config_convergence`). It is not shown that a refresh
ends: a response may be on its way for ever.
-/

namespace Talia.Deployment

open Transition

variable {site : Site}

/-! ## Order -/

/-- A step is not the apply of a configuration while the other task is on its way with one that was
resolved after fewer swaps. -/
def AppliesInOrder (s : Deployment) (e : Event) : Prop :=
  ∀ task config, e = .apply task → s.agent.refresh task = .saved config →
    ∀ other, s.held other ≠ none → s.resolvedAt task ≤ s.resolvedAt other

/-- What a task is on its way with is stamped with the swaps before it was resolved. -/
theorem stamp_of_held {s : Deployment} {task : Task} {x : Freshness.Stamped AgentRuntimeConfig}
    (found : s.held task = some x) : x.stamp = s.resolvedAt task := by
  unfold held inHand at found
  split at found <;> cases found <;> rfl

/-- Configurations that are applied in order are fresh in order. -/
theorem inOrder_of_appliesInOrder {s : Deployment} {e : Event}
    {d : Freshness.Event Task ControlConfigFile} (order : AppliesInOrder s e)
    (labelled : label site s e = some d) : Freshness.InOrder s.view d := by
  rintro task x rfl found other z found'
  rw [stamp_of_held found, stamp_of_held found']
  cases seen_of_label labelled with
  | @applied _ config saved =>
    have other_held : s.held other = some z := found'
    exact order task config rfl saved other (by rw [other_held]; rintro ⟨⟩)

/-- The flights are wired, and what is held and applied was resolved in order. -/
structure Converging (site : Site) (s : Deployment) : Prop where
  wired : Wired site s
  ordered : Freshness.Ordered (resolve site) s.view

/-- At first no configuration is on its way. -/
theorem converging_init (config : LoadedControlConfig) (bootstrap : AgentBootstrapConfig)
    (dir : StateDir) : Converging site (init config bootstrap dir) where
  wired := wired_init config bootstrap dir
  ordered := ⟨fun _ _ h => (nomatch h), fun _ h => (nomatch h), fun _ _ _ h => (nomatch h)⟩

/-- Each step that applies in order keeps the deployment converging. -/
theorem converging_step (s : Deployment) (e : Event) (inv : Converging site s)
    (order : AppliesInOrder s e) : Converging site (step site s e) where
  wired := wired_step s e inv.wired
  ordered := by
    rw [view_step s e inv.wired]
    cases labelled : label site s e with
    | none => exact inv.ordered
    | some d =>
      exact Freshness.ordered_step s.view d inv.ordered (inOrder_of_appliesInOrder order labelled)

/-- The agent does not go back. -/
theorem appliedAt_step (s : Deployment) (e : Event) (inv : Converging site s) {n : Nat}
    (applied : s.appliedAt = some n) : ∃ m, (step site s e).appliedAt = some m ∧ n ≤ m := by
  have cached : s.view.cached = some ⟨n, s.agent.sharedConfig⟩ := by
    rw [view, applied]
    rfl
  have after : ∃ y, (step site s e).view.cached = some y ∧ n ≤ y.stamp := by
    rw [view_step s e inv.wired]
    cases label site s e with
    | none => exact ⟨_, cached, Nat.le_refl n⟩
    | some d => exact Freshness.cached_step s.view d inv.ordered cached
  obtain ⟨y, found, later⟩ := after
  obtain ⟨m, applied', rfl⟩ := Option.map_eq_some_iff.mp found
  exact ⟨m, applied', later⟩

/-! ## A refresh that completes -/

/-- The step starts a refresh of the task. -/
def Begins (site : Site) (s : Deployment) (e : Event) (task : Task) : Prop :=
  s.agent.refresh task = .idle ∧
    ∃ configSessionId, (step site s e).agent.refresh task = .requested configSessionId

/-- The step fails the task's fetch, on its way or at the server. -/
def Fails (site : Site) (s : Deployment) (e : Event) (task : Task) : Prop :=
  e = .fail task ∨ ∃ status, (step site s e).flights task = some (.answered (.status status))

/-- The task's fetch is not answered yet. -/
def Waiting (s : Deployment) (task : Task) : Prop :=
  ∃ flight, s.flights task = some flight ∧ ∀ answer, flight ≠ .answered answer

/-- The task's fetch is still to be answered, or the configuration of its answer is on its way or
applied. -/
def Progress (s : Deployment) (task : Task) : Prop :=
  Waiting s task ∨ Freshness.Fresh task s.view

/-- A launch puts a request of the task under way. -/
theorem waiting_of_launch {s : Deployment} {task launched : Task} {e : Agent.Event}
    (starts : Starts launched e) (idle : s.agent.refresh task = .idle) {configSessionId : String}
    (requested : (s.launch site launched e).agent.refresh task = .requested configSessionId) :
    Waiting (s.launch site launched e) task := by
  rcases launch_cases site starts with same | ⟨id, -, after, launch⟩
  · rw [same, idle] at requested
    cases requested
  · rw [launch] at requested ⊢
    have own : task = launched := by
      by_contra other
      have kept : (s.agent.step e).refresh task = s.agent.refresh task := by
        rw [after, Function.update_of_ne other]
      have requested' : (s.agent.step e).refresh task = .requested configSessionId := requested
      rw [kept, idle] at requested'
      cases requested'
    subst own
    refine ⟨.sent (site.fetchHeaders id), ?_, by rintro _ ⟨⟩⟩
    rw [setFlight_flights, if_pos rfl]

/-- A launch leaves the request of a task under way. -/
theorem waiting_launch {s : Deployment} (wired : Wired site s) {task launched : Task}
    {e : Agent.Event} (starts : Starts launched e) (waiting : Waiting s task) :
    Waiting (s.launch site launched e) task := by
  rcases launch_cases site starts with same | ⟨id, idle, -, launch⟩
  · rw [same]
    exact waiting
  · obtain ⟨flight, found, unanswered⟩ := waiting
    obtain ⟨configSessionId, requested⟩ := wired.waiting task flight found
    have other : task ≠ launched := by
      rintro rfl
      rw [idle] at requested
      cases requested
    rw [launch]
    exact ⟨flight, (setFlight_other _ launched _ task other).trans found, unanswered⟩

/-- A task that is idle stays so, but for a launch. -/
theorem idle_or_launch (site : Site) {s : Deployment} (e : Event) {task : Task}
    (idle : s.agent.refresh task = .idle) :
    (step site s e).agent.refresh task = .idle ∨ ∃ (t : Deployment) (launched : Task)
      (act : Agent.Event), Starts launched act ∧ t.agent = s.agent ∧
        step site s e = t.launch site launched act := by
  have still {act : Agent.Event} (noPoll : act ≠ .poll)
      (noMessage : ∀ message, act ≠ .message message) :
      (s.agent.step act).refresh task = .idle := Agent.idle_step idle noPoll noMessage
  cases e with
  | server e => exact .inl idle
  | connect connectionId =>
    rw [step]
    split
    · split <;> exact .inl idle
    · exact .inl idle
  | acknowledge =>
    rw [step]
    split
    · exact .inr ⟨_, _, _, .message _, by rfl, rfl⟩
    · exact .inl idle
  | notify =>
    rw [step]
    split
    · split
      · exact .inr ⟨_, _, _, .message _, by rfl, rfl⟩
      · exact .inl idle
    · exact .inl idle
  | disconnect =>
    rw [step]
    split
    · exact .inl (still (by rintro ⟨⟩) (by rintro _ ⟨⟩))
    · exact .inl idle
  | poll => exact .inr ⟨s, _, _, .poll, rfl, rfl⟩
  | lookup task' =>
    rw [step]
    split
    · split <;> exact .inl idle
    · exact .inl idle
  | read task' =>
    rw [step]
    split <;> exact .inl idle
  | receive task' =>
    rw [step]
    split
    · exact .inl (still (by rintro ⟨⟩) (by rintro _ ⟨⟩))
    · exact .inl idle
  | fail task' =>
    rw [step]
    split
    · exact .inl (still (by rintro ⟨⟩) (by rintro _ ⟨⟩))
    · exact .inl idle
  | validate task' => exact .inl (still (by rintro ⟨⟩) (by rintro _ ⟨⟩))
  | save task' fault => exact .inl (still (by rintro ⟨⟩) (by rintro _ ⟨⟩))
  | apply task' =>
    rw [step]
    split
    · exact .inl (still (by rintro ⟨⟩) (by rintro _ ⟨⟩))
    · exact .inl idle

/-- A refresh begins with a request. -/
theorem waiting_of_begins {s : Deployment} {e : Event} {task : Task}
    (begins : Begins site s e task) : Waiting (step site s e) task := by
  obtain ⟨idle, configSessionId, requested⟩ := begins
  rcases idle_or_launch site e idle with still | ⟨t, launched, act, starts, same, launch⟩
  · rw [requested] at still
    cases still
  · rw [launch] at requested ⊢
    exact waiting_of_launch starts ((congrFun (congrArg Agent.refresh same) task).trans idle)
      requested

/-- The answer to a fetch is a configuration of the present source, unless it fails. -/
theorem progress_of_read {s : Deployment} {task : Task} (wired : Wired site s)
    {headers : HeaderMap} {agent : ConnectedAgent}
    (found : s.flights task = some (.lookedUp headers agent))
    (noFail : ¬ Fails site s (.read task) task) : Progress (step site s (.read task)) task := by
  obtain ⟨configSessionId, requested⟩ := wired.waiting task _ found
  have flight : (step site s (.read task)).flights task =
      some (.answered (agentConfigAnswer site.env s.server.config.config headers agent)) := by
    rw [step, found]
    exact (setFlight_flights ..).trans (if_pos rfl)
  obtain ⟨runtime, answer⟩ | ⟨status, answer⟩ :=
    Server.agentConfigAnswer_cases site.env s.server.config.config headers agent
  · have resolved : resolve site s.view.source = some runtime :=
      resolve_of_answer (wired.own task _ found) answer
    have free : s.view.held task = none := by
      show s.held task = none
      rw [held, found, requested]
      rfl
    have taken : label site s (.read task) = some (.take task) := by
      rw [label, found]
      simp only [answer]
    refine .inr ?_
    rw [view_step s (.read task) wired, taken, Option.elim_some, refreshes,
      Freshness.step_take free resolved]
    exact .inl ⟨_, Function.update_self .., rfl⟩
  · rw [answer] at flight
    exact absurd (.inr ⟨status, flight⟩) noFail

/-- The steps of a fetch of a task. -/
inductive Fetches (task : Task) : Event → Prop
  | lookup : Fetches task (.lookup task)
  | read : Fetches task (.read task)
  | receive : Fetches task (.receive task)
  | fail : Fetches task (.fail task)

/-- The fetch of one task is nothing to the other's. -/
theorem Fetches.others {task : Task} {e : Event} (fetches : Fetches task e) (s : Deployment)
    (other : Task) (differs : other ≠ task) :
    (step site s e).flights other = s.flights other := by
  cases fetches with
  | lookup =>
    rw [step]
    split
    · split <;> exact setFlight_other s task _ other differs
    · rfl
  | read =>
    rw [step]
    split
    · exact setFlight_other _ task _ other differs
    · rfl
  | receive =>
    rw [step]
    split
    · exact setFlight_other _ task none other differs
    · rfl
  | fail =>
    rw [step]
    split
    · exact setFlight_other _ task none other differs
    · rfl

/-- A fetch that is not answered waits, until it fails or is answered with a configuration. -/
theorem progress_of_waiting {s : Deployment} {e : Event} {task : Task} (wired : Wired site s)
    (waiting : Waiting s task) (noFail : ¬ Fails site s e task) :
    Progress (step site s e) task := by
  obtain ⟨flight, found, unanswered⟩ := waiting
  have other {changed : Task} (differs : changed ≠ task) {e : Event} (fetches : Fetches changed e) :
      Progress (step site s e) task :=
    .inl ⟨flight, (fetches.others s task (Ne.symm differs)).trans found, unanswered⟩
  cases e with
  | server e => exact .inl ⟨flight, found, unanswered⟩
  | connect connectionId =>
    rw [step]
    split
    · split <;> exact .inl ⟨flight, found, unanswered⟩
    · exact .inl ⟨flight, found, unanswered⟩
  | acknowledge =>
    rw [step]
    split
    · exact .inl (waiting_launch (wired.setLink _) (.message _) ⟨flight, found, unanswered⟩)
    · exact .inl ⟨flight, found, unanswered⟩
  | notify =>
    rw [step]
    split
    · split
      · exact .inl (waiting_launch (wired.setLink _) (.message _) ⟨flight, found, unanswered⟩)
      · exact .inl ⟨flight, found, unanswered⟩
    · exact .inl ⟨flight, found, unanswered⟩
  | disconnect =>
    rw [step]
    split <;> exact .inl ⟨flight, found, unanswered⟩
  | poll => exact .inl (waiting_launch wired .poll ⟨flight, found, unanswered⟩)
  | lookup looking =>
    by_cases same : looking = task
    · subst same
      cases flight with
      | answered answer => exact absurd rfl (unanswered answer)
      | lookedUp headers agent =>
        rw [step, found]
        exact .inl ⟨_, found, unanswered⟩
      | sent headers =>
        cases lookup : agentConfigLookup site.env s.server.agents headers with
        | ok agent =>
          rw [step, found]
          simp only [lookup]
          exact .inl ⟨.lookedUp headers agent, by rw [setFlight_flights, if_pos rfl],
            by rintro _ ⟨⟩⟩
        | error status =>
          refine absurd (.inr ⟨status, ?_⟩) noFail
          rw [step, found]
          simp only [lookup]
          rw [setFlight_flights, if_pos rfl]
    · exact other same .lookup
  | read reading =>
    by_cases same : reading = task
    · subst same
      cases flight with
      | answered answer => exact absurd rfl (unanswered answer)
      | sent headers =>
        rw [step, found]
        exact .inl ⟨_, found, unanswered⟩
      | lookedUp headers agent => exact progress_of_read wired found noFail
    · exact other same .read
  | receive receiving =>
    by_cases same : receiving = task
    · subst same
      cases flight with
      | answered answer => exact absurd rfl (unanswered answer)
      | _ =>
        rw [step, found]
        exact .inl ⟨_, found, unanswered⟩
    · exact other same .receive
  | fail failing =>
    by_cases same : failing = task
    · subst same
      exact absurd (.inl rfl) noFail
    · exact other same .fail
  | validate task' => exact .inl ⟨flight, found, unanswered⟩
  | save task' fault => exact .inl ⟨flight, found, unanswered⟩
  | apply task' =>
    rw [step]
    split <;> exact .inl ⟨flight, found, unanswered⟩

/-- What is fresh stays so, unless a configuration is swapped in or the fetch fails. -/
theorem fresh_step {s : Deployment} {e : Event} {task : Task} (inv : Converging site s)
    (fresh : Freshness.Fresh task s.view) (noSwap : ∀ id, e ≠ .server (.reloadSwap id))
    (noFail : ¬ Fails site s e task) : Freshness.Fresh task (step site s e).view := by
  rw [view_step s e inv.wired]
  cases labelled : label site s e with
  | none => exact fresh
  | some d =>
    refine Freshness.fresh_step s.view d inv.ordered fresh ?_ ?_
    · rintro config rfl
      cases seen_of_label labelled with
      | swapped => exact noSwap _ rfl
    · rintro x held now rfl
      cases seen_of_label labelled with
      | failed => exact noFail (.inl rfl)
      | @invalid _ config found invalid =>
        -- What is resolved for the agent now is valid.
        have received : s.held task = some ⟨s.resolvedAt task, config⟩ := by
          rw [Deployment.held, found]
          rfl
        have current := (inv.ordered.held task x held).current now
        rw [show s.view.held task = s.held task from rfl, received] at held
        cases held
        exact invalid (valid_of_resolve current)

/-- **A refresh that is not overtaken completes**: a step keeps its progress. -/
theorem progress_step (s : Deployment) (e : Event) {task : Task} (inv : Converging site s)
    (progress : Progress s task) (noSwap : ∀ id, e ≠ .server (.reloadSwap id))
    (noFail : ¬ Fails site s e task) : Progress (step site s e) task := by
  rcases progress with waiting | fresh
  · exact progress_of_waiting inv.wired waiting noFail
  · exact .inr (fresh_step inv fresh noSwap noFail)

/-- Once the task is idle, the refresh that made progress has left the agent with what is resolved
for it. -/
theorem current_of_progress {s : Deployment} {task : Task} (inv : Converging site s)
    (progress : Progress s task) (idle : s.agent.refresh task = .idle) :
    resolve site s.server.config.config = some s.agent.sharedConfig := by
  rcases progress with ⟨flight, found, -⟩ | fresh
  · obtain ⟨configSessionId, requested⟩ := inv.wired.waiting task flight found
    rw [idle] at requested
    cases requested
  · have done : s.view.held task = none := by
      show s.held task = none
      rw [held, idle]
      rfl
    obtain ⟨x, cached, resolved⟩ := Freshness.current_of_fresh inv.ordered fresh done
    obtain ⟨stamp, -, rfl⟩ := Option.map_eq_some_iff.mp cached
    exact resolved

/-- **Config convergence**, where no refresh overtakes: in every run, whatever fails, in which no
configuration is applied while the other task is on its way with one resolved after fewer swaps, the
agent never replaces the configuration it applied by one resolved before an earlier swap. And where
a task's refresh begins after the last swap and its fetch does not fail, the shared configuration is
what the configuration in force resolves to for the agent as soon as the task is idle. -/
theorem config_convergence (config : LoadedControlConfig) (bootstrap : AgentBootstrapConfig)
    (dir : StateDir) {es : List Event}
    (order : StepsMeet (step site) AppliesInOrder (init config bootstrap dir) es) :
    let after := run (step site) (init config bootstrap dir)
    (∀ pre e post n, es = pre ++ e :: post → (after pre).appliedAt = some n →
      ∃ m, (after (pre ++ [e])).appliedAt = some m ∧ n ≤ m) ∧
    ∀ pre e post task, es = pre ++ e :: post → Begins site (after pre) e task →
      (∀ id, .server (.reloadSwap id) ∉ post) →
      (∀ mid e' rest, post = mid ++ e' :: rest →
        ¬ Fails site (after (pre ++ e :: mid)) e' task) →
      (after es).agent.refresh task = .idle →
      resolve site (after es).server.config.config = some (after es).agent.sharedConfig := by
  have converging {pre post : List Event} (split : es = pre ++ post) :
      Converging site (run (step site) (init config bootstrap dir) pre) := by
    rw [split] at order
    exact run_invariant_of_steps converging_step (converging_init config bootstrap dir)
      order.left
  refine ⟨?_, ?_⟩
  · rintro pre e post n split applied
    rw [run_append, run_cons, run_nil]
    exact appliedAt_step _ e (converging split) applied
  · rintro pre e post task rfl begins noSwap noFail idle
    have started : Progress (run (step site) (init config bootstrap dir) (pre ++ [e])) task := by
      rw [run_append, run_cons, run_nil]
      exact .inl (waiting_of_begins begins)
    -- The refresh makes progress as long as the run goes on.
    have progress : ∀ rest, rest <+: post →
        Progress (run (step site) (init config bootstrap dir) (pre ++ e :: rest)) task := by
      intro rest
      induction rest using List.reverseRecOn with
      | nil => exact fun _ => started
      | append_singleton rest e' ih =>
        rintro ⟨later, rfl⟩
        have before := ih ⟨[e'] ++ later, by rw [List.append_assoc]⟩
        have inv : Converging site (run (step site) (init config bootstrap dir) (pre ++ e :: rest)) :=
          @converging _ ([e'] ++ later) (by simp)
        rw [← List.cons_append, ← List.append_assoc, run_append, run_cons, run_nil]
        refine progress_step _ e' inv before ?_ ?_
        · rintro id rfl
          exact noSwap id (by simp)
        · exact noFail rest e' later (by simp)
    exact current_of_progress (converging (List.append_nil _).symm)
      (progress post List.prefix_rfl) idle

/-! ## A refresh that is overtaken -/

/-- No fetch is lost, no save fails and the WebSocket stays open. -/
def Event.faultless : Event → Bool
  | .fail _ => false
  | .save _ (some _) => false
  | .disconnect => false
  | _ => true

def Succeeds (site : Site) (s : Deployment) (e : Event) : Prop :=
  e.faultless = true ∧ ∀ task, ¬ Fails site s e task

/-- No fetch has failed at the server. -/
def Answering (s : Deployment) : Prop :=
  ∀ task status, s.flights task ≠ some (.answered (.status status))

/-- The events lead from the one state to the other, and nothing fails on the way. -/
structure Leads (site : Site) (s : Deployment) (es : List Event) (t : Deployment) : Prop where
  ends : run (step site) s es = t
  succeeds : Answering s → StepsMeet (step site) (Succeeds site) s es ∧ Answering t

/-- One run leads on where another has led. -/
theorem Leads.append {s t u : Deployment} {es fs : List Event} (first : Leads site s es t)
    (second : Leads site t fs u) : Leads site s (es ++ fs) u where
  ends := by rw [run_append, first.ends, second.ends]
  succeeds := fun answering => by
    obtain ⟨start, middle⟩ := first.succeeds answering
    obtain ⟨rest, finish⟩ := second.succeeds middle
    exact ⟨start.append (by rw [first.ends]; exact rest), finish⟩

/-- So does a step. -/
theorem Leads.cons {s t u : Deployment} {e : Event} {es : List Event}
    (first : Leads site s [e] t) (second : Leads site t es u) : Leads site s (e :: es) u :=
  first.append second

/-- A step that changes one flight at most, and not to a failure. -/
theorem Leads.single {s t : Deployment} {e : Event} (task : Task) (flight : Option Flight)
    (ends : step site s e = t) (faultless : e.faultless = true)
    (flights : t.flights = Function.update s.flights task flight)
    (found : ∀ status, flight ≠ some (.answered (.status status))) : Leads site s [e] t where
  ends := ends
  succeeds := by
    intro answering
    have after : Answering t := by
      intro other status failed
      rw [flights] at failed
      by_cases same : other = task
      · subst same
        rw [Function.update_self] at failed
        exact found status failed
      · rw [Function.update_of_ne same] at failed
        exact answering other status failed
    refine ⟨stepsMeet_cons.mpr ⟨⟨faultless, ?_⟩, stepsMeet_nil _ _ _⟩, after⟩
    rintro other (rfl | ⟨status, failed⟩)
    · cases faultless
    · rw [ends] at failed
      exact after other status failed

/-- A step that changes no flight. -/
theorem Leads.still {s t : Deployment} {e : Event} (ends : step site s e = t)
    (faultless : e.faultless = true) (flights : t.flights = s.flights) : Leads site s [e] t := by
  by_cases answering : Answering s
  · refine .single .poll (s.flights .poll) ends faultless ?_ (answering .poll)
    rw [flights, Function.update_eq_self]
  · exact ⟨ends, fun h => absurd h answering⟩

section Refreshing

variable {s : Deployment} {task : Task} {headers : HeaderMap} {agent : ConnectedAgent}
  {runtime : AgentRuntimeConfig}

/-- The server answers a fetch. -/
def fetchRun (task : Task) : List Event := [.lookup task, .read task]

/-- The agent receives the response, and applies what it brings. -/
def finishRun (task : Task) : List Event :=
  [.receive task, .validate task, .save task none, .apply task]

/-- The state after the server's answer. -/
def answered (s : Deployment) (task : Task) (runtime : AgentRuntimeConfig) : Deployment :=
  { s with resolvedAt := Function.update s.resolvedAt task s.swaps }.setFlight task
    (some (.answered (.config runtime)))

/-- A fetch whose request was sent is answered. -/
theorem leads_fetch (sent : s.flights task = some (.sent headers))
    (looked : agentConfigLookup site.env s.server.agents headers = .ok agent)
    (answer : agentConfigAnswer site.env s.server.config.config headers agent = .config runtime) :
    Leads site s (fetchRun task) (s.answered task runtime) := by
  have first : Leads site s [.lookup task] (s.setFlight task (some (.lookedUp headers agent))) := by
    refine .single task _ ?_ rfl rfl (by rintro _ ⟨⟩)
    simp only [step, sent, looked]
  refine first.cons (.single task (some (.answered (.config runtime))) ?_ rfl ?_
    (by rintro _ ⟨⟩))
  · simp only [step, setFlight, Function.update_self, answer, Function.update_idem, answered]
  · simp only [setFlight, Function.update_idem, answered]

/-- The state before the apply of the response. -/
def delivered (s : Deployment) (task : Task) (config : ValidConfig) : Deployment :=
  { s with
    agent := { s.agent with
      stateDir := (saveLastKnownConfig none s.agent.stateDir config).1 }.setRefresh task
        (.saved config) }.setFlight task none

/-- The state after it. -/
def applied (s : Deployment) (task : Task) (runtime : AgentRuntimeConfig) : Deployment :=
  { s with
    agent :=
      { s.agent with
        sharedConfig := runtime
        stateDir := (saveLastKnownConfig none s.agent.stateDir runtime).1
        refresh := Function.update s.agent.refresh task .idle }
    flights := Function.update s.flights task none
    appliedAt := some (s.resolvedAt task) }

/-- The agent receives, validates and saves the answer. -/
theorem leads_deliver (task : Task) {configSessionId : String} (config : ValidConfig)
    (requested : s.agent.refresh task = .requested configSessionId)
    (flight : s.flights task = some (.answered (.config config))) :
    Leads site s [.receive task, .validate task, .save task none] (s.delivered task config) := by
  have received : Leads site s [.receive task]
      ({ s with agent := s.agent.setRefresh task (.fetched config) }.setFlight task none) := by
    refine .single task _ ?_ rfl rfl (by rintro _ ⟨⟩)
    simp only [step, flight, receivedConfig_config, Agent.step, requested]
  refine received.cons (.cons (.still rfl rfl rfl) (.still ?_ rfl rfl))
  simp [step, setFlight, Agent.step, Agent.setRefresh, config.2, delivered]

/-- It then applies it, and is idle again. -/
theorem leads_finish (task : Task) {configSessionId : String}
    (requested : s.agent.refresh task = .requested configSessionId)
    (flight : s.flights task = some (.answered (.config runtime))) (valid : runtime.Valid) :
    Leads site s (finishRun task) (s.applied task runtime) := by
  have last : Leads site (s.delivered task ⟨runtime, valid⟩) [.apply task]
      (s.applied task runtime) := by
    refine .still ?_ rfl rfl
    simp [step, setFlight, Agent.step, Agent.setRefresh, delivered, applied]
  exact (leads_deliver task ⟨runtime, valid⟩ requested flight).append last

/-- The state after a task's request. -/
def requesting (site : Site) (s : Deployment) (task : Task) (configSessionId : String) :
    Deployment :=
  { s with agent := s.agent.setRefresh task (.requested configSessionId) }.setFlight task
    (some (.sent (site.fetchHeaders configSessionId)))

/-- An idle agent with a session asks for its configuration. -/
theorem leads_poll {configSessionId : String} (idle : s.agent.refresh .poll = .idle)
    (session : s.agent.configSessionId = some configSessionId) :
    Leads site s [.poll] (requesting site s .poll configSessionId) := by
  refine .single .poll _ ?_ rfl rfl (by rintro _ ⟨⟩)
  simp [step, launch, Agent.step, Agent.refreshWithCurrentSession, idle, session,
    Agent.setRefresh_refresh, requesting]

/-- So it does when it reads a notification. -/
theorem leads_notify (site : Site) {configSessionId connectionId version : String}
    {acks : List ServerControlMessage} {seen : Nat} (idle : s.agent.refresh .websocket = .idle)
    (session : s.agent.configSessionId = some configSessionId)
    (link : s.link = some ⟨connectionId, acks, seen⟩)
    (sent : s.server.notifications[seen]? = some (.configChanged version)) :
    Leads site s [.notify] (requesting site { s with link := some ⟨connectionId, acks, seen + 1⟩ }
      .websocket configSessionId) := by
  refine .single .websocket _ ?_ rfl rfl (by rintro _ ⟨⟩)
  simp [step, launch, Agent.step, Agent.handleServerMessage, Agent.refreshWithCurrentSession, idle,
    session, link, sent, Agent.setRefresh_refresh, requesting]

/-- A reload, alone. -/
def reloadRun (headers : HeaderMap) (file : Option String) : List Event :=
  [.server (.reload 0 headers file), .server (.reloadSwap 0), .server (.reloadCount 0),
    .server (.reloadNotify 0)]

/-- The state after it. -/
def reloaded (s : Deployment) (config : LoadedControlConfig) : Deployment :=
  { s with
    server :=
      { s.server with
        config := config
        notifications := s.server.notifications ++ [.configChanged config.sourceVersion] }
    swaps := s.swaps + 1 }

/-- A reload of a file that loads puts it in force and tells the agents. -/
theorem leads_reload {adminHeaders : HeaderMap} {file : Option String}
    {config : LoadedControlConfig} (free : s.server.reloads = fun _ => none)
    (auth : authorized site.env.sha256 adminHeaders site.env.adminToken = true)
    (loaded : loadControlConfig site.env file = .ok config) :
    Leads site s (reloadRun adminHeaders file) (s.reloaded config) := by
  refine .cons (.still rfl rfl rfl) (.cons (.still rfl rfl rfl) (.cons (.still rfl rfl rfl)
    (.still ?_ rfl rfl)))
  simp [step, Server.step, Server.setReload, free, auth, loaded, swappedIn, acknowledgement,
    reloaded]

end Refreshing

/-- A hello is acknowledged, and the agent's first fetch sent. -/
def greeted (site : Site) (server : Server) (bootstrap : AgentBootstrapConfig) (dir : StateDir) :
    Deployment :=
  { init ⟨"", {}⟩ bootstrap dir with
    server := server
    agent :=
      { Agent.init bootstrap dir with
        configSessionId := some "connection-1"
        refresh := Function.update (fun _ => .idle) .websocket (.requested "connection-1") }
    flights := Function.update (fun _ => none) .websocket
      (some (.sent (site.fetchHeaders "connection-1")))
    link := some ⟨"connection-1", [], 0⟩ }

def hello : AgentHello := ⟨"agent-1", "host-1", "0.1.0", none⟩

def helloRun : List Event :=
  [.connect "connection-1", .server (.hello "connection-1" hello),
    .server (.register "connection-1" 1), .acknowledge]

/-- What the server makes of it. -/
def greetingRun (site : Site) : List ServerEvent :=
  [.agentControl "connection-1" site.websocketHeaders, .hello "connection-1" hello]

/-- The agent connects, sends its hello and reads its session. -/
theorem leads_hello (config : LoadedControlConfig) (bootstrap : AgentBootstrapConfig)
    (dir : StateDir) (auth : authorized site.env.sha256 site.websocketHeaders site.env.agentToken)
    (acknowledged : Server.answer site.env
        (run (Server.step site.env) (Server.init config) (greetingRun site))
        (.register "connection-1" 1) = some (.message (.helloAck 1 "connection-1"))) :
    Leads site (init config bootstrap dir) helloRun (greeted site
      (run (Server.step site.env) (Server.init config)
        (greetingRun site ++ [.register "connection-1" 1])) bootstrap dir) := by
  have connected : Leads site (init config bootstrap dir) [.connect "connection-1"]
      { init config bootstrap dir with
        server := Server.step site.env (Server.init config)
          (.agentControl "connection-1" site.websocketHeaders)
        link := some ⟨"connection-1", [], 0⟩ } := by
    refine .still ?_ rfl rfl
    simp only [step, init, Server.init, auth, if_true]
    rfl
  refine connected.cons (.cons (.still rfl rfl rfl) (.cons (.still rfl rfl rfl)
    (.single .websocket (some (.sent (site.fetchHeaders "connection-1"))) ?_ rfl ?_ ?_)))
  · rw [greetingRun, run_cons, run_cons, run_nil] at acknowledged
    rw [greetingRun]
    simp [step, init, Agent.init, acknowledged, acknowledgement, swappedIn, launch, Agent.step,
      Agent.handleServerMessage, Agent.setRefresh, setFlight, greeted]
  · rfl
  · rintro _ ⟨⟩

/-- The agent's hello and its first refresh. -/
def refreshRun : List Event := helloRun ++ (fetchRun .websocket ++ finishRun .websocket)

def refreshed (site : Site) (server : Server) (bootstrap : AgentBootstrapConfig) (dir : StateDir)
    (first : AgentRuntimeConfig) : Deployment :=
  ((greeted site server bootstrap dir).answered .websocket first).applied .websocket first

/-- The state before the notification, and at the end. -/
def notified (site : Site) (s : Deployment) (first : AgentRuntimeConfig)
    (config : LoadedControlConfig) : Deployment :=
  ((requesting site s .poll "connection-1").answered .poll first).reloaded config

def overtaken (site : Site) (s : Deployment) (first second : AgentRuntimeConfig)
    (config : LoadedControlConfig) : Deployment :=
  ((requesting site { notified site s first config with link := some ⟨"connection-1", [], 1⟩ }
    .websocket "connection-1").answered .websocket second).applied .websocket second

section Overtaken

variable {config : LoadedControlConfig} {bootstrap : AgentBootstrapConfig} {dir : StateDir}
  {server : Server} {agent : ConnectedAgent} {first second : AgentRuntimeConfig}
  (looked : agentConfigLookup site.env server.agents (site.fetchHeaders "connection-1") = .ok agent)
  (answer : agentConfigAnswer site.env server.config.config (site.fetchHeaders "connection-1")
    agent = .config first)

include looked answer

/-- Once acknowledged, it fetches its first configuration. -/
theorem leads_refresh (valid : first.Valid) :
    Leads site (greeted site server bootstrap dir) (fetchRun .websocket ++ finishRun .websocket)
      (refreshed site server bootstrap dir first) := by
  exact (leads_fetch (by rfl) looked answer).append (leads_finish .websocket (by rfl) (by rfl) valid)

/-- A poll is answered, and then the file is reloaded. -/
theorem leads_notified (headers : HeaderMap) {file : Option String}
    (reloads : server.reloads = fun _ => none)
    (auth : authorized site.env.sha256 headers site.env.adminToken = true)
    (loaded : loadControlConfig site.env file = .ok config) :
    Leads site (refreshed site server bootstrap dir first)
      ([.poll] ++ (fetchRun .poll ++ reloadRun headers file))
      (notified site (refreshed site server bootstrap dir first) first config) := by
  refine (leads_poll (by rfl) (by rfl)).append (.append (leads_fetch (by rfl) looked answer)
    (leads_reload reloads auth loaded))

omit looked answer in
/-- The notification is of the new file. -/
theorem notified_sent (notifications : server.notifications = []) :
    (notified site (refreshed site server bootstrap dir first) first
      config).server.notifications[0]? = some (.configChanged config.sourceVersion) := by
  show (server.notifications ++ [_])[0]? = _
  rw [notifications]
  rfl

omit looked answer in
/-- The agent reads the notification, and fetches and applies the new configuration, while the
answer to the poll is still on its way. -/
theorem leads_overtaken (notifications : server.notifications = [])
    (looked : agentConfigLookup site.env server.agents (site.fetchHeaders "connection-1") =
      .ok agent)
    (answer : agentConfigAnswer site.env config.config (site.fetchHeaders "connection-1") agent =
      .config second) (valid : second.Valid) :
    Leads site (notified site (refreshed site server bootstrap dir first) first config)
      ([.notify] ++ (fetchRun .websocket ++ finishRun .websocket))
      (overtaken site (refreshed site server bootstrap dir first) first second config) := by
  refine (leads_notify site (by rfl) (by rfl) (by rfl) (notified_sent notifications)).append (.append
    (leads_fetch (by rfl) looked answer)
    (leads_finish .websocket (by rfl) (by rfl) valid))

end Overtaken

/-! ### One agent -/

def changedToml : String :=
  "[defaults.agent]\nheartbeat_interval_seconds = 30\n" ++
  "[agents.agent-1]\nhostname = \"host-1\"\nconfig_token = \"config-secret\"\n"

/-- What it decodes to. -/
def changedFile : ControlConfigFile where
  defaults := { agent := { heartbeatIntervalSeconds := some 30 } }
  agents := Server.oneAgentConfig.config.agents

/-- The server of one agent, with a config file, and the agent. -/
def oneAgentSite : Site where
  env :=
    { Server.oneAgentEnv with
      fromToml := fun contents => if contents = changedToml then some changedFile else none
      configPath := some "control.toml" }
  control := ⟨"agent-secret", some "config-secret"⟩
  identity := ⟨"agent-1"⟩

/-- The server once it has acknowledged the hello. -/
def oneAgentServer : Server :=
  run (Server.step oneAgentSite.env) (Server.init Server.oneAgentConfig)
    (greetingRun oneAgentSite ++ [.register "connection-1" 1])

/-- The agent's hello leaves the configuration and the notifications alone. -/
theorem oneAgentServer_frame :
    oneAgentServer.config = Server.oneAgentConfig ∧ oneAgentServer.notifications = [] ∧
      oneAgentServer.reloads = fun _ => none :=
  Server.agent_frame_run (by decide)

/-- The agent's fetch finds its entry. -/
theorem oneAgentServer_looked : agentConfigLookup oneAgentSite.env oneAgentServer.agents
    (oneAgentSite.fetchHeaders "connection-1") =
      .ok ⟨"agent-1", "host-1", "0.1.0", none, none, [], 1, 1, "connection-1"⟩ := by
  decide +kernel

/-- The agent of the example is greeted. -/
theorem oneAgent_leads_hello (bootstrap : AgentBootstrapConfig) (dir : StateDir) :
    Leads oneAgentSite (init Server.oneAgentConfig bootstrap dir) helloRun
      (greeted oneAgentSite oneAgentServer bootstrap dir) := by
  refine leads_hello Server.oneAgentConfig bootstrap dir (by decide +kernel) ?_
  have connection : (run (Server.step oneAgentSite.env) (Server.init Server.oneAgentConfig)
      (greetingRun oneAgentSite)).connections "connection-1" =
        some ⟨some "config-secret", none, false, .registering hello⟩ := by
    decide +kernel
  have free : (registerAgentConnection (run (Server.step oneAgentSite.env)
      (Server.init Server.oneAgentConfig) (greetingRun oneAgentSite)).agents "connection-1" none
        hello 1).isSome = true := by
    decide +kernel
  obtain ⟨agents, registered⟩ := Option.isSome_iff_exists.mp free
  rw [Server.answer, connection]
  simp only [registered]
  rfl

/-- It is answered with a configuration, if it presents its token and the sections are valid. -/
theorem oneAgent_answer (file : ControlConfigFile)
    (credential : agentHasConfigCredential oneAgentSite.env.sha256 file "agent-1" "host-1"
      (headerValue (oneAgentSite.fetchHeaders "connection-1") agentConfigTokenHeader) = true)
    (sections : (file.resolve "host-1").validateSections = .ok ()) :
    ∃ runtime, file.runtimeConfigFor "host-1" = .ok runtime ∧
      agentConfigAnswer oneAgentSite.env file (oneAgentSite.fetchHeaders "connection-1")
        ⟨"agent-1", "host-1", "0.1.0", none, none, [], 1, 1, "connection-1"⟩ = .config runtime := by
  obtain ⟨runtime, resolved⟩ := (file.runtimeConfigFor_ok_iff "host-1").mpr sections
  exact ⟨runtime, resolved, Server.agentConfigAnswer_of_resolved credential resolved⟩

/-- So it is in the first state. -/
theorem oneAgent_answering (bootstrap : AgentBootstrapConfig) (dir : StateDir) :
    Answering (init Server.oneAgentConfig bootstrap dir) := by
  rintro task status ⟨⟩

/-- A run that applies nothing applies in order. -/
theorem inOrder_of_noApply {s : Deployment} {es : List Event} (none : ∀ task, .apply task ∉ es) :
    StepsMeet (step site) AppliesInOrder s es := by
  rintro pre e post rfl task config rfl
  exact absurd (List.mem_append_right _ List.mem_cons_self) (none task)

/-- The agent's first refresh, alone. -/
theorem config_convergence_oneAgent :
    ∃ (bootstrap : AgentBootstrapConfig) (dir : StateDir) (pre post : List Event),
      let after := run (step oneAgentSite) (init Server.oneAgentConfig bootstrap dir)
      Begins oneAgentSite (after pre) .acknowledge .websocket ∧
      resolve oneAgentSite (after (pre ++ .acknowledge :: post)).server.config.config =
        some (after (pre ++ .acknowledge :: post)).agent.sharedConfig := by
  let bootstrap : AgentBootstrapConfig := .default
  let dir : StateDir := ⟨"/var/lib/talia", none⟩
  let pre : List Event :=
    [.connect "connection-1", .server (.hello "connection-1" hello),
      .server (.register "connection-1" 1)]
  let post : List Event := fetchRun .websocket ++ finishRun .websocket
  have whole : helloRun ++ (fetchRun .websocket ++ finishRun .websocket) =
      pre ++ .acknowledge :: post := rfl
  obtain ⟨config, notifications, reloads⟩ := oneAgentServer_frame
  obtain ⟨runtime, resolved, answer⟩ :=
    oneAgent_answer oneAgentServer.config.config (by rw [config]; decide +kernel)
      (by rw [config]; decide +kernel)
  have valid := ControlConfigFile.valid_of_runtimeConfigFor resolved
  have greets := oneAgent_leads_hello bootstrap dir
  have fetches : Leads oneAgentSite (greeted oneAgentSite oneAgentServer bootstrap dir)
      (fetchRun .websocket)
      ((greeted oneAgentSite oneAgentServer bootstrap dir).answered .websocket runtime) :=
    leads_fetch (by rfl) oneAgentServer_looked answer
  have delivers := fetches.append
    (leads_deliver .websocket ⟨runtime, valid⟩ (by rfl) (by rfl))
  have refreshes := greets.append (leads_refresh oneAgentServer_looked answer valid)
  have order : StepsMeet (step oneAgentSite) AppliesInOrder
      (init Server.oneAgentConfig bootstrap dir) (pre ++ .acknowledge :: post) := by
    have quiet : StepsMeet (step oneAgentSite) AppliesInOrder
        (init Server.oneAgentConfig bootstrap dir) (helloRun ++ (fetchRun .websocket ++
          [.receive .websocket, .validate .websocket, .save .websocket none])) :=
      inOrder_of_noApply (by simp [helloRun, fetchRun])
    refine quiet.append (stepsMeet_cons.mpr ⟨?_, stepsMeet_nil _ _ _⟩)
    rw [(greets.append delivers).ends]
    rintro task config ⟨⟩ found (_ | _) held
    · exact absurd rfl held
    · exact Nat.le_refl _
  have idle : (run (step oneAgentSite) (init Server.oneAgentConfig bootstrap dir) pre).agent =
      Agent.init bootstrap dir := by
    show (step oneAgentSite (init Server.oneAgentConfig bootstrap dir)
      (.connect "connection-1")).agent = _
    rw [step]
    split
    · split <;> rfl
    · rfl
  have begins : Begins oneAgentSite
      (run (step oneAgentSite) (init Server.oneAgentConfig bootstrap dir) pre) .acknowledge
        .websocket := by
    refine ⟨by rw [idle]; rfl, "connection-1", ?_⟩
    have ends := greets.ends
    rw [show helloRun = pre ++ [.acknowledge] from rfl, run_append, run_cons, run_nil] at ends
    rw [ends]
    rfl
  refine ⟨bootstrap, dir, pre, post, begins, ?_⟩
  refine (config_convergence Server.oneAgentConfig bootstrap dir order).2 pre .acknowledge post
    .websocket rfl begins (by simp [post, fetchRun, finishRun]) ?_ ?_
  · intro mid e rest split
    have succeeds := (refreshes.succeeds (oneAgent_answering bootstrap dir)).1
      (pre ++ .acknowledge :: mid) e rest (by rw [whole, split, List.append_assoc]; rfl)
    exact succeeds.2 .websocket
  · have ends := refreshes.ends
    rw [whole] at ends
    rw [ends]
    rfl

/-- **A refresh can be overtaken**: nothing fails and every response arrives, the notification of
the reload is handled and its refresh applied, and in the end, with nothing on its way any more, the
configuration applied is the one resolved before the reload. -/
theorem config_regresses :
    ∃ (site : Site) (config : LoadedControlConfig) (bootstrap : AgentBootstrapConfig)
      (dir : StateDir) (pre mid late : List Event),
      let after := run (step site) (init config bootstrap dir)
      let es := pre ++ .notify :: (mid ++ late)
      StepsMeet (step site) (Succeeds site) (init config bootstrap dir) es ∧
      Begins site (after pre) .notify .websocket ∧
      (∀ id, .server (.reloadSwap id) ∉ mid ++ late) ∧
      (after (pre ++ .notify :: mid)).appliedAt = some 1 ∧ (after es).appliedAt = some 0 ∧
      (∀ task, (after es).agent.refresh task = .idle ∧ (after es).flights task = none) ∧
      (∃ connectionId, (after es).link =
        some ⟨connectionId, [], (after es).server.notifications.length⟩) ∧
      resolve site (after es).server.config.config ≠ some (after es).agent.sharedConfig := by
  let bootstrap : AgentBootstrapConfig := .default
  let dir : StateDir := ⟨"/var/lib/talia", none⟩
  let changed : LoadedControlConfig := ⟨configSourceVersion changedToml, changedFile⟩
  obtain ⟨config, notifications, reloads⟩ := oneAgentServer_frame
  obtain ⟨first, resolved, answer⟩ :=
    oneAgent_answer oneAgentServer.config.config (by rw [config]; decide +kernel)
      (by rw [config]; decide +kernel)
  obtain ⟨second, resolved', answer'⟩ :=
    oneAgent_answer changedFile (by decide +kernel) (by decide +kernel)
  have valid := ControlConfigFile.valid_of_runtimeConfigFor resolved
  have valid' := ControlConfigFile.valid_of_runtimeConfigFor resolved'
  have validated : validateRuntimeConfigs changedFile = .ok () :=
    validateRuntimeConfigs_ok_iff.mpr ⟨by decide +kernel, by decide +kernel⟩
  have loaded : loadControlConfig oneAgentSite.env (some changedToml) = .ok changed := by
    simp only [loadControlConfig, oneAgentSite, if_true, validated]
    rfl
  have refreshes := (oneAgent_leads_hello bootstrap dir).append
    (leads_refresh oneAgentServer_looked answer valid)
  have reloads := refreshes.append
    (leads_notified oneAgentServer_looked answer Server.adminHeaders reloads (by decide +kernel)
      loaded)
  have overtakes := reloads.append
    (leads_overtaken notifications oneAgentServer_looked answer' valid')
  have whole := overtakes.append
    (leads_finish .poll (by rfl) (by rfl) valid)
  let pre : List Event := refreshRun ++ ([.poll] ++ (fetchRun .poll ++
    reloadRun Server.adminHeaders (some changedToml)))
  let mid : List Event := fetchRun .websocket ++ finishRun .websocket
  have upTo : run (step oneAgentSite) (init Server.oneAgentConfig bootstrap dir) pre = _ :=
    reloads.ends
  have between : run (step oneAgentSite) (init Server.oneAgentConfig bootstrap dir)
      (pre ++ .notify :: mid) = _ := overtakes.ends
  have final : run (step oneAgentSite) (init Server.oneAgentConfig bootstrap dir)
      (pre ++ .notify :: (mid ++ finishRun .poll)) = _ := whole.ends
  refine ⟨oneAgentSite, Server.oneAgentConfig, bootstrap, dir, pre, mid, finishRun .poll, ?_, ?_,
    ?_, ?_, ?_, ?_, ?_, ?_⟩
  · have succeeds := (whole.succeeds (oneAgent_answering bootstrap dir)).1
    exact succeeds
  · refine ⟨by rw [upTo]; rfl, "connection-1", ?_⟩
    have handled := (leads_notify oneAgentSite (s := notified oneAgentSite
      (refreshed oneAgentSite oneAgentServer bootstrap dir first) first changed) (by rfl) (by rfl)
        (by rfl) (notified_sent notifications)).ends
    rw [run_cons, run_nil] at handled
    rw [upTo, handled]
    rfl
  · simp [mid, fetchRun, finishRun]
  · rw [between]
    rfl
  · rw [final]
    rfl
  · rw [final]
    rintro (_ | _) <;> exact ⟨rfl, rfl⟩
  · rw [final]
    refine ⟨"connection-1", ?_⟩
    show some (Link.mk _ _ 1) = some (Link.mk _ _ (oneAgentServer.notifications ++ [_]).length)
    rw [notifications]
    rfl
  · rw [final]
    show resolve oneAgentSite changedFile ≠ some first
    have current : resolve oneAgentSite changedFile = some second :=
      resolve_of_answer (by decide +kernel) answer'
    rw [current, ControlConfigFile.eq_of_runtimeConfigFor resolved,
      ControlConfigFile.eq_of_runtimeConfigFor resolved', config]
    intro same
    have intervals := congrArg (·.agent.heartbeatIntervalSeconds) (Option.some.inj same)
    exact absurd intervals (by decide +kernel)

end Talia.Deployment
