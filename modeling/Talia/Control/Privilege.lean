import Talia.Control.Disclosure

/-!
# Privilege separation

The server starts with two tokens, one for agents and one for administrators, trimmed, neither
blank, distinct (`validateControlTokens`). Every request to change the configuration in force, to
notify the agents or to list them carries the admin token in its authorization header, bytes and
all. What agents do, whatever they send, leaves the configuration, the notifications and the reloads
as they were (`agent_frame`). So in every run the configuration is the work of requests that carried
the admin token (`privilege_separation`), and no header at all passes for both roles.
-/

namespace Talia

inductive TokenError where
  | emptyAgentToken
  | emptyAdminToken
  | sameTokens
  deriving DecidableEq

def TokenError.message : TokenError → String
  | .emptyAgentToken => "TALIA_CONTROL_TOKEN must not be empty"
  | .emptyAdminToken => "TALIA_ADMIN_TOKEN must not be empty"
  | .sameTokens => "TALIA_ADMIN_TOKEN must be distinct from TALIA_CONTROL_TOKEN"

/-- The tokens the server keeps, of those of its environment. -/
def validateControlTokens (agentToken adminToken : String) : Except TokenError (String × String) :=
  let agentToken := Text.trim agentToken
  let adminToken := Text.trim adminToken
  if agentToken.isEmpty then .error .emptyAgentToken
  else if adminToken.isEmpty then .error .emptyAdminToken
  else if agentToken = adminToken then .error .sameTokens
  else .ok (agentToken, adminToken)

theorem validateControlTokens_ok_iff {rawAgent rawAdmin agentToken adminToken : String} :
    validateControlTokens rawAgent rawAdmin = .ok (agentToken, adminToken) ↔
      agentToken = Text.trim rawAgent ∧ adminToken = Text.trim rawAdmin ∧
        Text.isBlank rawAgent = false ∧ Text.isBlank rawAdmin = false ∧
        agentToken ≠ adminToken := by
  unfold validateControlTokens Text.isBlank
  constructor
  · intro ok
    dsimp only at ok
    split at ok
    next => cases ok
    next agentVisible =>
      split at ok
      next => cases ok
      next adminVisible =>
        split at ok
        next => cases ok
        next distinct =>
          cases ok
          exact ⟨rfl, rfl, Bool.eq_false_iff.mpr agentVisible, Bool.eq_false_iff.mpr adminVisible,
            distinct⟩
  · rintro ⟨rfl, rfl, agentVisible, adminVisible, distinct⟩
    simp only [agentVisible, adminVisible, distinct, Bool.false_eq_true, if_false]

/-- The events of agents: their connections, and their config fetches. -/
def ServerEvent.ofAgent : ServerEvent → Bool
  | .agentControl .. | .hello .. | .register .. | .heartbeat .. | .socketEnd .. | .removeAgent ..
  | .agentConfig .. | .agentConfigRead .. => true
  | .adminAgents .. | .reload .. | .reloadSwap .. | .reloadCount .. | .reloadNotify .. => false

namespace Server

open Transition

variable {env : Env}

/-- **What an agent does changes neither the configuration nor the reloads, and notifies
nobody.** -/
theorem agent_frame (env : Env) (s : Server) {e : ServerEvent} (agent : e.ofAgent = true) :
    (step env s e).config = s.config ∧ (step env s e).notifications = s.notifications ∧
      (step env s e).reloads = s.reloads := by
  rcases step_acts env s e with same | acts
  · rw [same]
    exact ⟨rfl, rfl, rfl⟩
  generalize step env s e = s' at acts
  cases acts with
  | loaded | swapped | counted | notified => cases agent
  | _ => exact ⟨rfl, rfl, rfl⟩

theorem agent_frame_run {s : Server} {es : List ServerEvent}
    (agents : ∀ e ∈ es, e.ofAgent = true) :
    (run (step env) s es).config = s.config ∧
      (run (step env) s es).notifications = s.notifications ∧
      (run (step env) s es).reloads = s.reloads := by
  induction es generalizing s with
  | nil => exact ⟨rfl, rfl, rfl⟩
  | cons e es ih =>
    obtain ⟨config, notifications, reloads⟩ :=
      ih (s := step env s e) fun e' mem => agents e' (List.mem_cons_of_mem e mem)
    obtain ⟨config', notifications', reloads'⟩ :=
      agent_frame env s (agents e List.mem_cons_self)
    exact ⟨config.trans config', notifications.trans notifications', reloads.trans reloads'⟩

/-- The authorization header is `Bearer ` and the admin token. -/
def AdminHeaders (env : Env) (headers : HeaderMap) : Prop :=
  headerBytes headers authorizationHeader = some (Text.utf8 ("Bearer " ++ env.adminToken))

/-- Only a request that is accepted starts a reload. -/
theorem reload_step (inj : Function.Injective env.sha256) {s : Server} {e : ServerEvent} {id : Nat}
    (before : s.reloads id = none) (after : (step env s e).reloads id ≠ none) :
    ∃ headers file, e = .reload id headers file ∧ AdminHeaders env headers := by
  rcases stages_or_stays env s e id with stages | same
  · generalize (step env s e).reloads id = stage at stages after
    cases stages with
    | loaded auth => exact ⟨_, _, rfl, headerBytes_of_authorized inj auth⟩
    | swapped found | counted found | notified found =>
      rw [before] at found
      cases found
  · rw [same] at after
    exact absurd before after

/-- **Every reload under way is of a request that carried the admin token.** -/
theorem reload_origin (inj : Function.Injective env.sha256) (config : LoadedControlConfig)
    {es : List ServerEvent} {id : Nat}
    (underWay : (run (step env) (init config) es).reloads id ≠ none) :
    ∃ pre headers file post, es = pre ++ .reload id headers file :: post ∧
      AdminHeaders env headers ∧ ∀ mid, mid <+: post →
        (run (step env) (init config) (pre ++ .reload id headers file :: mid)).reloads id ≠
          none := by
  let P : Server → Prop := fun s => s.reloads id ≠ none
  have start : ¬ P (init config) := fun h => h rfl
  obtain ⟨pre, e, post, rfl, before, after⟩ := exists_established (P := P) start underWay
  have established : (run (step env) (init config) (pre ++ [e])).reloads id ≠ none :=
    after [] List.nil_prefix
  rw [run_append, run_cons, run_nil] at established
  obtain ⟨headers, file, rfl, admin⟩ := reload_step inj (not_not.mp before) established
  exact ⟨pre, headers, file, post, rfl, admin, after⟩

/-- The configuration and the notifications change only when a reload does. -/
theorem reload_of_change {s : Server} {e : ServerEvent}
    (changed : (step env s e).config ≠ s.config ∨
      (step env s e).notifications ≠ s.notifications) :
    ∃ id, (e = .reloadSwap id ∨ e = .reloadNotify id) ∧ s.reloads id ≠ none := by
  rcases step_acts env s e with same | acts
  · rw [same] at changed
    rcases changed with h | h <;> exact absurd rfl h
  generalize step env s e = s' at acts changed
  cases acts with
  | swapped found => exact ⟨_, .inl rfl, by rw [found]; rintro ⟨⟩⟩
  | notified found => exact ⟨_, .inr rfl, by rw [found]; rintro ⟨⟩⟩
  | _ => rcases changed with h | h <;> exact absurd rfl h

/-- The list of agents is an answer to a request that carried the admin token. -/
theorem agents_answer (inj : Function.Injective env.sha256) {s : Server} {e : ServerEvent}
    {agents : List ConnectedAgent} (answered : answer env s e = some (.agents agents)) :
    ∃ headers, e = .adminAgents headers ∧ AdminHeaders env headers := by
  cases e with
  | adminAgents headers =>
    rw [answer] at answered
    split at answered
    next auth => exact ⟨headers, rfl, headerBytes_of_authorized inj auth⟩
    next => cases answered
  | agentConfigRead request =>
    obtain ⟨agent, -, body⟩ := Option.map_eq_some_iff.mp answered
    rcases agentConfigAnswer_cases env s.config.config request.headers agent with
      ⟨runtime, h⟩ | ⟨status, h⟩ <;> rw [h] at body <;> cases body
  | agentControl connectionId headers =>
    rw [answer] at answered
    split at answered <;> cases answered
  | hello connectionId hello =>
    rw [answer] at answered
    split at answered
    · split at answered <;> cases answered
    · cases answered
  | register connectionId now =>
    rw [answer] at answered
    split at answered
    · split at answered
      · split at answered <;> cases answered
      · cases answered
    · cases answered
  | agentConfig request =>
    rw [answer] at answered
    split at answered
    · cases answered
    · split at answered <;> cases answered
  | reload id headers file =>
    rw [answer] at answered
    split at answered
    · cases answered
    · split at answered
      · split at answered <;> cases answered
      · cases answered
  | reloadNotify id =>
    rw [answer] at answered
    split at answered <;> cases answered
  | heartbeat | socketEnd | removeAgent | reloadSwap | reloadCount => cases answered

/-- **Privilege separation**, for every pair of tokens the server accepts at its start. In every
run: a step that changes the configuration in force, its source version with it, or broadcasts a
notification, is a step of a reload request whose authorization header is `Bearer ` and the admin
token; the agents are listed for such a header only. No header is accepted for both roles. And no
sequence of agents' events changes the configuration. -/
theorem privilege_separation (inj : Function.Injective env.sha256) {rawAgent rawAdmin : String}
    (accepted : validateControlTokens rawAgent rawAdmin = .ok (env.agentToken, env.adminToken))
    (config : LoadedControlConfig) (es : List ServerEvent) :
    let after := run (step env) (init config)
    (∀ pre e post, es = pre ++ e :: post →
      (after (pre ++ [e])).config ≠ (after pre).config ∨
        (after (pre ++ [e])).notifications ≠ (after pre).notifications →
      ∃ id before headers file between, (e = .reloadSwap id ∨ e = .reloadNotify id) ∧
        pre = before ++ .reload id headers file :: between ∧ AdminHeaders env headers ∧
        ∀ mid, mid <+: between →
          (after (before ++ .reload id headers file :: mid)).reloads id ≠ none) ∧
    (∀ pre e post agents, es = pre ++ e :: post →
      answer env (after pre) e = some (.agents agents) →
      ∃ headers, e = .adminAgents headers ∧ AdminHeaders env headers) ∧
    (∀ headers, ¬ (authorized env.sha256 headers env.agentToken = true ∧
      authorized env.sha256 headers env.adminToken = true)) ∧
    ∀ fs : List ServerEvent, (∀ e ∈ fs, e.ofAgent = true) →
      (after (es ++ fs)).config = (after es).config := by
  refine ⟨?_, ?_, ?_, ?_⟩
  · rintro pre e post rfl changed
    rw [run_append, run_cons, run_nil] at changed
    obtain ⟨id, reload, underWay⟩ := reload_of_change changed
    obtain ⟨before, headers, file, between, split, admin, held⟩ :=
      reload_origin inj config underWay
    exact ⟨id, before, headers, file, between, reload, split, admin, held⟩
  · rintro pre e post agents rfl answered
    exact agents_answer inj answered
  · rintro headers ⟨agent, admin⟩
    exact (validateControlTokens_ok_iff.mp accepted).2.2.2.2 (authorized_unique inj agent admin)
  · intro fs agents
    rw [run_append]
    exact (agent_frame_run agents).1

/-- A server started with tokens that have white space around them, while one agent says hello. -/
theorem privilege_separation_oneAgent :
    validateControlTokens " agent-secret\n" "admin-secret " =
        .ok (oneAgentEnv.agentToken, oneAgentEnv.adminToken) ∧
      (run (step oneAgentEnv) (init oneAgentConfig) ([] ++ oneAgentRun)).config =
        (run (step oneAgentEnv) (init oneAgentConfig) []).config := by
  have accepted : validateControlTokens " agent-secret\n" "admin-secret " =
      .ok (oneAgentEnv.agentToken, oneAgentEnv.adminToken) :=
    validateControlTokens_ok_iff.mpr (by decide +kernel)
  exact ⟨accepted, (privilege_separation (fun _ _ h => h) accepted oneAgentConfig []).2.2.2
    oneAgentRun (by decide)⟩

end Server

end Talia
