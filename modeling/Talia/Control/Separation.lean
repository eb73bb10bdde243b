import Talia.Control.Disclosure

/-!
# Which connections can claim an agent id

Fix an agent id and a list of tokens, such that every configuration in force enrolls the id with
tokens of the list only and no other id with any of them (`Sound`). Then a connection opened with
one of the tokens claims that id or none, and any other connection never claims it (`Separated`):
a hello is accepted only with the token enrolled for its id. What a connection claims is the id it
registered last and the id of a hello about to be registered.
-/

namespace Talia

/-- The tokens are the id's: it is enrolled with no others, and no other id with any of them. -/
structure ControlConfigFile.Sound (file : ControlConfigFile) (agentId : String)
    (tokens : List String) : Prop where
  own : ∀ token, file.EnrollsToken agentId token → token ∈ tokens
  others : ∀ id token, file.EnrollsToken id token → token ∈ tokens → id = agentId

/-- The token presented is one of the list. -/
def presents (tokens : List String) : Option String → Bool
  | some token => token ∈ tokens
  | none => false

/-- The id a connection registered last, or is about to register. -/
def Connection.Claims (connection : Connection) (id : String) : Prop :=
  connection.currentAgentId = some id ∨
    ∃ hello, connection.phase = .registering hello ∧ hello.agentId = id

namespace Server

open Transition

/-- Connections that present one of the tokens claim the id or none, the others never claim it;
the entries are as they are in every reachable state. -/
structure Separated (agentId : String) (tokens : List String) (s : Server) : Prop where
  sessions : s.Sessions
  claims : ∀ connectionId connection id, s.connections connectionId = some connection →
    connection.Claims id → (presents tokens connection.agentConfigToken = true ↔ id = agentId)
  fetched : ∀ request agent, s.fetches request = some agent →
    headerValue request.headers agentIdHeader = some agent.agentId
  sound : s.config.config.Sound agentId tokens

variable {env : Env} {agentId : String} {tokens : List String}

theorem separated_init {config : LoadedControlConfig}
    (sound : config.config.Sound agentId tokens) : (init config).Separated agentId tokens where
  sessions := sessions_init config
  claims := fun _ _ _ h => (nomatch h)
  fetched := fun _ _ h => (nomatch h)
  sound := sound

/-- An accepted hello presents one of the tokens exactly when its id is the one they are for. -/
theorem presents_iff_of_credential (inj : Function.Injective env.sha256)
    {config : ControlConfigFile} (sound : config.Sound agentId tokens) {id hostname : String}
    {token : Option String}
    (credential : agentHasConfigCredential env.sha256 config id hostname token = true) :
    presents tokens token = true ↔ id = agentId := by
  obtain ⟨enrollment, t, enrolled, -, configured, -, rfl⟩ :=
    (agentHasConfigCredential_iff inj).mp credential
  have enrolls : config.EnrollsToken id t := ⟨enrollment, enrolled, configured⟩
  rw [presents, decide_eq_true_eq]
  constructor
  · exact sound.others id t enrolls
  · rintro rfl
    exact sound.own t enrolls

/-- A connection may be replaced by one whose claims are in order. -/
theorem claims_setConnection {s : Server}
    (claims : ∀ connectionId connection id, s.connections connectionId = some connection →
      connection.Claims id → (presents tokens connection.agentConfigToken = true ↔ id = agentId))
    (target : String) {after : Connection}
    (ordered : ∀ id, after.Claims id →
      (presents tokens after.agentConfigToken = true ↔ id = agentId)) :
    ∀ connectionId connection id,
      (s.setConnection target after).connections connectionId = some connection →
      connection.Claims id →
      (presents tokens connection.agentConfigToken = true ↔ id = agentId) := by
  intro connectionId connection id found claim
  rw [setConnection_connections] at found
  split at found
  · cases found
    exact ordered id claim
  · exact claims connectionId connection id found claim

/-- **Each step keeps connections apart**, as long as the configuration in force is sound. -/
theorem claims_step (inj : Function.Injective env.sha256) (s : Server) (e : ServerEvent)
    (inv : s.Separated agentId tokens) :
    ∀ connectionId connection id, (step env s e).connections connectionId = some connection →
      connection.Claims id →
      (presents tokens connection.agentConfigToken = true ↔ id = agentId) := by
  -- What a connection claimed by its current id, and by its hello.
  have current : ∀ {connectionId token closed phase id},
      s.connections connectionId = some ⟨token, some id, closed, phase⟩ →
      (presents tokens token = true ↔ id = agentId) :=
    fun found => inv.claims _ _ _ found (.inl rfl)
  have pending : ∀ {connectionId token current closed} {hello : AgentHello},
      s.connections connectionId = some ⟨token, current, closed, .registering hello⟩ →
      (presents tokens token = true ↔ hello.agentId = agentId) :=
    fun found => inv.claims _ _ _ found (.inr ⟨_, rfl, rfl⟩)
  rcases step_acts env s e with same | acts
  · rw [same]
    exact inv.claims
  generalize step env s e = s' at acts
  cases acts with
  | opened =>
    refine claims_setConnection inv.claims _ fun id claim => ?_
    rcases claim with h | ⟨_, h, -⟩ <;> cases h
  | accepted found credential =>
    refine claims_setConnection inv.claims _ fun id claim => ?_
    rcases claim with h | ⟨hello, h, rfl⟩
    · cases h
      exact current found
    · cases h
      exact presents_iff_of_credential inj inv.sound credential
  | @registered _ _ _ _ _ senderClosed _ found =>
    refine claims_setConnection inv.claims _ fun id claim => ?_
    rcases claim with h | ⟨_, h, -⟩
    · cases h
      exact pending found
    · cases senderClosed <;> cases h
  | refused found =>
    refine claims_setConnection inv.claims _ fun id claim => ?_
    rcases claim with h | ⟨_, h, -⟩
    · cases h
      exact current found
    · cases h
  | duplicate found =>
    refine claims_setConnection inv.claims _ fun id claim => ?_
    rcases claim with h | ⟨_, h, -⟩
    · cases h
      exact current found
    · cases h
  | ended found =>
    refine claims_setConnection inv.claims _ fun id claim => ?_
    rcases claim with h | ⟨_, h, -⟩
    · cases h
      exact current found
    · cases h
  | removed found =>
    refine claims_setConnection inv.claims _ fun id claim => ?_
    rcases claim with h | ⟨_, h, -⟩
    · cases h
      exact current found
    · cases h
  | _ => exact inv.claims

theorem fetched_step (s : Server) (e : ServerEvent) (inv : s.Separated agentId tokens) :
    ∀ request agent, (step env s e).fetches request = some agent →
      headerValue request.headers agentIdHeader = some agent.agentId := by
  intro request agent after
  by_cases before : s.fetches request = some agent
  · exact inv.fetched request agent before
  · exact agentConfigLookup_filed inv.sessions (fetch_step before after).2

/-- **Separation is kept** by every step that leaves a sound configuration in force. -/
theorem separated_step (inj : Function.Injective env.sha256) (s : Server) (e : ServerEvent)
    (inv : s.Separated agentId tokens)
    (sound : (step env s e).config.config.Sound agentId tokens) :
    (step env s e).Separated agentId tokens where
  sessions := sessions_step s e inv.sessions
  claims := claims_step inj s e inv
  fetched := fetched_step s e inv
  sound := sound

end Server

end Talia
