import Talia.Control.Privilege
import Talia.Deployment.Step

/-!
# Whether the agent's credentials are the server's

Both sides are given the same two secrets and read them differently. The server trims its token at
startup and compares the config token as it is enrolled; the agent sends its token as it is and
trims the config token it sends. On the way optional white space at the ends of a header is lost. So
they agree on the tokens with nothing to trim where only one side trims it, and none that a header
cannot carry to its reader (`credential_agreement_iff`).

Which bytes the agent's HTTP library accepts in a header is a parameter, `valid`: a request with any
other byte is not built. TLS, and what a proxy makes of a header, are not here.
-/

namespace Talia

/-! ## Headers on their way -/

/-- Optional white space, as HTTP has it: blanks and tabs. -/
def isOws (b : UInt8) : Bool := b = 32 || b = 9

/-- The headers as they are received. -/
def carried (headers : HeaderMap) : HeaderMap :=
  headers.map fun header => (header.1, Text.strip isOws header.2)

/-- The request with these headers, if their values are valid. -/
def build (valid : UInt8 → Bool) (headers : HeaderMap) : Option HeaderMap :=
  if headers.all fun header => header.2.all valid then some headers else none

/-- Headers are built as they are given. -/
theorem build_eq_some {valid : UInt8 → Bool} {headers built : HeaderMap}
    (h : build valid headers = some built) : built = headers := by
  unfold build at h
  split at h
  · exact (Option.some.inj h).symm
  · cases h

/-- Then all their bytes are valid. -/
theorem all_of_build {valid : UInt8 → Bool} {headers built : HeaderMap}
    (h : build valid headers = some built) :
    headers.all (fun header => header.2.all valid) = true := by
  unfold build at h
  split at h
  next all => exact all
  next => cases h

/-- So are those of each header. -/
theorem all_of_headerBytes {valid : UInt8 → Bool} {headers : HeaderMap} {name : String}
    {value : List UInt8} (all : headers.all (fun header => header.2.all valid) = true)
    (found : headerBytes headers name = some value) : value.all valid = true := by
  obtain ⟨header, first, rfl⟩ := Option.map_eq_some_iff.mp found
  exact List.all_eq_true.mp all header (List.mem_of_find?_eq_some first)

/-! ## Visible text -/

/-- The text is visible ASCII, blanks and tabs. -/
def Visible (s : String) : Prop := ∀ b ∈ Text.utf8 s, isVisible b = true

/-- A visible byte is an ASCII character, which is white space as the header has it. -/
theorem isVisible_iff (b : UInt8) : isVisible b = true →
    b < 128 ∧ Text.isWhitespace (Char.ofNat b.toNat) = isOws b := by
  have all : ∀ n : Fin 256, isVisible (UInt8.ofNat n) = true →
      UInt8.ofNat n < 128 ∧
        Text.isWhitespace (Char.ofNat (UInt8.ofNat n).toNat) = isOws (UInt8.ofNat n) := by
    decide +kernel
  have := all ⟨b.toNat, b.toNat_lt⟩
  rwa [UInt8.ofNat_toNat] at this

/-- White space in a header is visible. -/
theorem isVisible_of_isOws {b : UInt8} (ows : isOws b = true) : isVisible b = true := by
  rw [isOws, Bool.or_eq_true, decide_eq_true_eq, decide_eq_true_eq] at ows
  rcases ows with rfl | rfl <;> rfl

/-- A visible text is read back from its bytes. -/
theorem Visible.ofAscii {s : String} (visible : Visible s) : Text.ofAscii (Text.utf8 s) = s :=
  Text.ofAscii_utf8 fun b mem => (isVisible_iff b (visible b mem)).1

/-- Trimming visible text strips its optional white space. -/
theorem Visible.utf8_trim {s : String} (visible : Visible s) :
    Text.utf8 (Text.trim s) = Text.strip isOws (Text.utf8 s) := by
  have trimmed : Text.trim (Text.ofAscii (Text.utf8 s)) =
      Text.ofAscii (Text.strip isOws (Text.utf8 s)) :=
    Text.trim_ofAscii fun b mem => (isVisible_iff b (visible b mem)).2
  rw [visible.ofAscii] at trimmed
  rw [trimmed]
  refine Text.utf8_ofAscii fun b mem => (isVisible_iff b (visible b ?_)).1
  exact (List.dropWhile_suffix isOws).subset ((List.rdropWhile_prefix _ _).subset mem)

/-- Text that is not white space only has a byte that is not optional white space. -/
theorem exists_not_isOws {s : String} (h : Text.isBlank s = false) :
    ∃ b ∈ Text.utf8 s, isOws b = false := by
  by_contra none
  have ows : ∀ b ∈ Text.utf8 s, isOws b = true := by
    intro b mem
    by_contra kept
    exact none ⟨b, mem, Bool.eq_false_iff.mpr kept⟩
  have visible : Visible s := fun b mem => isVisible_of_isOws (ows b mem)
  have empty : Text.utf8 (Text.trim s) = Text.utf8 "" := by
    rw [visible.utf8_trim, Text.strip, List.dropWhile_eq_nil_iff.mpr ows]
    rfl
  rw [Text.isBlank, Text.utf8_inj.mp empty] at h
  cases h

/-- Visible text starts with white space when its first byte is optional white space. -/
theorem Visible.startsBlank_iff {s : String} (visible : Visible s) :
    Text.startsBlank s = false ↔ (Text.utf8 s).dropWhile isOws = Text.utf8 s := by
  have chars : s.toList = (Text.utf8 s).map fun b => Char.ofNat b.toNat := by
    rw [← Text.toList_ofAscii, visible.ofAscii]
  rw [Text.startsBlank, chars]
  cases split : Text.utf8 s with
  | nil => exact ⟨fun _ => rfl, fun _ => rfl⟩
  | cons b bytes =>
    have first := (isVisible_iff b (visible b (split ▸ List.mem_cons_self))).2
    show Text.isWhitespace (Char.ofNat b.toNat) = false ↔ _
    rw [first]
    cases ows : isOws b with
    | false => simp [ows]
    | true =>
      constructor
      · intro h
        cases h
      · intro h
        have shorter := (List.dropWhile_suffix isOws (l := bytes)).length_le
        rw [List.dropWhile_cons_of_pos ows] at h
        rw [h, List.length_cons] at shorter
        omega

/-! ## The two headers -/

/-- What the server reads of the authorization header the agent sends for a token. -/
theorem strip_bearer {token : String} (h : Text.isBlank token = false) :
    Text.strip isOws (Text.utf8 ("Bearer " ++ token)) =
      Text.utf8 "Bearer " ++ (Text.utf8 token).rdropWhile isOws := by
  have front : (Text.utf8 ("Bearer " ++ token)).dropWhile isOws =
      Text.utf8 ("Bearer " ++ token) := by
    rw [Text.utf8_append]
    rfl
  rw [Text.strip, front, Text.utf8_append, Text.rdropWhile_append (exists_not_isOws h)]

/-- The server reads its own trimmed token exactly when the agent's token is visible and does not
start with white space. -/
theorem toStr_bearer_iff {token : String} (h : Text.isBlank token = false) :
    (toStr (Text.strip isOws (Text.utf8 ("Bearer " ++ token)))).bind
        (Text.stripPrefix "Bearer ") = some (Text.trim token) ↔
      Visible token ∧ Text.startsBlank token = false := by
  have read : (toStr (Text.strip isOws (Text.utf8 ("Bearer " ++ token)))).bind
        (Text.stripPrefix "Bearer ") = some (Text.trim token) ↔
      (Text.utf8 token).rdropWhile isOws = Text.utf8 (Text.trim token) ∧
        ∀ b ∈ (Text.utf8 token).rdropWhile isOws, isVisible b = true := by
    have scheme : ∀ b ∈ Text.utf8 "Bearer ", isVisible b = true := by decide +kernel
    rw [Option.bind_eq_some_iff, strip_bearer h]
    constructor
    · rintro ⟨s, text, stripped⟩
      obtain ⟨bytes, visible⟩ := toStr_eq_some_iff.mp text
      rw [Text.stripPrefix_eq_some_iff.mp stripped, Text.utf8_append] at bytes
      rw [List.all_append, Bool.and_eq_true] at visible
      exact ⟨List.append_cancel_left bytes, List.all_eq_true.mp visible.2⟩
    · rintro ⟨bytes, visible⟩
      refine ⟨"Bearer " ++ Text.trim token, toStr_eq_some_iff.mpr ⟨?_, ?_⟩,
        Text.stripPrefix_eq_some_iff.mpr rfl⟩
      · rw [bytes, Text.utf8_append]
      · rw [List.all_append, Bool.and_eq_true]
        exact ⟨List.all_eq_true.mpr scheme, List.all_eq_true.mpr visible⟩
  rw [read]
  constructor
  · rintro ⟨bytes, kept⟩
    have visible : Visible token := by
      intro b mem
      rw [← List.rdropWhile_append_rtakeWhile (p := isOws) (l := Text.utf8 token)] at mem
      rcases List.mem_append.mp mem with left | right
      · exact kept b left
      · exact isVisible_of_isOws (List.mem_rtakeWhile_imp right)
    rw [visible.utf8_trim, Text.rdropWhile_eq_strip_iff (exists_not_isOws h)] at bytes
    exact ⟨visible, visible.startsBlank_iff.mpr bytes⟩
  · rintro ⟨visible, start⟩
    have bytes := visible.startsBlank_iff.mp start
    refine ⟨?_, fun b mem => visible b ((List.rdropWhile_prefix _ _).subset mem)⟩
    rw [visible.utf8_trim, Text.rdropWhile_eq_strip_iff (exists_not_isOws h), bytes]

/-- The server reads the enrolled config token exactly when it is visible and trimmed. -/
theorem toStr_configToken_iff {token : String} :
    ((toStr (Text.strip isOws (Text.utf8 (Text.trim token)))).map Text.trim) = some token ↔
      Visible token ∧ Text.trim token = token := by
  rw [Option.map_eq_some_iff]
  constructor
  · rintro ⟨s, text, rfl⟩
    rw [toStr_eq_some_iff, List.all_eq_true, Text.trim_trim] at text
    obtain ⟨bytes, visible⟩ := text
    have read : Visible s := by
      intro b mem
      exact visible b (bytes ▸ mem)
    refine ⟨?_, Text.trim_trim s⟩
    intro b mem
    rw [read.utf8_trim] at mem
    exact read b ((List.dropWhile_suffix isOws).subset ((List.rdropWhile_prefix _ _).subset mem))
  · rintro ⟨visible, trimmed⟩
    refine ⟨token, toStr_eq_some_iff.mpr ⟨?_, ?_⟩, trimmed⟩
    · rw [trimmed, ← visible.utf8_trim, trimmed]
    · rw [trimmed, ← visible.utf8_trim, trimmed]
      exact List.all_eq_true.mpr visible

/-- A header arrives without the white space around it. -/
theorem headerBytes_carried (headers : HeaderMap) (name : String) :
    headerBytes (carried headers) name = (headerBytes headers name).map (Text.strip isOws) := by
  induction headers with
  | nil => rfl
  | cons header headers ih =>
    unfold headerBytes carried at *
    rw [List.map_cons, List.find?_cons, List.find?_cons]
    cases named : decide (header.1 = name) with
    | true => rfl
    | false => exact ih

/-- Headers with the agent's token and config token. -/
structure Presents (headers : HeaderMap) (token configToken : String) : Prop where
  authorization :
    headerBytes headers authorizationHeader = some (Text.utf8 ("Bearer " ++ token))
  configToken :
    headerBytes headers agentConfigTokenHeader = some (Text.utf8 (Text.trim configToken))

/-- The server accepts the headers of an agent: its token, and its config token. -/
structure Accepts (env : Env) (config : ControlConfigFile) (agentId : String)
    (headers : HeaderMap) : Prop where
  authorized : authorized env.sha256 headers env.agentToken = true
  configToken : ∃ token, headerValue headers agentConfigTokenHeader = some token ∧
    config.agentConfigTokenMatches env.sha256 agentId token = true

section Agreement

variable {env : Env} {config : ControlConfigFile} {agentId hostname token admin configToken : String}

/-- **What the server makes of the two credentials.** It accepts them exactly when both are visible,
the token does not start with white space, and the config token is trimmed. -/
theorem accepts_iff (inj : Function.Injective env.sha256)
    (started : validateControlTokens token admin = .ok (env.agentToken, env.adminToken))
    (enrolled : config.agents[agentId]? = some ⟨hostname, some configToken⟩)
    (given : Text.isBlank configToken = false) {headers : HeaderMap}
    (presents : Presents headers token configToken) :
    Accepts env config agentId (carried headers) ↔
      Visible token ∧ Text.startsBlank token = false ∧
        Visible configToken ∧ Text.trim configToken = configToken := by
  obtain ⟨kept, -, visible, -, -⟩ := validateControlTokens_ok_iff.mp started
  have auth : authorized env.sha256 (carried headers) env.agentToken = true ↔
      Visible token ∧ Text.startsBlank token = false := by
    rw [authorized_iff inj, kept, bearer, headerBytes_carried, presents.authorization]
    simp only [Option.map_some, Option.bind_some]
    rw [toStr_bearer_iff visible]
    refine and_iff_right ?_
    rw [Text.isBlank, Text.trim_trim]
    exact visible
  have matched : (∃ read, headerValue (carried headers) agentConfigTokenHeader = some read ∧
      config.agentConfigTokenMatches env.sha256 agentId read = true) ↔
      Visible configToken ∧ Text.trim configToken = configToken := by
    have own (read : String) : config.agentConfigTokenMatches env.sha256 agentId read = true ↔
        read = configToken := by
      rw [ControlConfigFile.agentConfigTokenMatches, enrolled]
      show secretMatches env.sha256 configToken read = true ↔ _
      rw [secretMatches_iff inj]
      exact and_iff_right given
    rw [← toStr_configToken_iff, headerValue, headerBytes_carried, presents.configToken]
    simp only [own, exists_eq_right, Option.map_some, Option.bind_some, Option.filter_eq_some_iff]
    refine and_iff_left_of_imp fun text => ?_
    obtain ⟨s, -, trimmed⟩ := Option.map_eq_some_iff.mp text
    rw [Text.isBlank, ← trimmed, Text.trim_trim, trimmed] at given
    simp [given]
  constructor
  · intro accepts
    obtain ⟨tokenVisible, start⟩ := auth.mp accepts.authorized
    exact ⟨tokenVisible, start, matched.mp accepts.configToken⟩
  · rintro ⟨tokenVisible, start, rest⟩
    exact ⟨auth.mpr ⟨tokenVisible, start⟩, matched.mpr rest⟩

end Agreement

/-! ## Agreement -/

namespace Site

variable {site : Site} {token configToken : String}

/-- The token's header has the trimmed token. -/
theorem configTokenHeaders_eq (control : site.control = ⟨token, some configToken⟩)
    (given : Text.isBlank configToken = false) :
    site.configTokenHeaders = [headerOf agentConfigTokenHeader (Text.trim configToken)] := by
  have kept : ((some configToken).map Text.trim).filter (fun token => !token.isEmpty) =
      some (Text.trim configToken) := by
    rw [Text.isBlank] at given
    simp [given]
  rw [configTokenHeaders, control, kept]

/-- The websocket's request presents both tokens. -/
theorem websocketHeaders_presents (control : site.control = ⟨token, some configToken⟩)
    (given : Text.isBlank configToken = false) :
    Presents site.websocketHeaders token configToken := by
  have other : ¬ authorizationHeader = agentConfigTokenHeader := by decide
  rw [websocketHeaders, configTokenHeaders_eq control given, control]
  constructor
  · simp [headerBytes, headerOf, Text.utf8]
  · simp [headerBytes, headerOf, Text.utf8, other]

/-- So does each fetch. -/
theorem fetchHeaders_presents (control : site.control = ⟨token, some configToken⟩)
    (given : Text.isBlank configToken = false) (configSessionId : String) :
    Presents (site.fetchHeaders configSessionId) token configToken := by
  have authorization : ¬ authorizationHeader = agentConfigTokenHeader := by decide
  have agentId : ¬ agentIdHeader = agentConfigTokenHeader := by decide
  have session : ¬ configSessionIdHeader = agentConfigTokenHeader := by decide
  rw [fetchHeaders, configTokenHeaders_eq control given, control]
  constructor
  · simp [headerBytes, headerOf, Text.utf8]
  · simp [headerBytes, headerOf, Text.utf8, authorization, agentId, session]

/-- Headers the agent builds, for its WebSocket or for a fetch. -/
def Builds (site : Site) (valid : UInt8 → Bool) (headers : HeaderMap) : Prop :=
  build valid site.websocketHeaders = some headers ∨
    ∃ configSessionId, build valid (site.fetchHeaders configSessionId) = some headers

end Site

/-- The text can be the value of a header. -/
def Sendable (valid : UInt8 → Bool) (s : String) : Prop := ∀ b ∈ Text.utf8 s, valid b = true

/-- **When the credentials agree.** The server starts with a token the agent is given as its own,
and the agent's config token is the one it is enrolled with. Whatever the agent builds is accepted
if and only if the two tokens, where a header can be built of them, are visible, the one has no
white space at its start and the other none at its ends. -/
theorem credential_agreement_iff (site : Site) (inj : Function.Injective site.env.sha256)
    (valid : UInt8 → Bool) {config : ControlConfigFile}
    {token admin hostname configToken : String}
    (started : validateControlTokens token admin = .ok (site.env.agentToken, site.env.adminToken))
    (control : site.control = ⟨token, some configToken⟩)
    (enrolled : config.agents[site.identity.agentId]? = some ⟨hostname, some configToken⟩)
    (given : Text.isBlank configToken = false) :
    (∀ headers, site.Builds valid headers →
      Accepts site.env config site.identity.agentId (carried headers)) ↔
      (Sendable valid ("Bearer " ++ token) → Sendable valid (Text.trim configToken) →
        Visible token ∧ Text.startsBlank token = false ∧
          Visible configToken ∧ Text.trim configToken = configToken) := by
  have built : ∀ headers, site.Builds valid headers → Presents headers token configToken ∧
      Sendable valid ("Bearer " ++ token) ∧ Sendable valid (Text.trim configToken) := by
    intro headers builds
    have all : headers.all (fun header => header.2.all valid) = true ∧
        Presents headers token configToken := by
      rcases builds with websocket | ⟨session, fetch⟩
      · rw [build_eq_some websocket]
        exact ⟨all_of_build websocket, Site.websocketHeaders_presents control given⟩
      · rw [build_eq_some fetch]
        exact ⟨all_of_build fetch, Site.fetchHeaders_presents control given session⟩
    refine ⟨all.2, ?_, ?_⟩
    · exact List.all_eq_true.mp (all_of_headerBytes all.1 all.2.authorization)
    · exact List.all_eq_true.mp (all_of_headerBytes all.1 all.2.configToken)
  constructor
  · intro agree sendable sendable'
    have websocket : build valid site.websocketHeaders = some site.websocketHeaders := by
      rw [build, if_pos]
      rw [Site.websocketHeaders, Site.configTokenHeaders_eq control given, control]
      simp only [List.all_cons, List.all_nil, Bool.and_true, Bool.and_eq_true]
      exact ⟨List.all_eq_true.mpr sendable, List.all_eq_true.mpr sendable'⟩
    exact (accepts_iff inj started enrolled given
      (Site.websocketHeaders_presents control given)).mp (agree _ (.inl websocket))
  · intro condition headers builds
    obtain ⟨presents, sendable, sendable'⟩ := built headers builds
    exact (accepts_iff inj started enrolled given presents).mpr (condition sendable sendable')

/-! ## An agent with its secrets -/

/-- The bytes the agent's HTTP library takes in a header. -/
def headerByte (b : UInt8) : Bool := (32 ≤ b && b ≠ 127) || b = 9

/-- An agent of a server with one agent, given this token. -/
def siteOf (token : String) : Site where
  env := Server.oneAgentEnv
  control := ⟨token, some "config-secret"⟩
  identity := ⟨"agent-1"⟩

/-- The agent of the example is enrolled. -/
theorem enrolled_oneAgent : Server.oneAgentConfig.config.agents["agent-1"]? =
    some ⟨"host-1", some "config-secret"⟩ := by
  show ((∅ : BTreeMap String AgentEnrollment).insert "agent-1" _)["agent-1"]? = _
  exact Std.ExtTreeMap.getElem?_insert_self

/-- The token has a blank at its end, on both sides. -/
theorem credential_agreement_trailing :
    Accepts Server.oneAgentEnv Server.oneAgentConfig.config "agent-1"
      (carried (siteOf "agent-secret ").websocketHeaders) := by
  have started : validateControlTokens "agent-secret " "admin-secret" =
      .ok ((siteOf "agent-secret ").env.agentToken, (siteOf "agent-secret ").env.adminToken) :=
    validateControlTokens_ok_iff.mpr (by decide +kernel)
  have accepts := (credential_agreement_iff (siteOf "agent-secret ") (fun _ _ h => h) headerByte
    started rfl enrolled_oneAgent (by decide +kernel)).mpr fun _ _ => by
      unfold Visible
      decide +kernel
  exact accepts _ (.inl (by decide +kernel))

/-- **An agent can be refused with the server's own token**: it starts with a blank, which the
server drops and the agent sends. -/
theorem leading_blank_refused :
    ∃ (site : Site) (config : ControlConfigFile)
      (token admin hostname configToken : String) (headers : HeaderMap),
      Function.Injective site.env.sha256 ∧
      validateControlTokens token admin = .ok (site.env.agentToken, site.env.adminToken) ∧
      site.control = ⟨token, some configToken⟩ ∧
      config.agents[site.identity.agentId]? = some ⟨hostname, some configToken⟩ ∧
      Text.isBlank configToken = false ∧ site.Builds headerByte headers ∧
      ¬ Accepts site.env config site.identity.agentId (carried headers) := by
  have started : validateControlTokens " agent-secret" "admin-secret" =
      .ok (Server.oneAgentEnv.agentToken, Server.oneAgentEnv.adminToken) :=
    validateControlTokens_ok_iff.mpr (by decide +kernel)
  have given : Text.isBlank "config-secret" = false := by decide +kernel
  refine ⟨siteOf " agent-secret", Server.oneAgentConfig.config, " agent-secret", "admin-secret",
    "host-1", "config-secret", (siteOf " agent-secret").websocketHeaders, fun _ _ h => h, started,
    rfl, enrolled_oneAgent, given, .inl (by decide +kernel), ?_⟩
  intro accepts
  have injective : Function.Injective Server.oneAgentEnv.sha256 := fun _ _ h => h
  have start := ((accepts_iff injective started enrolled_oneAgent
    given (Site.websocketHeaders_presents rfl given)).mp accepts).2.1
  revert start
  decide +kernel

end Talia
