import Talia.Core.ControlConfig

/-!
# Messages and headers between agents and the control server

The messages of the control WebSocket, the HTTP headers of a config fetch, and how a header is
read: its first value, if it is visible text, without surrounding white space and not empty.
-/

namespace Talia

/-! ## Messages -/

/-- What an agent identifies itself with. -/
structure AgentHello where
  agentId : String
  hostname : String
  agentVersion : String
  bootId : Option String
  deriving DecidableEq

/-- A liveness report: what the agent runs. -/
structure AgentHeartbeat where
  agentId : String
  hostname : String
  agentVersion : String
  configVersion : String
  enabledCollectors : List String
  deriving DecidableEq

/-- What an agent says. -/
inductive AgentControlMessage where
  | hello (hello : AgentHello)
  | heartbeat (heartbeat : AgentHeartbeat)
  deriving DecidableEq

/-- What the server says. -/
inductive ServerControlMessage where
  | helloAck (serverTimeUnixSeconds : UInt64) (configSessionId : String)
  | configChanged (version : String)
  deriving DecidableEq

/-! ## Headers -/

def authorizationHeader : String := "authorization"
def agentIdHeader : String := "x-talia-agent-id"
def agentConfigTokenHeader : String := "x-talia-agent-config-token"
def configSessionIdHeader : String := "x-talia-config-session-id"

/-- Headers in order, their names in lower case, their values bytes. -/
abbrev HeaderMap := List (String × List UInt8)

/-- A header with a text for its value. -/
def headerOf (name value : String) : String × List UInt8 := (name, value.toUTF8.data.toList)

/-- The first value of a header. -/
def headerBytes (headers : HeaderMap) (name : String) : Option (List UInt8) :=
  (headers.find? (·.1 = name)).map Prod.snd

/-- `HeaderValue::to_str`: visible ASCII, blanks and tabs only. -/
def toStr (value : List UInt8) : Option String :=
  if value.all (fun b => (32 ≤ b && b < 127) || b = 9) then
    some (String.ofList (value.map fun b => Char.ofNat b.toNat))
  else none

/-- A byte of a header that can be read. -/
def isVisible (b : UInt8) : Bool := (32 ≤ b && b < 127) || b = 9

/-- A header that can be read is the encoding of what is read. -/
theorem toStr_eq_some_iff {value : List UInt8} {s : String} :
    toStr value = some s ↔ value = Text.utf8 s ∧ value.all isVisible := by
  have ascii : value.all isVisible = true → Text.utf8 (Text.ofAscii value) = value := by
    intro visible
    refine Text.utf8_ofAscii fun b mem => ?_
    have byte := List.all_eq_true.mp visible b mem
    simp only [isVisible, Bool.or_eq_true, Bool.and_eq_true, decide_eq_true_eq] at byte
    rcases byte with ⟨-, small⟩ | rfl
    · exact UInt8.lt_trans small (by decide)
    · decide
  unfold toStr
  constructor
  · intro h
    split at h
    next visible =>
      cases h
      exact ⟨(ascii visible).symm, visible⟩
    next => cases h
  · rintro ⟨rfl, visible⟩
    rw [if_pos (by exact visible)]
    exact congrArg some (Text.utf8_inj.mp (ascii visible))

/-- A header's text, trimmed, if any of it is left. -/
def headerValue (headers : HeaderMap) (name : String) : Option String :=
  (((headerBytes headers name).bind toStr).map Text.trim).filter fun value => !value.isEmpty

/-- What follows `Bearer ` in the authorization header. -/
def bearer (headers : HeaderMap) : Option String :=
  ((headerBytes headers authorizationHeader).bind toStr).bind (Text.stripPrefix "Bearer ")

/-- The authorization header carries the token. -/
def authorized (sha256 : ByteArray → ByteArray) (headers : HeaderMap) (token : String) : Bool :=
  match bearer headers with
  | some candidate => secretMatches sha256 token candidate
  | none => false

theorem authorized_iff {sha256 : ByteArray → ByteArray} (inj : Function.Injective sha256)
    {headers : HeaderMap} {token : String} :
    authorized sha256 headers token = true ↔
      Text.isBlank token = false ∧ bearer headers = some token := by
  unfold authorized
  cases bearer headers with
  | none => exact ⟨fun h => (nomatch h), fun h => (nomatch h.2)⟩
  | some candidate =>
    rw [secretMatches_iff inj, Option.some.injEq]

/-- The authorization header that carries the token is this one. -/
theorem headerBytes_of_authorized {sha256 : ByteArray → ByteArray}
    (inj : Function.Injective sha256) {headers : HeaderMap} {token : String}
    (auth : authorized sha256 headers token = true) :
    headerBytes headers authorizationHeader = some (Text.utf8 ("Bearer " ++ token)) := by
  obtain ⟨value, text, stripped⟩ := Option.bind_eq_some_iff.mp ((authorized_iff inj).mp auth).2
  obtain ⟨bytes, found, read⟩ := Option.bind_eq_some_iff.mp text
  rw [found, (toStr_eq_some_iff.mp read).1, Text.stripPrefix_eq_some_iff.mp stripped]

/-- No authorization header carries two tokens. -/
theorem authorized_unique {sha256 : ByteArray → ByteArray} (inj : Function.Injective sha256)
    {headers : HeaderMap} {token token' : String}
    (auth : authorized sha256 headers token = true)
    (auth' : authorized sha256 headers token' = true) : token = token' := by
  have bearer := ((authorized_iff inj).mp auth).2
  rw [((authorized_iff inj).mp auth').2] at bearer
  exact (Option.some.inj bearer).symm

end Talia
