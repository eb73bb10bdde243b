import Talia.Core.ConfigSerde
import Talia.Lib.IpAddr
import Talia.Lib.Results

/-!
# Control URLs

The agent sends its token to the control URLs, so these are to be secure, or plaintext ones of the
loopback host (`validateControlUrl`). Whether a plaintext URL is of the loopback host is read off
its authority, and `LoopbackUrl` says what such an authority is.

A host in brackets is looked at up to the first closing bracket, and no further. What follows the
bracket, and whether there is one, does not matter, nor does what is in it have to be an address:
`Misbracketed` is the authorities that pass for these reasons, and `control_url_loopback_iff` that
there are no others.

Which host the agent's HTTP library connects to for such a URL is not established.
-/

namespace Talia

/-- The authority of a URL: what stands between the scheme and the first delimiter. -/
def urlAuthority (loopbackPrefix value : String) : List Char :=
  (value.toList.drop loopbackPrefix.length).takeWhile fun c => c ∉ ['/', '?', '#']

/-- The host of an authority. -/
def authorityHost : List Char → List Char
  | '[' :: rest => rest.takeWhile (· ≠ ']')
  | authority => authority.takeWhile (· ≠ ':')

/-- A host is of loopback if it is named so or its address is. -/
def hostIsLoopback (host : List Char) : Bool :=
  host = "localhost".toList || (IpAddr.parse host).any IpAddr.isLoopback

/-- An authority that names a user is not of loopback. -/
def plaintextUrlIsLoopback (value loopbackPrefix : String) : Bool :=
  let authority := urlAuthority loopbackPrefix value
  if '@' ∈ authority then false else hostIsLoopback (authorityHost authority)

/-- A URL that is not secured must be of loopback, unless it is allowed not to be. -/
def validateControlUrl (field value securePrefix loopbackPrefix : String)
    (allowInsecureControlUrl : Bool) : Except ConfigError Unit :=
  if securePrefix.toList <+: value.toList then .ok ()
  else if allowInsecureControlUrl ∧ loopbackPrefix.toList <+: value.toList then .ok ()
  else if loopbackPrefix.toList <+: value.toList ∧ plaintextUrlIsLoopback value loopbackPrefix then
    .ok ()
  else .error (.insecureControlUrl field value)

/-- The control URLs, with the name of their field and the prefixes of their schemes. -/
inductive ControlUrl where
  | http
  | ws
  deriving DecidableEq

namespace ControlUrl

/-- The field that the error names. -/
def field : ControlUrl → String
  | .http => "control_http_url"
  | .ws => "control_ws_url"

def securePrefix : ControlUrl → String
  | .http => "https://"
  | .ws => "wss://"

def loopbackPrefix : ControlUrl → String
  | .http => "http://"
  | .ws => "ws://"

/-- The URL of a bootstrap configuration. -/
def of (bootstrap : AgentBootstrapConfig) : ControlUrl → String
  | .http => bootstrap.controlHttpUrl
  | .ws => bootstrap.controlWsUrl

def validate (url : ControlUrl) (value : String) (allowInsecureControlUrl : Bool) :
    Except ConfigError Unit :=
  validateControlUrl url.field value url.securePrefix url.loopbackPrefix allowInsecureControlUrl

end ControlUrl

/-- The URLs come first, one after the other. -/
def AgentBootstrapConfig.validate (bootstrap : AgentBootstrapConfig) : Except ConfigError Unit := do
  ControlUrl.http.validate bootstrap.controlHttpUrl bootstrap.allowInsecureControlUrl
  ControlUrl.ws.validate bootstrap.controlWsUrl bootstrap.allowInsecureControlUrl
  bootstrap.fallbackRuntimeConfig.validate

/-- A bootstrap configuration is valid when both its control URLs are, and its fallback. -/
theorem AgentBootstrapConfig.validate_ok_iff {bootstrap : AgentBootstrapConfig} :
    bootstrap.validate = .ok () ↔
      (∀ url : ControlUrl,
        url.validate (url.of bootstrap) bootstrap.allowInsecureControlUrl = .ok ()) ∧
      bootstrap.fallbackRuntimeConfig.Valid := by
  rw [validate, Results.check_eq_ok_iff, Results.check_eq_ok_iff, AgentRuntimeConfig.Valid]
  constructor
  · intro valid
    obtain ⟨http, ws, fallback⟩ := valid
    refine ⟨fun url => ?_, fallback⟩
    cases url with
    | http => exact http
    | ws => exact ws
  · intro valid
    exact ⟨valid.1 .http, valid.1 .ws, valid.2⟩

/-! ## Loopback authorities -/

/-- A loopback address. -/
def LoopbackIp (ip : List Char) : Prop :=
  ∃ addr, IpAddr.parse ip = some addr ∧ addr.isLoopback = true

/-- A host that is the loopback host. -/
inductive LoopbackHost : List Char → Prop where
  | localhost : LoopbackHost "localhost".toList
  | v4 (b c d : UInt8) : LoopbackHost (IpAddr.print ⟨127, b, c, d⟩)
  | bracketed {ip : List Char} (loopback : LoopbackIp ip) : LoopbackHost ('[' :: (ip ++ [']']))

/-- Nothing, or a colon and what follows it. -/
def Port (port : List Char) : Prop := port = [] ∨ port.head? = some ':'

/-- A loopback host, and maybe a port. -/
def LoopbackAuthority (authority : List Char) : Prop :=
  ∃ host port, authority = host ++ port ∧ LoopbackHost host ∧ Port port

/-- A plaintext URL of the loopback host. -/
structure LoopbackUrl (loopbackPrefix value : String) : Prop where
  scheme : loopbackPrefix.toList <+: value.toList
  noUserinfo : '@' ∉ urlAuthority loopbackPrefix value
  authority : LoopbackAuthority (urlAuthority loopbackPrefix value)

/-- An authority with a bracket that is no loopback authority, though what the bracket holds is
`localhost` or a loopback address: the bracket holds no address, or it is not closed, or something
else than a port follows it. -/
def Misbracketed (authority : List Char) : Prop :=
  ∃ rest, authority = '[' :: rest ∧
    (rest.takeWhile (· ≠ ']') = "localhost".toList ∨
      LoopbackIp (rest.takeWhile (· ≠ ']')) ∧
        ∀ port, rest.dropWhile (· ≠ ']') = ']' :: port → ¬ Port port)

/-- A loopback host is `localhost` or a loopback address. -/
theorem hostIsLoopback_iff {host : List Char} :
    hostIsLoopback host = true ↔ host = "localhost".toList ∨ LoopbackIp host := by
  unfold hostIsLoopback LoopbackIp
  rw [Bool.or_eq_true, decide_eq_true_eq, Option.any_eq_true]

/-! ## Splitting -/

/-- Up to a character a text is what comes before its first place. -/
theorem takeWhile_ne_append {x : Char} {l rest : List Char} (free : x ∉ l)
    (ends : rest = [] ∨ rest.head? = some x) : (l ++ rest).takeWhile (· ≠ x) = l := by
  have each : ∀ c ∈ l, decide (c ≠ x) = true := by
    intro c mem
    exact decide_eq_true fun same => free (same ▸ mem)
  rw [List.takeWhile_append_of_pos each]
  rcases ends with none | starts
  · rw [none, List.takeWhile_nil, List.append_nil]
  · obtain ⟨tail, rfl⟩ := List.head?_eq_some_iff.mp starts
    rw [List.takeWhile_cons_of_neg (by simp), List.append_nil]

/-- From there on it is the rest. -/
theorem dropWhile_ne_append {x : Char} {l rest : List Char} (free : x ∉ l) :
    (l ++ x :: rest).dropWhile (· ≠ x) = x :: rest := by
  have each : ∀ c ∈ l, decide (c ≠ x) = true := by
    intro c mem
    exact decide_eq_true fun same => free (same ▸ mem)
  rw [List.dropWhile_append_of_pos each, List.dropWhile_cons_of_neg (by simp)]

/-- An address has only characters of an address. -/
theorem notMem_of_parse {ip : List Char} {addr : IpAddr} (parsed : IpAddr.parse ip = some addr)
    {x : Char} (other : ¬ IpAddr.IsText x) : x ∉ ip :=
  fun mem => other (IpAddr.isText_of_parse parsed x mem)

/-- The text of an IPv4 address is no bracket, no colon and nothing after one. -/
theorem notMem_print {addr : Ipv4Addr} {x : Char} (noDigit : x.isDigit = false) (noDot : x ≠ '.') :
    x ∉ IpAddr.print addr := by
  intro mem
  rcases IpAddr.isDigit_or_dot_of_mem_print mem with digit | dot
  · rw [noDigit] at digit
    cases digit
  · exact noDot dot

/-! ## What is accepted -/

/-- An authority that starts with a bracket is of loopback if the bracket closes after a loopback
address, and a port follows or nothing. -/
theorem loopbackAuthority_bracket {rest : List Char} :
    LoopbackAuthority ('[' :: rest) ↔
      ∃ ip port, rest = ip ++ ']' :: port ∧ LoopbackIp ip ∧ Port port := by
  constructor
  · intro given
    obtain ⟨host, port, split, loopback, isPort⟩ := given
    cases loopback with
    | localhost => exact absurd (List.cons.inj split).1 (by decide)
    | v4 b c d =>
      have first : '[' ∈ IpAddr.print ⟨127, b, c, d⟩ := by
        have nonempty : IpAddr.print ⟨127, b, c, d⟩ ≠ [] := by simp [IpAddr.print]
        obtain ⟨x, xs, text⟩ := List.exists_cons_of_ne_nil nonempty
        rw [text] at split ⊢
        rw [(List.cons.inj split).1]
        exact List.mem_cons_self
      exact absurd first (notMem_print (by decide) (by decide))
    | @bracketed ip loopback =>
      refine ⟨ip, port, ?_, loopback, isPort⟩
      simpa using split
  · intro given
    obtain ⟨ip, port, split, loopback, isPort⟩ := given
    exact ⟨'[' :: (ip ++ [']']), port, by simp [split], .bracketed loopback, isPort⟩

/-- An address has no bracket, so the first one after it closes. -/
theorem takeWhile_bracket {ip port : List Char} (loopback : LoopbackIp ip) :
    (ip ++ ']' :: port).takeWhile (· ≠ ']') = ip ∧
      (ip ++ ']' :: port).dropWhile (· ≠ ']') = ']' :: port := by
  obtain ⟨addr, parsed, -⟩ := loopback
  have free : ']' ∉ ip := notMem_of_parse parsed (by unfold IpAddr.IsText; decide)
  exact ⟨takeWhile_ne_append free (.inr rfl), dropWhile_ne_append free⟩

/-- With a bracket: a loopback authority, or one that is not well formed. -/
theorem hostIsLoopback_bracket {rest : List Char} :
    hostIsLoopback (authorityHost ('[' :: rest)) = true ↔
      LoopbackAuthority ('[' :: rest) ∨ Misbracketed ('[' :: rest) := by
  rw [hostIsLoopback_iff, loopbackAuthority_bracket]
  show rest.takeWhile (· ≠ ']') = _ ∨ LoopbackIp (rest.takeWhile (· ≠ ']')) ↔ _
  constructor
  · intro accepted
    rcases accepted with localhost | loopback
    · exact .inr ⟨rest, rfl, .inl localhost⟩
    · by_cases closed : ∃ port, rest.dropWhile (· ≠ ']') = ']' :: port ∧ Port port
      · obtain ⟨port, after, isPort⟩ := closed
        refine .inl ⟨rest.takeWhile (· ≠ ']'), port, ?_, loopback, isPort⟩
        rw [← after, List.takeWhile_append_dropWhile]
      · refine .inr ⟨rest, rfl, .inr ⟨loopback, fun port after isPort => closed ?_⟩⟩
        exact ⟨port, after, isPort⟩
  · intro either
    rcases either with ⟨ip, port, rfl, loopback, -⟩ | ⟨_, same, misbracketed⟩
    · rw [(takeWhile_bracket loopback).1]
      exact .inr loopback
    · cases same
      rcases misbracketed with localhost | ⟨loopback, -⟩
      · exact .inl localhost
      · exact .inr loopback

/-- Without a bracket the host is split off as it should be: the text of an IPv6 address has a
colon, so what stands before the first colon is none. -/
theorem hostIsLoopback_plain {authority : List Char} (plain : authority.head? ≠ some '[') :
    hostIsLoopback (authorityHost authority) = true ↔ LoopbackAuthority authority := by
  have host : authorityHost authority = authority.takeWhile (· ≠ ':') := by
    cases authority with
    | nil => rfl
    | cons c cs =>
      rw [authorityHost]
      rintro _ ⟨⟩
      exact plain rfl
  rw [hostIsLoopback_iff, host]
  constructor
  · intro accepted
    have split : authority = authority.takeWhile (· ≠ ':') ++ authority.dropWhile (· ≠ ':') :=
      List.takeWhile_append_dropWhile.symm
    have isPort : Port (authority.dropWhile (· ≠ ':')) := by
      cases after : authority.dropWhile (· ≠ ':') with
      | nil => exact .inl rfl
      | cons c cs =>
        have stops := List.head?_dropWhile_not (fun c => decide (c ≠ ':')) authority
        rw [after] at stops
        exact .inr (by simpa using stops)
    refine ⟨_, _, split, ?_, isPort⟩
    rcases accepted with localhost | ⟨addr, parsed, loopback⟩
    · rw [localhost]
      exact .localhost
    · cases addr with
      | v4 addr =>
        obtain ⟨a, b, c, d⟩ := addr
        have first : a = 127 := of_decide_eq_true loopback
        rw [IpAddr.parse_eq_v4_iff.mp parsed, first]
        exact .v4 b c d
      | v6 groups =>
        have taken := List.mem_takeWhile_imp (IpAddr.colon_mem_of_parse_v6 parsed)
        simp at taken
  · intro given
    obtain ⟨host, port, split, loopback, isPort⟩ := given
    cases loopback with
    | localhost =>
      rw [split, takeWhile_ne_append (by decide) isPort]
      exact .inl rfl
    | v4 b c d =>
      rw [split, takeWhile_ne_append (notMem_print (by decide) (by decide)) isPort]
      exact .inr ⟨_, IpAddr.parse_eq_v4_iff.mpr rfl, rfl⟩
    | bracketed _ =>
      rw [split] at plain
      exact absurd rfl plain

/-- A loopback authority is not misbracketed. -/
theorem not_misbracketed {authority : List Char} (loopback : LoopbackAuthority authority) :
    ¬ Misbracketed authority := by
  intro ⟨rest, same, misbracketed⟩
  subst same
  obtain ⟨ip, port, rfl, isIp, isPort⟩ := loopbackAuthority_bracket.mp loopback
  obtain ⟨taken, after⟩ := takeWhile_bracket isIp
  rw [taken, after] at misbracketed
  rcases misbracketed with localhost | ⟨-, other⟩
  · obtain ⟨addr, parsed, -⟩ := isIp
    have text := IpAddr.isText_of_parse parsed 'l' (by rw [localhost]; decide)
    revert text
    unfold IpAddr.IsText
    decide
  · exact other port rfl isPort

/-- **The authorities whose host the code takes for loopback** are those of loopback, and those with
something else after a bracketed loopback address. -/
theorem hostIsLoopback_authority (authority : List Char) :
    hostIsLoopback (authorityHost authority) = true ↔
      LoopbackAuthority authority ∨ Misbracketed authority := by
  by_cases bracket : authority.head? = some '['
  · obtain ⟨rest, rfl⟩ := List.head?_eq_some_iff.mp bracket
    exact hostIsLoopback_bracket
  · rw [hostIsLoopback_plain bracket]
    refine (or_iff_left fun ⟨rest, same, _⟩ => bracket ?_).symm
    rw [same]
    rfl

/-- A plaintext URL passes for the loopback host, or for its brackets. -/
theorem ControlUrl.validate_ok_iff {url : ControlUrl} {value : String}
    (insecure : ¬ url.securePrefix.toList <+: value.toList) :
    url.validate value false = .ok () ↔
      LoopbackUrl url.loopbackPrefix value ∨
        (url.loopbackPrefix.toList <+: value.toList ∧
          '@' ∉ urlAuthority url.loopbackPrefix value ∧
          Misbracketed (urlAuthority url.loopbackPrefix value)) := by
  have refused (e : ConfigError) : (Except.error e : Except ConfigError Unit) ≠ .ok () := by
    intro h
    cases h
  rw [validate, validateControlUrl, if_neg insecure, if_neg (by simp)]
  by_cases scheme : url.loopbackPrefix.toList <+: value.toList
  · by_cases userinfo : '@' ∈ urlAuthority url.loopbackPrefix value
    · have rejected : plaintextUrlIsLoopback value url.loopbackPrefix = false := if_pos userinfo
      rw [rejected, if_neg (by simp)]
      refine iff_of_false (refused _) ?_
      intro accepted
      rcases accepted with loopback | ⟨-, free, -⟩
      · exact loopback.noUserinfo userinfo
      · exact free userinfo
    · have host : plaintextUrlIsLoopback value url.loopbackPrefix =
          hostIsLoopback (authorityHost (urlAuthority url.loopbackPrefix value)) :=
        if_neg userinfo
      have accepts := hostIsLoopback_authority (urlAuthority url.loopbackPrefix value)
      rw [← host] at accepts
      have split : (if url.loopbackPrefix.toList <+: value.toList ∧
          plaintextUrlIsLoopback value url.loopbackPrefix = true then
            (.ok () : Except ConfigError Unit)
          else .error (.insecureControlUrl url.field value)) = .ok () ↔
          plaintextUrlIsLoopback value url.loopbackPrefix = true := by
        by_cases passes : plaintextUrlIsLoopback value url.loopbackPrefix = true
        · rw [if_pos ⟨scheme, passes⟩]
          exact iff_of_true rfl passes
        · rw [if_neg fun h => passes h.2]
          exact iff_of_false (refused _) passes
      rw [split, accepts]
      constructor
      · intro either
        rcases either with loopback | misbracketed
        · exact .inl ⟨scheme, userinfo, loopback⟩
        · exact .inr ⟨scheme, userinfo, misbracketed⟩
      · intro either
        rcases either with loopback | ⟨-, -, misbracketed⟩
        · exact .inl loopback.authority
        · exact .inr misbracketed
  · rw [if_neg fun h => scheme h.1]
    refine iff_of_false (refused _) ?_
    intro accepted
    rcases accepted with loopback | ⟨starts, -⟩
    · exact scheme loopback.scheme
    · exact scheme starts

/-- **A plaintext control URL is accepted exactly if it is one of the loopback host**, unless it
begins with a bracket that holds `localhost`, is not closed, or is followed by more than a port. -/
theorem control_url_loopback_iff (url : ControlUrl) (value : String)
    (insecure : ¬ url.securePrefix.toList <+: value.toList) :
    (url.validate value false = .ok () ↔ LoopbackUrl url.loopbackPrefix value) ↔
      ¬ (url.loopbackPrefix.toList <+: value.toList ∧
        '@' ∉ urlAuthority url.loopbackPrefix value ∧
        Misbracketed (urlAuthority url.loopbackPrefix value)) := by
  rw [ControlUrl.validate_ok_iff insecure]
  constructor
  · intro exactly ⟨scheme, userinfo, misbracketed⟩
    have loopback := exactly.mp (.inr ⟨scheme, userinfo, misbracketed⟩)
    exact not_misbracketed loopback.authority misbracketed
  · intro formed
    exact or_iff_left formed

theorem control_url_loopback_iff_default :
    (ControlUrl.http.validate "http://127.0.0.1:3501" false = .ok () ↔
        LoopbackUrl ControlUrl.http.loopbackPrefix "http://127.0.0.1:3501") ↔
      ¬ (ControlUrl.http.loopbackPrefix.toList <+: "http://127.0.0.1:3501".toList ∧
        '@' ∉ urlAuthority ControlUrl.http.loopbackPrefix "http://127.0.0.1:3501" ∧
        Misbracketed (urlAuthority ControlUrl.http.loopbackPrefix "http://127.0.0.1:3501")) :=
  control_url_loopback_iff .http "http://127.0.0.1:3501" (by decide +kernel)

/-- **What follows a bracket is not looked at**: a host name that begins with a loopback address in
brackets is accepted. -/
theorem bracketed_hostname_accepted :
    ControlUrl.http.validate "http://[::1]evil.test:3501" false = .ok () ∧
      ¬ LoopbackUrl ControlUrl.http.loopbackPrefix "http://[::1]evil.test:3501" := by
  have insecure : ¬ ControlUrl.http.securePrefix.toList <+: "http://[::1]evil.test:3501".toList := by
    decide +kernel
  have accepted : ControlUrl.http.validate "http://[::1]evil.test:3501" false = .ok () := by
    decide +kernel
  refine ⟨accepted, fun loopback => ?_⟩
  refine not_misbracketed loopback.authority ?_
  refine ⟨"::1]evil.test:3501".toList, by decide +kernel, .inr ⟨⟨.v6 [0, 0, 0, 0, 0, 0, 0, 1],
    by decide +kernel, rfl⟩, ?_⟩⟩
  intro port after isPort
  have tail : port = "evil.test:3501".toList := by
    have dropped : "::1]evil.test:3501".toList.dropWhile (· ≠ ']') =
        ']' :: "evil.test:3501".toList := by decide +kernel
    rw [dropped] at after
    exact (List.cons.inj after).2.symm
  rw [tail] at isPort
  revert isPort
  unfold Port
  decide +kernel

end Talia
