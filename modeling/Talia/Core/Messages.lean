import Talia.Core.Control

/-!
# Control messages as text

The messages of the control WebSocket are JSON objects that carry their kind in a field `type`
beside their own. A reader takes the fields by name: their order does not matter, and fields it does
not know are skipped, so either side may be newer than the other. It also takes an array of the kind
and the fields' values in order, which nobody writes.

What a text is read as is given exactly (`fromText_eq_some_iff`): the kind and every field are there
once, with a value of their type; only the boot id may be missing or null. To find the kind the
reader builds the whole text first, so a number beyond the range of a double makes it no message,
also in a field that is skipped. So what is written is read as it was sent, also from a text with
more fields or in another order, and no text is read as a message of both directions
(`control_messages_on_the_wire`).
-/

namespace Talia

open Serde

/-! ## Writing -/

/-- The field that carries the kind of a message. -/
def messageTag : String := "type"

/-- What a hello is written as. The boot id is written as null when there is none. -/
def AgentHello.fields (hello : AgentHello) : List (String × Content) :=
  [("agent_id", .str hello.agentId),
    ("hostname", .str hello.hostname),
    ("agent_version", .str hello.agentVersion),
    ("boot_id", hello.bootId.elim .unit .str)]

/-- What a heartbeat is written as. -/
def AgentHeartbeat.fields (heartbeat : AgentHeartbeat) : List (String × Content) :=
  [("agent_id", .str heartbeat.agentId),
    ("hostname", .str heartbeat.hostname),
    ("agent_version", .str heartbeat.agentVersion),
    ("config_version", .str heartbeat.configVersion),
    ("enabled_collectors", .seq (heartbeat.enabledCollectors.map .str))]

namespace AgentControlMessage

/-- The tag comes first, then the fields of the variant. -/
def fields : AgentControlMessage → List (String × Content)
  | .hello greeting => (messageTag, .str "hello") :: greeting.fields
  | .heartbeat report => (messageTag, .str "heartbeat") :: report.fields

def serialize (message : AgentControlMessage) : Content := .map message.fields

def toText (message : AgentControlMessage) : String :=
  Json.printText Json.compact message.serialize

end AgentControlMessage

namespace ServerControlMessage

/-- The server's messages have their tag first, too. -/
def fields : ServerControlMessage → List (String × Content)
  | .helloAck serverTimeUnixSeconds configSessionId =>
    [(messageTag, .str "hello_ack"),
      ("server_time_unix_seconds", u64Content serverTimeUnixSeconds),
      ("config_session_id", .str configSessionId)]
  | .configChanged version => [(messageTag, .str "config_changed"), ("version", .str version)]

def serialize (message : ServerControlMessage) : Content := .map message.fields

def toText (message : ServerControlMessage) : String :=
  Json.printText Json.compact message.serialize

end ServerControlMessage

/-! ## Reading -/

/-- A hello is read off a table or a list. In a table the boot id may be left out, in a list it may
not. -/
def AgentHello.deserialize : Content → Option AgentHello
  | .map es => do
    let agentId ← fieldRequired ["agent_id"] str es
    let hostname ← fieldRequired ["hostname"] str es
    let agentVersion ← fieldRequired ["agent_version"] str es
    let bootId ← fieldOption ["boot_id"] str es
    some ⟨agentId, hostname, agentVersion, bootId⟩
  | .seq [agentId, hostname, agentVersion, bootId] => do
    let agentId ← str agentId
    let hostname ← str hostname
    let agentVersion ← str agentVersion
    let bootId ← option str bootId
    some ⟨agentId, hostname, agentVersion, bootId⟩
  | _ => none

/-- A heartbeat is read off a table or a list, of which nothing may be left out. -/
def AgentHeartbeat.deserialize : Content → Option AgentHeartbeat
  | .map es => do
    let agentId ← fieldRequired ["agent_id"] str es
    let hostname ← fieldRequired ["hostname"] str es
    let agentVersion ← fieldRequired ["agent_version"] str es
    let configVersion ← fieldRequired ["config_version"] str es
    let enabledCollectors ← fieldRequired ["enabled_collectors"] (seqOf str) es
    some ⟨agentId, hostname, agentVersion, configVersion, enabledCollectors⟩
  | .seq [agentId, hostname, agentVersion, configVersion, enabledCollectors] => do
    let agentId ← str agentId
    let hostname ← str hostname
    let agentVersion ← str agentVersion
    let configVersion ← str configVersion
    let enabledCollectors ← seqOf str enabledCollectors
    some ⟨agentId, hostname, agentVersion, configVersion, enabledCollectors⟩
  | _ => none

/-- The tag says which of the two is read off what is left of the table or list. -/
def AgentControlMessage.deserialize (c : Content) : Option AgentControlMessage := do
  let (tag, rest) ← tagged messageTag c
  if tag = "hello" then (AgentHello.deserialize rest).map .hello
  else if tag = "heartbeat" then (AgentHeartbeat.deserialize rest).map .heartbeat
  else none

/-- An acknowledgement is read off a table or a list. -/
def ServerControlMessage.helloAckOf : Content → Option ServerControlMessage
  | .map es => do
    let serverTimeUnixSeconds ← fieldRequired ["server_time_unix_seconds"] u64 es
    let configSessionId ← fieldRequired ["config_session_id"] str es
    some (.helloAck serverTimeUnixSeconds configSessionId)
  | .seq [serverTimeUnixSeconds, configSessionId] => do
    let serverTimeUnixSeconds ← u64 serverTimeUnixSeconds
    let configSessionId ← str configSessionId
    some (.helloAck serverTimeUnixSeconds configSessionId)
  | _ => none

/-- So is a notification. -/
def ServerControlMessage.configChangedOf : Content → Option ServerControlMessage
  | .map es => (fieldRequired ["version"] str es).map .configChanged
  | .seq [version] => (str version).map .configChanged
  | _ => none

/-- The tag says which of the two it is. -/
def ServerControlMessage.deserialize (c : Content) : Option ServerControlMessage := do
  let (tag, rest) ← tagged messageTag c
  if tag = "hello_ack" then helloAckOf rest
  else if tag = "config_changed" then configChangedOf rest
  else none

/-- `serde_json::from_str`, on the server. -/
def AgentControlMessage.fromText (text : String) : Option AgentControlMessage :=
  (Json.parseContent text).bind deserialize

/-- `serde_json::from_str`, in the agent. -/
def ServerControlMessage.fromText (text : String) : Option ServerControlMessage :=
  (Json.parseContent text).bind deserialize

/-! ## What is read -/

/-- The field is there, once, and holds this. -/
def HasField (es : List (String × Content)) (field : String × Content) : Prop :=
  lookup [field.1] es = some (some field.2)

/-- The entries spell the hello: the boot id may also be missing. -/
def AgentHello.Spelled (es : List (String × Content)) (hello : AgentHello) : Prop :=
  (∀ field ∈ hello.fields, field.1 ≠ "boot_id" → HasField es field) ∧
    hello.bootId.elim (lookup ["boot_id"] es = some none ∨ HasField es ("boot_id", .unit))
      fun bootId => HasField es ("boot_id", .str bootId)

/-- The entries spell the message, beside what else they hold. -/
def AgentControlMessage.Spelled (es : List (String × Content)) : AgentControlMessage → Prop
  | .hello greeting => HasField es (messageTag, .str "hello") ∧ greeting.Spelled es
  | .heartbeat report => ∀ field ∈ (heartbeat report).fields, HasField es field

/-- The table has the fields of the message. -/
def ServerControlMessage.Spelled (es : List (String × Content)) (message : ServerControlMessage) :
    Prop :=
  ∀ field ∈ message.fields, HasField es field

/-- The names of a hello's fields. -/
def AgentHello.keys : List String := ["agent_id", "hostname", "agent_version", "boot_id"]

/-- A field that is written has one of the keys. -/
theorem AgentHello.mem_keys (hello : AgentHello) {field : String × Content}
    (mem : field ∈ hello.fields) : field.1 ∈ keys := List.mem_map_of_mem (f := Prod.fst) mem

/-- The names of a heartbeat's fields. -/
def AgentHeartbeat.keys : List String :=
  ["agent_id", "hostname", "agent_version", "config_version", "enabled_collectors"]

/-- So has a field of a heartbeat. -/
theorem AgentHeartbeat.mem_keys (heartbeat : AgentHeartbeat) {field : String × Content}
    (mem : field ∈ heartbeat.fields) : field.1 ∈ keys := List.mem_map_of_mem (f := Prod.fst) mem

section Exact

variable {es : List (String × Content)} {items : List Content}

/-- A table is read as a hello if it spells it. -/
theorem AgentHello.deserialize_map_eq_some_iff {hello : AgentHello} :
    AgentHello.deserialize (.map es) = some hello ↔ hello.Spelled es := by
  obtain ⟨agentId, hostname, agentVersion, bootId⟩ := hello
  have boot : fieldOption ["boot_id"] str es = some bootId ↔ _ :=
    fieldOption_eq_some_iff str_eq_some_iff str_ne_unit
  simp only [AgentHello.deserialize, Option.bind_eq_bind, Option.bind_eq_some_iff,
    fieldRequired_eq_some_iff str_eq_some_iff, Option.some.injEq, AgentHello.mk.injEq,
    AgentHello.Spelled, AgentHello.fields, HasField, List.forall_mem_cons]
  simp [← boot, and_assoc]

/-- In an array the values stand in the order of the fields. -/
theorem AgentHello.deserialize_seq_eq_some_iff {hello : AgentHello} :
    AgentHello.deserialize (.seq items) = some hello ↔ items = hello.fields.map Prod.snd := by
  obtain ⟨agentId, hostname, agentVersion, bootId⟩ := hello
  unfold AgentHello.deserialize
  split
  next h => cases h
  next h =>
    cases h
    simp [Option.bind_eq_some_iff, str_eq_some_iff, option_eq_some_iff str_eq_some_iff str_ne_unit,
      AgentHello.fields]
  next other =>
    refine ⟨fun h => (nomatch h), ?_⟩
    rintro rfl
    exact absurd rfl (other _ _ _ _)

/-- A table is read as a heartbeat if it has the heartbeat's fields. -/
theorem AgentHeartbeat.deserialize_map_eq_some_iff {heartbeat : AgentHeartbeat} :
    AgentHeartbeat.deserialize (.map es) = some heartbeat ↔
      ∀ field ∈ heartbeat.fields, HasField es field := by
  obtain ⟨agentId, hostname, agentVersion, configVersion, enabledCollectors⟩ := heartbeat
  simp only [AgentHeartbeat.deserialize, Option.bind_eq_bind, Option.bind_eq_some_iff,
    fieldRequired_eq_some_iff str_eq_some_iff, fieldRequired_eq_some_iff seqOf_str_eq_some_iff,
    Option.some.injEq, AgentHeartbeat.mk.injEq, AgentHeartbeat.fields, HasField,
    List.forall_mem_cons]
  simp

/-- A list is read as a heartbeat if it has the fields in order. -/
theorem AgentHeartbeat.deserialize_seq_eq_some_iff {heartbeat : AgentHeartbeat} :
    AgentHeartbeat.deserialize (.seq items) = some heartbeat ↔
      items = heartbeat.fields.map Prod.snd := by
  obtain ⟨agentId, hostname, agentVersion, configVersion, enabledCollectors⟩ := heartbeat
  unfold AgentHeartbeat.deserialize
  split
  next h => cases h
  next h =>
    cases h
    simp [Option.bind_eq_some_iff, str_eq_some_iff, seqOf_str_eq_some_iff, AgentHeartbeat.fields]
  next other =>
    refine ⟨fun h => (nomatch h), ?_⟩
    rintro rfl
    exact absurd rfl (other _ _ _ _ _)

/-- A table is read as an acknowledgement if it has the time and the session. -/
theorem ServerControlMessage.helloAckOf_map_eq_some_iff {message : ServerControlMessage} :
    helloAckOf (.map es) = some message ↔ ∃ now configSessionId,
      message = .helloAck now configSessionId ∧
        HasField es ("server_time_unix_seconds", u64Content now) ∧
          HasField es ("config_session_id", .str configSessionId) := by
  have exact (c : Content) (n : UInt64) : u64 c = some n ↔ c = u64Content n := u64_eq_some_iff c n
  simp only [helloAckOf, Option.bind_eq_bind, Option.bind_eq_some_iff, Option.some.injEq,
    fieldRequired_eq_some_iff str_eq_some_iff, fieldRequired_eq_some_iff exact]
  simp [HasField, eq_comm, and_comm, and_assoc]

/-- A list is, if these are its two items. -/
theorem ServerControlMessage.helloAckOf_seq_eq_some_iff {message : ServerControlMessage} :
    helloAckOf (.seq items) = some message ↔ ∃ now configSessionId,
      message = .helloAck now configSessionId ∧ items = [u64Content now, .str configSessionId] := by
  unfold helloAckOf
  split
  next h => cases h
  next h =>
    cases h
    simp only [Option.bind_eq_bind, Option.bind_eq_some_iff, str_eq_some_iff, u64_eq_some_iff]
    simp [u64Content, eq_comm, and_assoc, and_comm]
  next other =>
    refine ⟨fun h => (nomatch h), ?_⟩
    rintro ⟨now, configSessionId, -, rfl⟩
    exact absurd rfl (other _ _)

/-- A table is read as a notification if it has the version. -/
theorem ServerControlMessage.configChangedOf_map_eq_some_iff {message : ServerControlMessage} :
    configChangedOf (.map es) = some message ↔
      ∃ version, message = .configChanged version ∧ HasField es ("version", .str version) := by
  simp only [configChangedOf, Option.map_eq_some_iff, fieldRequired_eq_some_iff str_eq_some_iff]
  simp [HasField, eq_comm, and_comm]

/-- A list is, if the version is its only item. -/
theorem ServerControlMessage.configChangedOf_seq_eq_some_iff {message : ServerControlMessage} :
    configChangedOf (.seq items) = some message ↔
      ∃ version, message = .configChanged version ∧ items = [Content.str version] := by
  unfold configChangedOf
  split
  next h => cases h
  next h =>
    cases h
    simp only [Option.map_eq_some_iff, str_eq_some_iff]
    simp [eq_comm, and_comm]
  next other =>
    refine ⟨fun h => (nomatch h), ?_⟩
    rintro ⟨version, -, rfl⟩
    exact absurd rfl (other _)

end Exact

/-- The tag is out of the way of the fields. -/
theorem hasField_untagged {es : List (String × Content)} {field : String × Content}
    (other : field.1 ≠ messageTag) :
    HasField (es.filter fun e => e.1 ≠ messageTag) field ↔ HasField es field := by
  rw [HasField, HasField, lookup_untagged other]

/-- The tag is no field of a hello. -/
theorem AgentHello.spelled_untagged {es : List (String × Content)} {hello : AgentHello} :
    hello.Spelled (es.filter fun e => e.1 ≠ messageTag) ↔ hello.Spelled es := by
  have boot : lookup ["boot_id"] (es.filter fun e => e.1 ≠ messageTag) = lookup ["boot_id"] es :=
    lookup_untagged (by decide) es
  unfold Spelled
  refine and_congr ?_ ?_
  · refine forall₂_congr fun field mem => imp_congr_right fun _ => hasField_untagged ?_
    exact ne_of_mem_of_not_mem (hello.mem_keys mem) (by decide)
  · cases hello.bootId with
    | none => rw [Option.elim_none, Option.elim_none, HasField, HasField, boot]
    | some bootId => rw [Option.elim_some, Option.elim_some, HasField, HasField, boot]

/-- Nor is it one of a heartbeat. -/
theorem AgentHeartbeat.hasField_untagged {es : List (String × Content)}
    {heartbeat : AgentHeartbeat} :
    (∀ field ∈ heartbeat.fields, HasField (es.filter fun e => e.1 ≠ messageTag) field) ↔
      ∀ field ∈ heartbeat.fields, HasField es field := by
  refine forall₂_congr fun field mem => Talia.hasField_untagged ?_
  exact ne_of_mem_of_not_mem (heartbeat.mem_keys mem) (by decide)

/-- What is read as a hello is tagged as one. -/
theorem AgentControlMessage.deserialize_hello_iff {c : Content} {greeting : AgentHello} :
    deserialize c = some (.hello greeting) ↔ ∃ rest, tagged messageTag c = some ("hello", rest) ∧
      AgentHello.deserialize rest = some greeting := by
  constructor
  · intro h
    obtain ⟨⟨tag, rest⟩, tagged, read⟩ := Option.bind_eq_some_iff.mp h
    dsimp only at read
    split_ifs at read with kind kind'
    · subst kind
      obtain ⟨greeting', read, same⟩ := Option.map_eq_some_iff.mp read
      cases same
      exact ⟨rest, tagged, read⟩
    · obtain ⟨report, -, same⟩ := Option.map_eq_some_iff.mp read
      cases same
  · rintro ⟨rest, tagged, read⟩
    simp [deserialize, tagged, read]

/-- What is read as a heartbeat is tagged as one. -/
theorem AgentControlMessage.deserialize_heartbeat_iff {c : Content} {report : AgentHeartbeat} :
    deserialize c = some (.heartbeat report) ↔
      ∃ rest, tagged messageTag c = some ("heartbeat", rest) ∧
        AgentHeartbeat.deserialize rest = some report := by
  constructor
  · intro h
    obtain ⟨⟨tag, rest⟩, tagged, read⟩ := Option.bind_eq_some_iff.mp h
    dsimp only at read
    split_ifs at read with kind kind'
    · obtain ⟨greeting, -, same⟩ := Option.map_eq_some_iff.mp read
      cases same
    · subst kind'
      obtain ⟨report', read, same⟩ := Option.map_eq_some_iff.mp read
      cases same
      exact ⟨rest, tagged, read⟩
  · rintro ⟨rest, tagged, read⟩
    simp [deserialize, tagged, read]

/-- What is read as a message of the server is tagged as one of the two. -/
theorem ServerControlMessage.deserialize_iff {c : Content} {message : ServerControlMessage} :
    deserialize c = some message ↔
      (∃ rest, tagged messageTag c = some ("hello_ack", rest) ∧ helloAckOf rest = some message) ∨
      ∃ rest, tagged messageTag c = some ("config_changed", rest) ∧
        configChangedOf rest = some message := by
  constructor
  · intro h
    obtain ⟨⟨tag, rest⟩, tagged, read⟩ := Option.bind_eq_some_iff.mp h
    dsimp only at read
    split_ifs at read with kind kind'
    · subst kind
      exact .inl ⟨rest, tagged, read⟩
    · subst kind'
      exact .inr ⟨rest, tagged, read⟩
  · rintro (⟨rest, tagged, read⟩ | ⟨rest, tagged, read⟩)
    · simp [deserialize, tagged, read]
    · simp [deserialize, tagged, read]

/-- **What an agent's message is read from.** -/
theorem AgentControlMessage.deserialize_eq_some_iff {c : Content} {message : AgentControlMessage} :
    deserialize c = some message ↔
      (∃ es, c = .map es ∧ message.Spelled es) ∨ c = .seq (message.fields.map Prod.snd) := by
  cases message with
  | hello greeting =>
    simp only [deserialize_hello_iff, exists_tagged_iff, AgentHello.deserialize_map_eq_some_iff,
      AgentHello.deserialize_seq_eq_some_iff, AgentHello.spelled_untagged, Spelled, HasField,
      fields, List.map_cons, exists_eq_right]
  | heartbeat report =>
    simp only [deserialize_heartbeat_iff, exists_tagged_iff,
      AgentHeartbeat.deserialize_map_eq_some_iff, AgentHeartbeat.deserialize_seq_eq_some_iff,
      AgentHeartbeat.hasField_untagged, Spelled, fields, List.map_cons, List.forall_mem_cons,
      exists_eq_right]
    rfl

/-- **What a server's message is read from.** -/
theorem ServerControlMessage.deserialize_eq_some_iff {c : Content}
    {message : ServerControlMessage} :
    deserialize c = some message ↔
      (∃ es, c = .map es ∧ message.Spelled es) ∨ c = .seq (message.fields.map Prod.snd) := by
  have untagged {name : String} (other : name ≠ messageTag) (es : List (String × Content))
      (c : Content) : HasField (es.filter fun e => e.1 ≠ messageTag) (name, c) ↔
        HasField es (name, c) := hasField_untagged other
  have time := untagged (by decide : "server_time_unix_seconds" ≠ messageTag)
  have session := untagged (by decide : "config_session_id" ≠ messageTag)
  have version := untagged (by decide : "version" ≠ messageTag)
  simp only [deserialize_iff, exists_tagged_iff, helloAckOf_map_eq_some_iff,
    helloAckOf_seq_eq_some_iff, configChangedOf_map_eq_some_iff, configChangedOf_seq_eq_some_iff,
    time, session, version]
  cases message with
  | helloAck now configSessionId => simp [Spelled, fields, HasField]
  | configChanged version => simp [Spelled, fields, HasField]

/-! ## What is written is read -/

/-- Entries that carry the fields hold them. -/
theorem hasField_of_carries {es fields : List (String × Content)}
    (carries : Carries (fields.map Prod.fst) es fields) (distinct : (fields.map Prod.fst).Nodup) :
    ∀ field ∈ fields, HasField es field := by
  intro field mem
  rw [HasField, carries.lookup_eq (List.mem_map_of_mem mem), lookup_of_mem distinct mem]

/-- A table that carries the fields of a message, and maybe others, spells it. -/
theorem AgentControlMessage.spelled_of_carries {es : List (String × Content)}
    {message : AgentControlMessage}
    (carries : Carries (message.fields.map Prod.fst) es message.fields) : message.Spelled es := by
  cases message with
  | hello greeting =>
    have holds := hasField_of_carries carries (by decide : (messageTag :: AgentHello.keys).Nodup)
    obtain ⟨named, holds⟩ := List.forall_mem_cons.mp holds
    have boot : HasField es ("boot_id", greeting.bootId.elim .unit .str) :=
      holds _ (by simp [AgentHello.fields])
    refine ⟨named, fun field mem _ => holds field mem, ?_⟩
    cases known : greeting.bootId with
    | none =>
      rw [known] at boot
      exact .inr boot
    | some bootId =>
      rw [known] at boot
      exact boot
  | heartbeat report =>
    exact hasField_of_carries carries (by decide : (messageTag :: AgentHeartbeat.keys).Nodup)

/-- So it does for a message of the server. -/
theorem ServerControlMessage.spelled_of_carries {es : List (String × Content)}
    {message : ServerControlMessage}
    (carries : Carries (message.fields.map Prod.fst) es message.fields) : message.Spelled es := by
  refine hasField_of_carries carries ?_
  cases message with
  | helloAck now configSessionId =>
    exact (by decide : [messageTag, "server_time_unix_seconds", "config_session_id"].Nodup)
  | configChanged version => exact (by decide : [messageTag, "version"].Nodup)

/-- **The texts read as a message** are those of a table that spells it, and those of the list of
its fields after the tag. -/
theorem AgentControlMessage.fromText_eq_some_iff {text : String} {message : AgentControlMessage} :
    fromText text = some message ↔
      (∃ es, Json.parseContent text = some (.map es) ∧ message.Spelled es) ∨
        Json.parseContent text = some (.seq (message.fields.map Prod.snd)) := by
  simp only [fromText, Option.bind_eq_some_iff, deserialize_eq_some_iff]
  constructor
  · rintro ⟨c, parsed, ⟨es, rfl, spelled⟩ | rfl⟩
    · exact .inl ⟨es, parsed, spelled⟩
    · exact .inr parsed
  · rintro (⟨es, parsed, spelled⟩ | parsed)
    · exact ⟨_, parsed, .inl ⟨es, rfl, spelled⟩⟩
    · exact ⟨_, parsed, .inr rfl⟩

/-- So they are for a message of the server. -/
theorem ServerControlMessage.fromText_eq_some_iff {text : String} {message : ServerControlMessage} :
    fromText text = some message ↔
      (∃ es, Json.parseContent text = some (.map es) ∧ message.Spelled es) ∨
        Json.parseContent text = some (.seq (message.fields.map Prod.snd)) := by
  simp only [fromText, Option.bind_eq_some_iff, deserialize_eq_some_iff]
  constructor
  · rintro ⟨c, parsed, ⟨es, rfl, spelled⟩ | rfl⟩
    · exact .inl ⟨es, parsed, spelled⟩
    · exact .inr parsed
  · rintro (⟨es, parsed, spelled⟩ | parsed)
    · exact ⟨_, parsed, .inl ⟨es, rfl, spelled⟩⟩
    · exact ⟨_, parsed, .inr rfl⟩

/-- The kind of what is read as a message. -/
theorem AgentControlMessage.tagged_of_deserialize {c : Content} {message : AgentControlMessage}
    (read : deserialize c = some message) :
    ∃ tag ∈ ["hello", "heartbeat"], ∃ rest, tagged messageTag c = some (tag, rest) := by
  cases message with
  | hello greeting =>
    obtain ⟨rest, tagged, -⟩ := deserialize_hello_iff.mp read
    exact ⟨"hello", by simp, rest, tagged⟩
  | heartbeat report =>
    obtain ⟨rest, tagged, -⟩ := deserialize_heartbeat_iff.mp read
    exact ⟨"heartbeat", by simp, rest, tagged⟩

/-- What is read as a message has one of the two tags. -/
theorem ServerControlMessage.tagged_of_deserialize {c : Content} {message : ServerControlMessage}
    (read : deserialize c = some message) :
    ∃ tag ∈ ["hello_ack", "config_changed"], ∃ rest, tagged messageTag c = some (tag, rest) := by
  rcases deserialize_iff.mp read with ⟨rest, tagged, -⟩ | ⟨rest, tagged, -⟩
  · exact ⟨"hello_ack", by simp, rest, tagged⟩
  · exact ⟨"config_changed", by simp, rest, tagged⟩

/-- Nothing is read as a message of both directions. -/
theorem deserialize_one_direction (c : Content) :
    AgentControlMessage.deserialize c = none ∨ ServerControlMessage.deserialize c = none := by
  cases read : AgentControlMessage.deserialize c with
  | none => exact .inl rfl
  | some message =>
    cases read' : ServerControlMessage.deserialize c with
    | none => exact .inr rfl
    | some message' =>
      obtain ⟨tag, known, rest, tagged⟩ := AgentControlMessage.tagged_of_deserialize read
      obtain ⟨tag', known', rest', tagged'⟩ := ServerControlMessage.tagged_of_deserialize read'
      cases tagged.symm.trans tagged'
      have apart : ∀ tag ∈ ["hello", "heartbeat"], tag ∉ ["hello_ack", "config_changed"] := by
        decide
      exact absurd known' (apart tag known)

/-! ## Over the wire -/

open Json

/-- A message is within the reader's limits of depth and range. -/
theorem AgentControlMessage.serialize_fits (message : AgentControlMessage) :
    Fits depthLimit message.serialize := by
  refine .map fun field mem => ?_
  cases message with
  | hello greeting =>
    simp only [fields, AgentHello.fields, List.mem_cons, List.not_mem_nil, or_false] at mem
    rcases mem with rfl | rfl | rfl | rfl | rfl
    · exact .str _
    · exact .str _
    · exact .str _
    · exact .str _
    · cases greeting.bootId with
      | none => exact .unit
      | some bootId => exact .str _
  | heartbeat report =>
    simp only [fields, AgentHeartbeat.fields, List.mem_cons, List.not_mem_nil, or_false] at mem
    rcases mem with rfl | rfl | rfl | rfl | rfl | rfl
    · exact .str _
    · exact .str _
    · exact .str _
    · exact .str _
    · exact .str _
    · refine .seq fun item mem => ?_
      obtain ⟨collector, -, rfl⟩ := List.mem_map.mp mem
      exact .str collector

/-- So is a message of the server. -/
theorem ServerControlMessage.serialize_fits (message : ServerControlMessage) :
    Fits depthLimit message.serialize := by
  refine .map fun field mem => ?_
  cases message with
  | helloAck now configSessionId =>
    simp only [fields, List.mem_cons, List.not_mem_nil, or_false] at mem
    rcases mem with rfl | rfl | rfl
    · exact .str _
    · exact u64Content_fits _
    · exact .str _
  | configChanged version =>
    simp only [fields, List.mem_cons, List.not_mem_nil, or_false] at mem
    rcases mem with rfl | rfl
    · exact .str _
    · exact .str _

/-- A text that carries an agent's message, whatever else it carries, is read as it. -/
theorem AgentControlMessage.fromText_of_carries {es : List (String × Content)} {layout : Layout}
    {message : AgentControlMessage} (blank : layout.Blank) (fits : Fits depthLimit (.map es))
    (carries : Carries (message.fields.map Prod.fst) es message.fields) :
    fromText (printText layout (.map es)) = some message :=
  fromText_eq_some_iff.mpr (.inl ⟨es, parseContent_printText blank fits, spelled_of_carries carries⟩)

/-- In any layout, a text that carries the fields of a message is read as it. -/
theorem ServerControlMessage.fromText_of_carries {es : List (String × Content)} {layout : Layout}
    {message : ServerControlMessage} (blank : layout.Blank) (fits : Fits depthLimit (.map es))
    (carries : Carries (message.fields.map Prod.fst) es message.fields) :
    fromText (printText layout (.map es)) = some message :=
  fromText_eq_some_iff.mpr (.inl ⟨es, parseContent_printText blank fits, spelled_of_carries carries⟩)

/-- What an agent writes, the server reads. -/
theorem AgentControlMessage.fromText_toText (message : AgentControlMessage) :
    fromText message.toText = some message :=
  fromText_of_carries compact_blank message.serialize_fits (carries_self _ _)

/-- What the server writes, an agent reads. -/
theorem ServerControlMessage.fromText_toText (message : ServerControlMessage) :
    fromText message.toText = some message :=
  fromText_of_carries compact_blank message.serialize_fits (carries_self _ _)

/-- **Control messages on the wire.** A text is read as a message exactly when it is an object that
holds the kind and the fields of the message, each once (the boot id of a hello may be missing or
null), or an array of their values in order, without a number beyond the range of a double. What
either side writes is read as it was sent, also when the object has its fields in another order or
holds more of them. And no text is read as a message of both directions. -/
theorem control_messages_on_the_wire :
    (∀ text message, AgentControlMessage.fromText text = some message ↔
      (∃ es, parseContent text = some (.map es) ∧ message.Spelled es) ∨
        parseContent text = some (.seq (message.fields.map Prod.snd))) ∧
    (∀ text message, ServerControlMessage.fromText text = some message ↔
      (∃ es, parseContent text = some (.map es) ∧ message.Spelled es) ∨
        parseContent text = some (.seq (message.fields.map Prod.snd))) ∧
    (∀ message : AgentControlMessage, AgentControlMessage.fromText message.toText = some message ∧
      ∀ es layout, layout.Blank → Fits depthLimit (.map es) →
        Carries (message.fields.map Prod.fst) es message.fields →
          AgentControlMessage.fromText (printText layout (.map es)) = some message) ∧
    (∀ message : ServerControlMessage, ServerControlMessage.fromText message.toText = some message ∧
      ∀ es layout, layout.Blank → Fits depthLimit (.map es) →
        Carries (message.fields.map Prod.fst) es message.fields →
          ServerControlMessage.fromText (printText layout (.map es)) = some message) ∧
    ∀ text,
      AgentControlMessage.fromText text = none ∨ ServerControlMessage.fromText text = none := by
  refine ⟨fun _ _ => AgentControlMessage.fromText_eq_some_iff,
    fun _ _ => ServerControlMessage.fromText_eq_some_iff,
    fun message => ⟨message.fromText_toText,
      fun _ _ blank fits => AgentControlMessage.fromText_of_carries blank fits⟩,
    fun message => ⟨message.fromText_toText,
      fun _ _ blank fits => ServerControlMessage.fromText_of_carries blank fits⟩, ?_⟩
  intro text
  unfold AgentControlMessage.fromText ServerControlMessage.fromText
  cases parseContent text with
  | none => exact .inl rfl
  | some c => exact deserialize_one_direction c

-- A field the reader skips is read all the same.
example : (["1e308", "1e309"].map fun load => (AgentControlMessage.fromText
      ("\x7b\"type\":\"hello\",\"agent_id\":\"agent-1\",\"hostname\":\"host-1\"," ++
        "\"agent_version\":\"0.2.0\",\"load\":" ++ load ++ "\x7d")).isSome) = [true, false] := by
  decide +kernel

/-- A hello of a newer agent: its fields the other way round, and one more. -/
theorem control_messages_on_the_wire_newer :
    AgentControlMessage.fromText (printText pretty (.map [("os", .str "linux"), ("boot_id", .unit),
      ("agent_version", .str "0.2.0"), ("hostname", .str "host-1"), ("agent_id", .str "agent-1"),
      ("type", .str "hello")])) = some (.hello ⟨"agent-1", "host-1", "0.2.0", none⟩) := by
  refine (control_messages_on_the_wire.2.2.1 _).2 _ _ pretty_blank ?_ ?_
  · refine .map fun field mem => ?_
    simp only [List.mem_cons, List.not_mem_nil, or_false] at mem
    rcases mem with rfl | rfl | rfl | rfl | rfl | rfl
    · exact .str _
    · exact .unit
    · exact .str _
    · exact .str _
    · exact .str _
    · exact .str _
  · let message : AgentControlMessage := .hello ⟨"agent-1", "host-1", "0.2.0", none⟩
    have perm : (message.fields ++ [("os", Content.str "linux")]).reverse.Perm
        (message.fields ++ [("os", Content.str "linux")]) := List.reverse_perm _
    refine ⟨[("os", .str "linux")], perm, ?_⟩
    intro e mem
    rw [List.mem_singleton.mp mem]
    exact (by decide : "os" ∉ messageTag :: AgentHello.keys)

end Talia
