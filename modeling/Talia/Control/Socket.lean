import Talia.Control.Sessions
import Talia.Core.Messages
import Talia.Lib.Broadcast

/-!
# The server's sockets

`Server` takes messages; what arrives on a WebSocket is frames, and what the server writes is texts.
`Sockets` is the server with its sockets: a connection's task waits for a frame or for the next
notification, whichever comes first. A text that no message is read from ends the connection, as a
close frame does; pings, pongs and binary frames are skipped. Each task reads the notifications of
all reloads from a receiver of its own, a bounded broadcast channel.

Every run of the sockets is a run of the server on the messages read (`server_run`), and what an
agent reads is what the server sends to it, and notifications (`sockets_refine`). A write that fails
or waits for the other side is not modelled, nor is anything below the frames.
-/

namespace Talia

/-- A WebSocket message as it arrives. -/
inductive Frame where
  | text (text : String)
  | close
  /-- A ping, a pong or a binary message. -/
  | ignored

structure Sockets where
  server : Server
  /-- The cursor of each connection's receiver. -/
  next : String → ℕ
  /-- The texts written on each connection, oldest first. -/
  written : String → List String

/-- The server at startup. -/
def Sockets.init (config : LoadedControlConfig) : Sockets :=
  ⟨Server.init config, fun _ => 0, fun _ => []⟩

inductive SocketEvent where
  | agentControl (connectionId : String) (headers : HeaderMap)
  | frame (connectionId : String) (frame : Frame) (now : UInt64)
  | register (connectionId : String) (now : UInt64)
  /-- The task takes what its receiver has. -/
  | notification (connectionId : String)
  /-- The peer is gone: reading or writing fails. -/
  | failed (connectionId : String)
  /-- A step of the server that concerns no socket. -/
  | server (event : ServerEvent)

/-- The steps that neither read nor write a socket. -/
def ServerEvent.offSocket : ServerEvent → Bool
  | .removeAgent .. | .agentConfig .. | .agentConfigRead .. | .adminAgents .. => true
  | .reload .. | .reloadSwap .. | .reloadCount .. | .reloadNotify .. => true
  | .agentControl .. | .hello .. | .register .. | .heartbeat .. | .socketEnd .. => false

/-- The notifications the channel is asked to keep. -/
def notificationCapacity : ℕ := 128

/-- What is fixed while the server runs, with the channel that the notifications are broadcast on:
what a receiver is given, by the notifications sent and the receiver's cursor. The server holds a
sender itself, so the channel is not closed while a task reads from it. -/
structure SocketEnv extends Env where
  recv : List ServerControlMessage → ℕ → Broadcast.Received ServerControlMessage

namespace Sockets

open Transition

variable (env : SocketEnv)

/-- A message is written on a connection. -/
def send (s : Sockets) (connectionId : String) (message : ServerControlMessage) : Sockets :=
  { s with
    written := Function.update s.written connectionId
      (s.written connectionId ++ [message.toText]) }

/-- A receiver passes notifications. -/
def pass (s : Sockets) (connectionId : String) (count : ℕ) : Sockets :=
  { s with next := Function.update s.next connectionId (s.next connectionId + count) }

/-- A step of the server. -/
def serve (s : Sockets) (e : ServerEvent) : Sockets :=
  { s with server := Server.step env.toEnv s.server e }

def step (s : Sockets) : SocketEvent → Sockets
  | .agentControl connectionId headers =>
    match s.server.connections connectionId with
    | some _ => s
    | none =>
      { s.serve env (.agentControl connectionId headers) with
        next := Function.update s.next connectionId s.server.notifications.length }
  | .frame connectionId (.text text) now =>
    match AgentControlMessage.fromText text with
    | some (.hello greeting) => s.serve env (.hello connectionId greeting)
    | some (.heartbeat report) => s.serve env (.heartbeat connectionId report now)
    | none => s.serve env (.socketEnd connectionId)
  | .frame connectionId .close _ => s.serve env (.socketEnd connectionId)
  | .frame _ .ignored _ => s
  | .register connectionId now =>
    match Server.answer env.toEnv s.server (.register connectionId now) with
    | some (.message message) =>
      (s.serve env (.register connectionId now)).send connectionId message
    | _ => s.serve env (.register connectionId now)
  | .notification connectionId =>
    match s.server.connections connectionId with
    | some ⟨_, _, senderClosed, .reading⟩ =>
      match env.recv s.server.notifications (s.next connectionId) with
      | .empty => s
      | .lagged skipped => s.pass connectionId skipped
      | .value message =>
        -- Where the sending half is closed, writing fails and ends the socket.
        if senderClosed then s.serve env (.socketEnd connectionId)
        else (s.pass connectionId 1).send connectionId message
    | _ => s
  | .failed connectionId => s.serve env (.socketEnd connectionId)
  | .server e => if e.offSocket then s.serve env e else s

/-! ## The server below -/

/-- The task of the connection is about to write on a sending half that is closed. -/
def writesClosed (s : Sockets) (connectionId : String) : Bool :=
  match s.server.connections connectionId with
  | some ⟨_, _, true, .reading⟩ =>
    match env.recv s.server.notifications (s.next connectionId) with
    | .value _ => true
    | .empty | .lagged _ => false
  | _ => false

/-- What an event of the sockets is to the server, if it is anything. -/
def label (s : Sockets) : SocketEvent → Option ServerEvent
  | .agentControl connectionId headers => some (.agentControl connectionId headers)
  | .frame connectionId (.text text) now =>
    match AgentControlMessage.fromText text with
    | some (.hello greeting) => some (.hello connectionId greeting)
    | some (.heartbeat report) => some (.heartbeat connectionId report now)
    | none => some (.socketEnd connectionId)
  | .frame connectionId .close _ => some (.socketEnd connectionId)
  | .frame _ .ignored _ => none
  | .register connectionId now => some (.register connectionId now)
  | .notification connectionId =>
    if s.writesClosed env connectionId then some (.socketEnd connectionId) else none
  | .failed connectionId => some (.socketEnd connectionId)
  | .server e => if e.offSocket then some e else none

@[simp] theorem send_server (s : Sockets) (connectionId : String) (message : ServerControlMessage) :
    (s.send connectionId message).server = s.server := rfl

@[simp] theorem send_next (s : Sockets) (connectionId : String) (message : ServerControlMessage) :
    (s.send connectionId message).next = s.next := rfl

@[simp] theorem pass_server (s : Sockets) (connectionId : String) (count : ℕ) :
    (s.pass connectionId count).server = s.server := rfl

@[simp] theorem pass_written (s : Sockets) (connectionId : String) (count : ℕ) :
    (s.pass connectionId count).written = s.written := rfl

@[simp] theorem serve_server (s : Sockets) (e : ServerEvent) :
    (s.serve env e).server = Server.step env.toEnv s.server e := rfl

@[simp] theorem serve_next (s : Sockets) (e : ServerEvent) : (s.serve env e).next = s.next := rfl

@[simp] theorem serve_written (s : Sockets) (e : ServerEvent) :
    (s.serve env e).written = s.written := rfl

/-- A message is written to its own connection. -/
theorem send_written (s : Sockets) (connectionId id : String) (message : ServerControlMessage) :
    (s.send connectionId message).written id =
      if id = connectionId then s.written id ++ [message.toText] else s.written id := by
  simp only [send, Function.update_apply]
  split
  next same => rw [same]
  next => rfl

/-- A connection passes its own notifications only. -/
theorem pass_next (s : Sockets) (connectionId id : String) (count : ℕ) :
    (s.pass connectionId count).next id =
      if id = connectionId then s.next id + count else s.next id := by
  simp only [pass, Function.update_apply]
  split
  next same => rw [same]
  next => rfl

variable {env}

/-- **A step of the sockets is a step of the server, or the server does not see it.** -/
theorem step_server (s : Sockets) (e : SocketEvent) :
    (step env s e).server = (label env s e).elim s.server (Server.step env.toEnv s.server) := by
  cases e with
  | agentControl connectionId headers =>
    rw [step, label, Option.elim_some]
    split
    next found => simp only [Server.step, found]
    next => rfl
  | frame connectionId frame now =>
    cases frame with
    | text text =>
      rw [step, label]
      split <;> rfl
    | close => rfl
    | ignored => rfl
  | register connectionId now =>
    rw [step, label, Option.elim_some]
    split <;> rfl
  | notification connectionId =>
    rw [step, label, writesClosed]
    cases found : s.server.connections connectionId with
    | none => rfl
    | some connection =>
      obtain ⟨token, current, senderClosed, phase⟩ := connection
      cases phase with
      | reading =>
        cases env.recv s.server.notifications (s.next connectionId) with
        | empty => cases senderClosed <;> rfl
        | lagged skipped => cases senderClosed <;> rfl
        | value message => cases senderClosed <;> rfl
      | _ => cases senderClosed <;> rfl
  | failed connectionId => rfl
  | server e =>
    rw [step, label]
    cases e.offSocket <;> rfl

/-- **Every run of the sockets is a run of the server**, on what it makes of the frames. -/
theorem server_run (s : Sockets) (es : List SocketEvent) :
    (run (step env) s es).server =
      run (Server.step env.toEnv) s.server (outputs (step env) (label env) s es) :=
  run_refines (R := fun s t => s.server = t) (C := fun _ _ => True)
    (fun s t e same _ => by rw [step_server, same]) rfl (stepsMeet_true _ s es)

/-! ## What the server sends -/

end Sockets

namespace Server

variable {env : Env}

/-- The notification a step broadcasts. -/
def broadcasts (s : Server) : ServerEvent → Option ServerControlMessage
  | .reloadNotify id =>
    match s.reloads id with
    | some (.counted version _) => some (.configChanged version)
    | _ => none
  | _ => none

/-- The notifications are those that were broadcast, in order. -/
theorem notifications_step (s : Server) (e : ServerEvent) :
    (step env s e).notifications = s.notifications ++ (s.broadcasts e).toList := by
  by_cases notify : ∃ id, e = .reloadNotify id
  · obtain ⟨id, rfl⟩ := notify
    cases found : s.reloads id with
    | some reload => cases reload <;> simp [step, broadcasts, found, setReload]
    | none => simp [step, broadcasts, found]
  · have silent : s.broadcasts e = none := by
      cases e with
      | reloadNotify id => exact absurd ⟨id, rfl⟩ notify
      | _ => rfl
    rw [silent, Option.toList_none, List.append_nil]
    rcases step_acts env s e with same | acts
    · rw [same]
    generalize step env s e = s' at acts
    cases acts with
    | notified => exact absurd ⟨_, rfl⟩ notify
    | _ => rfl

/-- The message that a step sends to the agent of a connection. -/
def sends (env : Env) (connectionId : String) (s : Server) (e : ServerEvent) :
    Option ServerControlMessage :=
  if e.connection = some connectionId then
    match answer env s e with
    | some (.message message) => some message
    | _ => none
  else none

/-- The only message sent so acknowledges a hello. -/
theorem sends_eq_some {connectionId : String} {s : Server} {e : ServerEvent}
    {message : ServerControlMessage} (sent : sends env connectionId s e = some message) :
    ∃ now, e = .register connectionId now ∧ message = .helloAck now connectionId := by
  unfold sends at sent
  split at sent
  next own =>
    cases e with
    | register id now =>
      cases own
      simp only [answer] at sent
      split at sent
      next answered =>
        split at answered
        next =>
          split at answered
          next =>
            split at answered
            next => cases answered
            next =>
              cases answered
              cases sent
              exact ⟨now, rfl, rfl⟩
          next => cases answered
        next => cases answered
      next => cases sent
    | hello id hello =>
      simp only [answer] at sent
      split at sent
      next answered => split at answered <;> [split at answered <;> cases answered; cases answered]
      next => cases sent
    | agentControl id headers =>
      simp only [answer] at sent
      split at sent
      next answered => split at answered <;> cases answered
      next => cases sent
    | heartbeat | socketEnd | removeAgent => cases sent
    | _ => cases own
  next => cases sent

/-- Every notification tells of a change. -/
def Announces (s : Server) : Prop :=
  ∀ message ∈ s.notifications, ∃ version, message = .configChanged version

/-- Whatever a step broadcasts tells of a change. -/
theorem announces_step (s : Server) (e : ServerEvent) (inv : s.Announces) :
    (step env s e).Announces := by
  intro message mem
  rw [notifications_step, List.mem_append, Option.mem_toList] at mem
  rcases mem with mem | sent
  · exact inv message mem
  · unfold broadcasts at sent
    split at sent
    next =>
      split at sent
      next => exact ⟨_, (Option.some.inj sent).symm⟩
      next => cases sent
    next => cases sent

/-- The connection was opened. -/
def Opened (connectionId : String) (s : Server) : Prop := s.connections connectionId ≠ none

/-- The connection has stopped reading. -/
def Stopped (connectionId : String) (s : Server) : Prop :=
  ∃ connection, s.connections connectionId = some connection ∧
    (connection.phase = .ended ∨ connection.phase = .closed)

/-- What a step makes of a connection: only its own events change one that is there. -/
theorem connection_frame (env : Env) (s : Server) (e : ServerEvent) {connectionId : String}
    {connection : Connection} (found : s.connections connectionId = some connection) :
    (step env s e).connections connectionId = some connection ∨
      e.connection = some connectionId ∧ connection.phase ≠ .closed ∧
        ∃ after, (step env s e).connections connectionId = some after ∧
          (connection.phase = .ended → after.phase = .closed) := by
  rcases step_acts env s e with same | acts
  · rw [same]
    exact .inl found
  generalize step env s e = s' at acts
  -- A step that replaces a connection replaces this one or leaves it.
  have own {id : String} {t : Server} {before after : Connection}
      (same : t.connections = s.connections) (there : s.connections id = some before)
      (event : e.connection = some id) (alive : before.phase ≠ .closed)
      (closes : before.phase = .ended → after.phase = .closed) :
      (t.setConnection id after).connections connectionId = some connection ∨
        e.connection = some connectionId ∧ connection.phase ≠ .closed ∧
          ∃ after', (t.setConnection id after).connections connectionId = some after' ∧
            (connection.phase = .ended → after'.phase = .closed) := by
    rw [setConnection_connections, same]
    by_cases it : connectionId = id
    · subst it
      rw [if_pos rfl]
      cases found.symm.trans there
      exact .inr ⟨event, alive, after, rfl, closes⟩
    · rw [if_neg it]
      exact .inl found
  cases acts with
  | @opened id _ fresh =>
    refine .inl ?_
    rw [setConnection_connections, if_neg, found]
    rintro rfl
    rw [fresh] at found
    cases found
  | accepted there => exact own rfl there rfl (by rintro ⟨⟩) (by rintro ⟨⟩)
  | refused there => exact own rfl there rfl (by rintro ⟨⟩) (by rintro ⟨⟩)
  | registered there => exact own rfl there rfl (by rintro ⟨⟩) (by rintro ⟨⟩)
  | duplicate there => exact own rfl there rfl (by rintro ⟨⟩) (by rintro ⟨⟩)
  | ended there => exact own rfl there rfl (by rintro ⟨⟩) (by rintro ⟨⟩)
  | removed there => exact own rfl there rfl (by rintro ⟨⟩) (fun _ => rfl)
  | _ => exact .inl found

/-- A connection that was opened stays so. -/
theorem opened_step (connectionId : String) (s : Server) (e : ServerEvent)
    (opened : s.Opened connectionId) : (step env s e).Opened connectionId := by
  obtain ⟨connection, found⟩ := Option.ne_none_iff_exists'.mp opened
  rcases connection_frame env s e found with same | ⟨-, -, after, there, -⟩
  · exact Option.ne_none_iff_exists'.mpr ⟨_, same⟩
  · exact Option.ne_none_iff_exists'.mpr ⟨_, there⟩

/-- A connection that has stopped stays so. -/
theorem stopped_step (connectionId : String) (s : Server) (e : ServerEvent)
    (stopped : s.Stopped connectionId) : (step env s e).Stopped connectionId := by
  obtain ⟨connection, found, phase⟩ := stopped
  rcases connection_frame env s e found with same | ⟨-, alive, after, there, closes⟩
  · exact ⟨connection, same, phase⟩
  · exact ⟨after, there, .inr (closes (phase.resolve_right alive))⟩

end Server

/-! ## What an agent reads -/

/-- The message tells of a change of the configuration. -/
def ServerControlMessage.isNotification : ServerControlMessage → Bool
  | .configChanged _ => true
  | .helloAck .. => false

namespace Sockets

open Transition

variable {env : SocketEnv}

/-- What the agent of a connection reads, oldest first. -/
def read (s : Sockets) (connectionId : String) : List ServerControlMessage :=
  (s.written connectionId).filterMap ServerControlMessage.fromText

/-- The acknowledgements among it. -/
def acknowledged (s : Sockets) (connectionId : String) : List ServerControlMessage :=
  (s.read connectionId).filter (!·.isNotification)

/-- The notifications among it. -/
def notified (s : Sockets) (connectionId : String) : List ServerControlMessage :=
  (s.read connectionId).filter (·.isNotification)

/-- The notification that the task of a connection is to write, if its sending half is open. -/
def receives (env : SocketEnv) (s : Sockets) (connectionId : String) : Option ServerControlMessage :=
  match s.server.connections connectionId with
  | some ⟨_, _, false, .reading⟩ =>
    match env.recv s.server.notifications (s.next connectionId) with
    | .value message => some message
    | .empty | .lagged _ => none
  | _ => none

/-- The notification that a step writes on a connection. -/
def notifies (env : SocketEnv) (connectionId : String) (s : Sockets) :
    SocketEvent → Option ServerControlMessage
  | .notification id => if id = connectionId then s.receives env id else none
  | _ => none

/-- What a step writes on a connection. -/
def writes (env : SocketEnv) (connectionId : String) (s : Sockets) :
    SocketEvent → Option ServerControlMessage
  | .register id now => Server.sends env.toEnv connectionId s.server (.register id now)
  | e => notifies env connectionId s e

variable {kept : ℕ}

/-- What is received was broadcast. -/
theorem mem_of_receives (lawful : Broadcast.Lawful kept env.recv) {s : Sockets}
    {connectionId : String} {message : ServerControlMessage}
    (received : s.receives env connectionId = some message) : message ∈ s.server.notifications := by
  unfold receives at received
  split at received
  next =>
    split at received
    next found =>
      cases received
      exact lawful.mem found
    next => cases received
    next => cases received
  next => cases received

/-- A step writes to a connection the texts of the messages it is to write there. -/
theorem written_step (s : Sockets) (e : SocketEvent) (connectionId : String) :
    (step env s e).written connectionId =
      s.written connectionId ++ ((writes env connectionId s e).map (·.toText)).toList := by
  cases e with
  | agentControl id headers =>
    rw [step]
    split <;> exact (List.append_nil _).symm
  | frame id frame now =>
    cases frame with
    | text text =>
      rw [step]
      split <;> exact (List.append_nil _).symm
    | close => exact (List.append_nil _).symm
    | ignored => exact (List.append_nil _).symm
  | register id now =>
    simp only [step, writes, Server.sends, ServerEvent.connection, Option.some.injEq]
    split
    next message answered =>
      rw [send_written]
      by_cases own : id = connectionId
      · rw [if_pos own, if_pos own.symm]
        rfl
      · rw [if_neg own, if_neg (Ne.symm own)]
        exact (List.append_nil _).symm
    next => rw [ite_self]; exact (List.append_nil _).symm
  | notification id =>
    simp only [step, writes, notifies, receives]
    have none_written (c : Prop) [Decidable c] : s.written connectionId =
        s.written connectionId ++ ((if c then (none : Option ServerControlMessage) else none).map
          (·.toText)).toList := by
      rw [ite_self]
      exact (List.append_nil _).symm
    cases s.server.connections id with
    | none => exact none_written _
    | some connection =>
      obtain ⟨token, current, senderClosed, phase⟩ := connection
      cases phase with
      | reading =>
        cases env.recv s.server.notifications (s.next id) with
        | empty => cases senderClosed <;> exact none_written _
        | lagged skipped => cases senderClosed <;> exact none_written _
        | value message =>
          cases senderClosed with
          | true => exact none_written _
          | false =>
            show ((s.pass id 1).send id message).written connectionId = _
            rw [send_written]
            by_cases own : id = connectionId
            · rw [if_pos own, if_pos own.symm]
              rfl
            · rw [if_neg own, if_neg (Ne.symm own)]
              exact (List.append_nil _).symm
      | _ => cases senderClosed <;> exact none_written _
  | failed id => exact (List.append_nil _).symm
  | server e =>
    rw [step]
    split <;> exact (List.append_nil _).symm

/-- What the agent reads of its connection is what was written there. -/
theorem read_step (s : Sockets) (e : SocketEvent) (connectionId : String) :
    (step env s e).read connectionId =
      s.read connectionId ++ (writes env connectionId s e).toList := by
  rw [read, read, written_step, List.filterMap_append]
  cases writes env connectionId s e with
  | none => rfl
  | some message =>
    rw [Option.map_some, Option.toList_some, List.filterMap_cons_some message.fromText_toText]
    rfl

/-- In every run only changes are broadcast. -/
theorem announces_run (env : SocketEnv) (config : LoadedControlConfig) (es : List SocketEvent) :
    (run (step env) (init config) es).server.Announces := by
  rw [server_run]
  refine run_invariant Server.announces_step ?_ _
  intro message mem
  cases mem

/-- A registration is what it is to the server, and nothing else is one. -/
theorem label_register {s : Sockets} {e : SocketEvent} {connectionId : String} {now : UInt64}
    (labelled : label env s e = some (.register connectionId now)) :
    e = .register connectionId now := by
  cases e with
  | register id now' =>
    cases labelled
    rfl
  | frame id frame now' =>
    cases frame with
    | text text =>
      rw [label] at labelled
      split at labelled <;> cases labelled
    | close => cases labelled
    | ignored => cases labelled
  | notification id =>
    rw [label] at labelled
    split at labelled <;> cases labelled
  | server e =>
    rw [label] at labelled
    split at labelled
    next off =>
      cases labelled
      cases off
    next => cases labelled
  | _ => cases labelled

/-- The acknowledgements on a connection are what the server sends to it. -/
theorem acknowledged_step (lawful : Broadcast.Lawful kept env.recv) (connectionId : String)
    (s : Sockets) (e : SocketEvent) (announces : s.server.Announces) :
    (step env s e).acknowledged connectionId = s.acknowledged connectionId ++
      ((label env s e).bind (Server.sends env.toEnv connectionId s.server)).toList := by
  rw [acknowledged, acknowledged, read_step, List.filter_append]
  congr 1
  -- Nothing but a registration is answered with a message.
  have silent (other : ∀ now, e ≠ .register connectionId now) :
      (label env s e).bind (Server.sends env.toEnv connectionId s.server) = none := by
    rw [Option.bind_eq_none_iff]
    intro d labelled
    by_contra sent
    obtain ⟨message, sent⟩ := Option.ne_none_iff_exists'.mp sent
    obtain ⟨now, rfl, -⟩ := Server.sends_eq_some sent
    exact other now (label_register labelled)
  cases e with
  | register id now =>
    rw [writes, label, Option.bind_some]
    cases sent : Server.sends env.toEnv connectionId s.server (.register id now) with
    | none => rfl
    | some message =>
      obtain ⟨now', -, rfl⟩ := Server.sends_eq_some sent
      rfl
  | notification id =>
    rw [silent fun now => by rintro ⟨⟩]
    simp only [writes, notifies]
    split
    next =>
      cases received : s.receives env id with
      | none => rfl
      | some message =>
        obtain ⟨version, rfl⟩ := announces message (mem_of_receives lawful received)
        rfl
    next => rfl
  | _ =>
    rw [silent fun now => by rintro ⟨⟩]
    rfl

/-- The notifications on a connection are what its receiver took. -/
theorem notified_step (lawful : Broadcast.Lawful kept env.recv) (connectionId : String)
    (s : Sockets) (e : SocketEvent) (announces : s.server.Announces) :
    (step env s e).notified connectionId = s.notified connectionId ++
      (notifies env connectionId s e).toList := by
  rw [notified, notified, read_step, List.filter_append]
  congr 1
  cases e with
  | register id now =>
    rw [writes]
    cases sent : Server.sends env.toEnv connectionId s.server (.register id now) with
    | none => rfl
    | some message =>
      obtain ⟨now', -, rfl⟩ := Server.sends_eq_some sent
      rfl
  | notification id =>
    show List.filter _ (notifies env connectionId s (.notification id)).toList = _
    cases heard : notifies env connectionId s (.notification id) with
    | none => rfl
    | some message =>
      rw [notifies] at heard
      split at heard
      next =>
        obtain ⟨version, rfl⟩ := announces message (mem_of_receives lawful heard)
        rfl
      next => cases heard
  | _ => rfl

/-! ## The server's runs -/

/-- What every step of the server keeps, every step of its sockets keeps. -/
theorem server_invariant {Inv : Server → Prop}
    (preserved : ∀ s e, Inv s → Inv (Server.step env.toEnv s e)) (s : Sockets) (e : SocketEvent)
    (inv : Inv s.server) : Inv (step env s e).server := by
  rw [step_server]
  cases label env s e with
  | none => exact inv
  | some d => exact preserved s.server d inv

/-- So are those of the sockets. -/
theorem notifications_step (s : Sockets) (e : SocketEvent) :
    (step env s e).server.notifications =
      s.server.notifications ++ ((label env s e).bind s.server.broadcasts).toList := by
  rw [step_server]
  cases label env s e with
  | none => exact (List.append_nil _).symm
  | some d => exact Server.notifications_step s.server d

/-- A connection that has stopped reading is written nothing. -/
theorem writes_stopped {s : Sockets} {connectionId : String}
    (stopped : s.server.Stopped connectionId) (e : SocketEvent) :
    writes env connectionId s e = none := by
  obtain ⟨⟨token, current, senderClosed, phase⟩, found, stopped⟩ := stopped
  by_contra written
  obtain ⟨message, written⟩ := Option.ne_none_iff_exists'.mp written
  cases e with
  | register id now =>
    obtain ⟨now', same, -⟩ := Server.sends_eq_some written
    cases same
    rcases stopped with stopped | stopped <;> cases stopped <;>
      simp [writes, Server.sends, Server.answer, found, ServerEvent.connection] at written
  | notification id =>
    simp only [writes, notifies] at written
    split at written
    next own =>
      rw [own, receives, found] at written
      rcases stopped with stopped | stopped <;> cases stopped <;> cases senderClosed <;>
        cases written
    next => cases written
  | _ => cases written

/-- To a connection that has stopped no step writes. -/
theorem written_stopped_step {s t : Sockets} {connectionId : String} (e : SocketEvent)
    (stopped : t.server.Stopped connectionId)
    (same : t.written connectionId = s.written connectionId) :
    (step env t e).server.Stopped connectionId ∧
      (step env t e).written connectionId = s.written connectionId := by
  refine ⟨server_invariant (Server.stopped_step connectionId) t e stopped, ?_⟩
  rw [written_step, writes_stopped stopped, same]
  exact List.append_nil _

/-- To a connection that has stopped nothing is ever written. -/
theorem written_stopped (env : SocketEnv) {s : Sockets} {connectionId : String}
    (stopped : s.server.Stopped connectionId) (es : List SocketEvent) :
    (run (step env) s es).server.Stopped connectionId ∧
      (run (step env) s es).written connectionId = s.written connectionId := by
  let Inv : Sockets → Prop := fun t =>
    t.server.Stopped connectionId ∧ t.written connectionId = s.written connectionId
  have inv : Inv (run (step env) s es) := by
    refine run_invariant ?_ ⟨stopped, rfl⟩ es
    exact fun t e inv => written_stopped_step e inv.1 inv.2
  exact inv

/-- A connection that reads a text no message is read from stops. -/
theorem stopped_of_unreadable (env : SocketEnv) {s : Sockets} {connectionId text : String}
    {connection : Connection} (now : UInt64)
    (found : s.server.connections connectionId = some connection)
    (reading : connection.phase = .reading)
    (unreadable : AgentControlMessage.fromText text = none) :
    (step env s (.frame connectionId (.text text) now)).server.Stopped connectionId ∧
      (step env s (.frame connectionId (.text text) now)).written connectionId =
        s.written connectionId := by
  obtain ⟨token, current, senderClosed, phase⟩ := connection
  cases reading
  refine ⟨?_, written_step s _ connectionId |>.trans (List.append_nil _)⟩
  have stepped : (step env s (.frame connectionId (.text text) now)).server =
      Server.step env.toEnv s.server (.socketEnd connectionId) := by
    rw [step, unreadable]
    rfl
  rw [stepped, Server.step, found]
  exact ⟨_, by rw [Server.setConnection_connections, if_pos rfl], .inl rfl⟩

/-- What is written on a connection is an acknowledgement of its own, or was broadcast. -/
def WrittenOwn (s : Sockets) : Prop :=
  ∀ connectionId, ∀ message ∈ s.read connectionId,
    (∃ now, message = .helloAck now connectionId) ∨ message ∈ s.server.notifications

/-- Whatever a step writes acknowledges a hello of the connection, or was broadcast. -/
theorem writtenOwn_step (lawful : Broadcast.Lawful kept env.recv) (s : Sockets) (e : SocketEvent)
    (inv : s.WrittenOwn) : (step env s e).WrittenOwn := by
  intro connectionId message mem
  have sent : (step env s e).server.notifications =
      s.server.notifications ++ ((label env s e).bind s.server.broadcasts).toList :=
    notifications_step s e
  rw [read_step, List.mem_append, Option.mem_toList] at mem
  rw [sent, List.mem_append]
  rcases mem with mem | written
  · exact (inv connectionId message mem).imp_right .inl
  · cases e with
    | register id now =>
      obtain ⟨now', -, rfl⟩ := Server.sends_eq_some written
      exact .inl ⟨now', rfl⟩
    | notification id =>
      simp only [writes, notifies] at written
      split at written
      next => exact .inr (.inl (mem_of_receives lawful written))
      next => cases written
    | _ => cases written

/-- Every text the server writes is read by the agent. -/
def Readable (s : Sockets) : Prop :=
  ∀ connectionId, s.written connectionId = (s.read connectionId).map (·.toText)

/-- What is written is read back. -/
theorem readable_step (s : Sockets) (e : SocketEvent) (inv : s.Readable) :
    (step env s e).Readable := by
  intro connectionId
  rw [written_step, read_step, List.map_append, ← inv connectionId]
  cases writes env connectionId s e <;> rfl

/-- What is acknowledged to a connection is what the server sends it on the messages of the run. -/
theorem acknowledged_run (lawful : Broadcast.Lawful kept env.recv)
    (config : LoadedControlConfig) (connectionId : String) (es : List SocketEvent) :
    (run (step env) (init config) es).acknowledged connectionId =
      outputs (Server.step env.toEnv) (Server.sends env.toEnv connectionId) (Server.init config)
        (outputs (step env) (label env) (init config) es) := by
  have announces : StepsMeet (step env) (fun s _ => s.server.Announces) (init config) es :=
    stepsMeet_invariant (server_invariant Server.announces_step) (announces_run env config []) es
  have matched (s : Sockets) (t : Server) (e : SocketEvent) (same : s.server = t) (_ : True) :
      (step env s e).server = (label env s e).elim t (Server.step env.toEnv t) := by
    rw [step_server, same]
  have shown (s : Sockets) (t : Server) (e : SocketEvent) (same : s.server = t) (_ : True) :
      (label env s e).bind (Server.sends env.toEnv connectionId s.server) =
        (label env s e).bind (Server.sends env.toEnv connectionId t) := by
    rw [same]
  rw [run_log (fun s => s.acknowledged connectionId)
    (fun s e announces => acknowledged_step lawful connectionId s e announces) announces]
  exact outputs_refines matched shown rfl (stepsMeet_true _ _ es)

/-- **The sockets refine the server.** Whatever frames arrive, in every run over a channel that gives
its receivers what was sent:

- the server's state is that of a run of its own, on the messages read;
- what an agent reads on its connection besides notifications is exactly what the server sends to
  it, in order; nothing else is written, each text is read as it was meant, and an acknowledgement
  names the connection itself;
- a text that no message is read from ends the connection it arrives on: from then on nothing is
  read or written there. -/
theorem sockets_refine (lawful : Broadcast.Lawful kept env.recv) (config : LoadedControlConfig)
    (es : List SocketEvent) :
    let s := run (step env) (init config) es
    let events := outputs (step env) (label env) (init config) es
    s.server = run (Server.step env.toEnv) (Server.init config) events ∧
    (∀ connectionId,
      s.written connectionId = (s.read connectionId).map (·.toText) ∧
      s.acknowledged connectionId =
        outputs (Server.step env.toEnv) (Server.sends env.toEnv connectionId) (Server.init config) events ∧
      ∀ message ∈ s.read connectionId,
        (∃ now, message = .helloAck now connectionId) ∨ message ∈ s.server.notifications) ∧
    ∀ pre connectionId text now post connection,
      es = pre ++ .frame connectionId (.text text) now :: post →
      AgentControlMessage.fromText text = none →
      (run (step env) (init config) pre).server.connections connectionId = some connection →
      connection.phase = .reading →
      s.server.Stopped connectionId ∧
        s.written connectionId = (run (step env) (init config) pre).written connectionId := by
  intro s events
  refine ⟨server_run _ es, fun connectionId => ⟨?_, ?_, ?_⟩, ?_⟩
  · have readable : (run (step env) (init config) es).Readable :=
      run_invariant readable_step (fun _ => rfl) es
    exact readable connectionId
  · exact acknowledged_run lawful config connectionId es
  · have own : (run (step env) (init config) es).WrittenOwn := by
      refine run_invariant (writtenOwn_step lawful) ?_ es
      intro connectionId message mem
      cases mem
    exact own connectionId
  · rintro pre connectionId text now post connection split unreadable found reading
    obtain ⟨stopped, same⟩ :=
      stopped_of_unreadable env now found reading unreadable
    have rest := written_stopped env stopped post
    rw [same, ← run_cons, ← run_append, ← split] at rest
    exact rest

/-- The server with one agent, over a channel with a buffer of its capacity. -/
def oneAgentSockets : SocketEnv :=
  { Server.oneAgentEnv with recv := Broadcast.bounded notificationCapacity }

/-- The agent connects and sends something that is no message. -/
def oneAgentGarbled : List SocketEvent :=
  [.agentControl "connection-1" [headerOf authorizationHeader "Bearer agent-secret"],
    .frame "connection-1" (.text "hello") 1]

theorem sockets_refine_garbled :
    (run (step oneAgentSockets) (init Server.oneAgentConfig) oneAgentGarbled).server.Stopped
        "connection-1" ∧
      (run (step oneAgentSockets) (init Server.oneAgentConfig) oneAgentGarbled).written
        "connection-1" = [] :=
  (@sockets_refine oneAgentSockets _ (Broadcast.lawful_bounded notificationCapacity)
    Server.oneAgentConfig oneAgentGarbled).2.2
    (oneAgentGarbled.take 1) "connection-1" "hello" 1 [] ⟨none, none, false, .reading⟩ rfl
    (by decide +kernel) (by decide +kernel) rfl

end Sockets

end Talia
