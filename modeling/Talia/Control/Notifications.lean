import Talia.Control.Reload
import Talia.Control.Socket

/-!
# How notifications reach the agents

Every connection's receiver is a `Broadcast` channel from the step that opens the connection on
(`channel_step`, `channel_run`): reloads send on it, and the connection's task takes from it when it
has nothing else to do. So an agent reads notifications of the reloads that have come to their end
since it connected, in order, and when its task has caught up it has read the latest, whatever it
missed (`notifications_reach_agents`).

How the channel gives a receiver its values is a parameter; what is used of it is `Broadcast.Lawful`
with a buffer of `notificationCapacity` values or more. It is not shown that a task gets its turn:
with frames arriving all the time it may read those alone.
-/

namespace Talia

namespace Sockets

open Transition

variable {env : SocketEnv} {kept : ℕ}

/-! ## The receivers -/

/-- The receiver of a connection, with the notifications its agent has read. -/
def channel (s : Sockets) (connectionId : String) : Broadcast.Channel ServerControlMessage where
  sent := s.server.notifications
  next := s.next connectionId
  taken := s.notified connectionId

/-- The task of the connection takes what its receiver has, and can write it. -/
def takes (env : SocketEnv) (s : Sockets) (connectionId : String) : Bool :=
  match s.server.connections connectionId with
  | some ⟨_, _, _, .reading⟩ => !s.writesClosed env connectionId
  | _ => false

/-- The notification that a step broadcasts: a reload's last one does. -/
def broadcasts (env : SocketEnv) (s : Sockets) (e : SocketEvent) : Option ServerControlMessage :=
  (label env s e).bind s.server.broadcasts

/-- What an event is to the receiver of a connection. -/
def channelEvent (env : SocketEnv) (connectionId : String) (s : Sockets) :
    SocketEvent → Option (Broadcast.Event ServerControlMessage)
  | .notification id => if id = connectionId ∧ s.takes env id then some .recv else none
  | e => (s.broadcasts env e).map .send

/-- Only its own turns move the cursor of a connection that is there. -/
theorem next_frame {s : Sockets} {e : SocketEvent} {connectionId : String}
    (opened : s.server.Opened connectionId) (other : e ≠ .notification connectionId) :
    (step env s e).next connectionId = s.next connectionId := by
  cases e with
  | agentControl id headers =>
    rw [step]
    split
    next => rfl
    next fresh =>
      refine Function.update_of_ne ?_ ..
      rintro rfl
      exact opened fresh
  | frame id frame now =>
    cases frame with
    | text text =>
      rw [step]
      split <;> rfl
    | close => rfl
    | ignored => rfl
  | register id now =>
    rw [step]
    split <;> rfl
  | notification id =>
    have apart : connectionId ≠ id := fun same => other (same ▸ rfl)
    rw [step]
    split
    next =>
      split
      next => rfl
      next => rw [pass_next, if_neg apart]
      next =>
        split
        next => rfl
        next => rw [send_next, pass_next, if_neg apart]
    next => rfl
  | failed id => rfl
  | server e =>
    rw [step]
    split <;> rfl

/-- The turn of a task leaves what is broadcast. -/
theorem broadcasts_notification (s : Sockets) (connectionId : String) :
    s.broadcasts env (.notification connectionId) = none := by
  rw [broadcasts, label]
  split <;> rfl

/-- The turn of a task is a turn of its receiver, where the task takes it. -/
theorem channel_turn (lawful : Broadcast.Lawful kept env.recv) {s : Sockets} {connectionId : String}
    (opened : s.server.Opened connectionId) (announces : s.server.Announces) :
    (step env s (.notification connectionId)).channel connectionId =
      (channelEvent env connectionId s (.notification connectionId)).elim (s.channel connectionId)
        (Broadcast.step env.recv (s.channel connectionId)) := by
  have sent : (step env s (.notification connectionId)).server.notifications =
      s.server.notifications := by
    rw [notifications_step]
    exact (congrArg (_ ++ Option.toList ·) (broadcasts_notification s connectionId)).trans
      (List.append_nil _)
  have taken : (step env s (.notification connectionId)).notified connectionId =
      s.notified connectionId ++ (s.receives env connectionId).toList := by
    rw [notified_step lawful connectionId s _ announces, notifies, if_pos rfl]
  have event : channelEvent env connectionId s (.notification connectionId) =
      if s.takes env connectionId then some .recv else none := by simp [channelEvent]
  rw [event]
  unfold channel
  rw [sent, taken]
  unfold takes writesClosed receives
  simp only [step]
  obtain ⟨connection, found⟩ := Option.ne_none_iff_exists'.mp opened
  obtain ⟨token, current, senderClosed, phase⟩ := connection
  rw [found]
  cases phase with
  | reading =>
    cases received : env.recv s.server.notifications (s.next connectionId) with
    | empty =>
      cases senderClosed <;> simp [Broadcast.step, received, Broadcast.Channel.take]
    | lagged skipped =>
      cases senderClosed <;> simp [Broadcast.step, received, Broadcast.Channel.take, pass_next]
    | value message =>
      cases senderClosed <;> simp [Broadcast.step, received, Broadcast.Channel.take, pass_next]
  | _ => cases senderClosed <;> simp

/-- **A step of the sockets is a step of each receiver that is there, or leaves it.** -/
theorem channel_step (lawful : Broadcast.Lawful kept env.recv) {s : Sockets} (e : SocketEvent)
    {connectionId : String}
    (opened : s.server.Opened connectionId) (announces : s.server.Announces) :
    (step env s e).channel connectionId = (channelEvent env connectionId s e).elim
      (s.channel connectionId) (Broadcast.step env.recv (s.channel connectionId)) := by
  by_cases own : e = .notification connectionId
  · subst own
    exact channel_turn lawful opened announces
  · have sent : (step env s e).server.notifications =
        s.server.notifications ++ (s.broadcasts env e).toList :=
      notifications_step s e
    have next : (step env s e).next connectionId = s.next connectionId := next_frame opened own
    have silent : notifies env connectionId s e = none := by
      cases e with
      | notification id =>
        refine if_neg ?_
        rintro rfl
        exact own rfl
      | _ => rfl
    have taken : (step env s e).notified connectionId = s.notified connectionId := by
      rw [notified_step lawful connectionId s e announces, silent, Option.toList_none,
        List.append_nil]
    have event : channelEvent env connectionId s e =
        (s.broadcasts env e).map .send := by
      cases e with
      | notification id =>
        rw [broadcasts_notification]
        refine if_neg ?_
        rintro ⟨rfl, -⟩
        exact own rfl
      | _ => rfl
    rw [event]
    unfold channel
    rw [sent, next, taken]
    cases s.broadcasts env e with
    | none => rw [Option.toList_none, List.append_nil]; rfl
    | some message => rfl

/-- A connection that is there, on a server whose notifications tell of changes. -/
def Listening (connectionId : String) (s : Sockets) : Prop :=
  s.server.Opened connectionId ∧ s.server.Announces

/-- A connection that listens goes on listening. -/
theorem listening_step (connectionId : String) (s : Sockets) (e : SocketEvent)
    (listening : s.Listening connectionId) : (step env s e).Listening connectionId :=
  ⟨server_invariant (Server.opened_step connectionId) s e listening.1,
    server_invariant Server.announces_step s e listening.2⟩

/-- **Every run of the sockets is a run of each receiver that is there.** -/
theorem channel_run (lawful : Broadcast.Lawful kept env.recv) {s : Sockets} {connectionId : String}
    (listening : s.Listening connectionId)
    (es : List SocketEvent) :
    (run (step env) s es).channel connectionId =
      run (Broadcast.step env.recv) (s.channel connectionId)
        (outputs (step env) (channelEvent env connectionId) s es) :=
  run_refines (R := fun (s : Sockets) c => s.channel connectionId = c)
    (C := fun (s : Sockets) _ => s.Listening connectionId)
    (fun s c e same listening => by rw [channel_step lawful e listening.1 listening.2, same]) rfl
    (stepsMeet_invariant (listening_step connectionId) listening es)

/-- The receiver is not further behind than the channel's capacity, when its task looks. -/
def KeepsUp (connectionId : String) (s : Sockets) (e : SocketEvent) : Prop :=
  e = .notification connectionId →
    s.server.notifications.length ≤ s.next connectionId + notificationCapacity

/-- Only on a connection that is there something is written. -/
theorem opened_of_writes {s : Sockets} {e : SocketEvent} {connectionId : String}
    {message : ServerControlMessage} (written : writes env connectionId s e = some message) :
    s.server.Opened connectionId := by
  intro fresh
  cases e with
  | register id now =>
    obtain ⟨now', same, -⟩ := Server.sends_eq_some written
    cases same
    simp [writes, Server.sends, Server.answer, fresh, ServerEvent.connection] at written
  | notification id =>
    simp only [writes, notifies, receives] at written
    split at written
    next own =>
      rw [own, fresh] at written
      cases written
    next => cases written
  | _ => cases written

/-- Nothing was written on the connection before it was opened. -/
def UnreadBefore (connectionId : String) (s : Sockets) : Prop :=
  s.server.Opened connectionId ∨ s.read connectionId = []

/-- Each step keeps it so: it writes on open connections only. -/
theorem unreadBefore_step (connectionId : String) (s : Sockets) (e : SocketEvent)
    (unread : s.UnreadBefore connectionId) : (step env s e).UnreadBefore connectionId := by
  rcases unread with opened | silent
  · exact .inl (server_invariant (Server.opened_step connectionId) s e opened)
  · cases written : writes env connectionId s e with
    | some message =>
      exact .inl (server_invariant (Server.opened_step connectionId) s e (opened_of_writes written))
    | none =>
      refine .inr ?_
      rw [read_step, written, silent]
      rfl

/-- A connection that is opened starts to listen, from the notifications sent before on. -/
theorem channel_opened (lawful : Broadcast.Lawful kept env.recv) {config : LoadedControlConfig}
    {pre : List SocketEvent} {connectionId : String} {headers : HeaderMap}
    (fresh : (run (step env) (init config) pre).server.connections connectionId = none)
    (accepted : authorized env.sha256 headers env.agentToken = true) :
    (run (step env) (init config) (pre ++ [.agentControl connectionId headers])).Listening
        connectionId ∧
      (run (step env) (init config) (pre ++ [.agentControl connectionId headers])).channel
          connectionId =
        Broadcast.subscribe (run (step env) (init config) pre).server.notifications := by
  have announces : (run (step env) (init config) pre).server.Announces :=
    announces_run env config pre
  have unread : (run (step env) (init config) pre).UnreadBefore connectionId :=
    run_invariant (unreadBefore_step connectionId) (.inr rfl) pre
  rw [run_append, run_cons, run_nil]
  generalize run (step env) (init config) pre = s at *
  have opened : (step env s (.agentControl connectionId headers)).server =
      Server.step env.toEnv s.server (.agentControl connectionId headers) := step_server ..
  have there : (Server.step env.toEnv s.server (.agentControl connectionId headers)).connections
      connectionId ≠ none := by
    rw [Server.step, fresh]
    simp only [if_pos accepted]
    rw [Server.setConnection_connections, if_pos rfl]
    rintro ⟨⟩
  have read : s.read connectionId = [] := unread.resolve_left fun opened => opened fresh
  refine ⟨⟨?_, ?_⟩, ?_⟩
  · rw [Server.Opened, opened]
    exact there
  · exact server_invariant Server.announces_step s _ announces
  · have sent : (step env s (.agentControl connectionId headers)).server.notifications =
        s.server.notifications := by
      rw [notifications_step]
      exact List.append_nil _
    have heard : (step env s (.agentControl connectionId headers)).notified connectionId = [] := by
      rw [notified_step lawful connectionId s _ announces, notified, read]
      rfl
    have next : (step env s (.agentControl connectionId headers)).next connectionId =
        s.server.notifications.length := by
      simp only [step, fresh]
      exact Function.update_self ..
    unfold channel Broadcast.subscribe
    rw [sent, heard, next]

/-- Where a task can write, a turn is a turn of its receiver and leaves the server. -/
theorem step_notification (env : SocketEnv) {s : Sockets} {connectionId : String}
    {token current : Option String}
    (found : s.server.connections connectionId = some ⟨token, current, false, .reading⟩) :
    (step env s (.notification connectionId)).server = s.server ∧
      channelEvent env connectionId s (.notification connectionId) = some .recv := by
  have quiet : s.writesClosed env connectionId = false := by
    rw [writesClosed, found]
  constructor
  · rw [step_server, label, quiet]
    rfl
  · simp [channelEvent, takes, found, quiet]

/-- A connection that is reading takes one notification in each of its turns. -/
theorem turns_run (n : ℕ) {s : Sockets} {connectionId : String} {token current : Option String}
    (found : s.server.connections connectionId = some ⟨token, current, false, .reading⟩) :
    (run (step env) s (List.replicate n (.notification connectionId))).server = s.server ∧
      outputs (step env) (channelEvent env connectionId) s
        (List.replicate n (.notification connectionId)) = List.replicate n .recv := by
  induction n generalizing s with
  | zero => exact ⟨rfl, rfl⟩
  | succ n ih =>
    obtain ⟨same, event⟩ := step_notification env found
    obtain ⟨rest, events⟩ := ih (s := step env s (.notification connectionId)) (same ▸ found)
    constructor
    · rw [List.replicate_succ, run_cons, rest, same]
    · rw [List.replicate_succ, outputs, events, event]
      rfl

/-- So its turns are its receiver's. -/
theorem turns_channel (lawful : Broadcast.Lawful kept env.recv) (n : ℕ) {s : Sockets}
    {connectionId : String} {token current : Option String}
    (listening : s.Listening connectionId)
    (found : s.server.connections connectionId = some ⟨token, current, false, .reading⟩) :
    (run (step env) s (List.replicate n (.notification connectionId))).channel connectionId =
      run (Broadcast.step env.recv) (s.channel connectionId)
        (List.replicate n .recv) := by
  rw [channel_run lawful listening, (turns_run n found).2]

/-- And one turn more than the channel keeps values is enough to catch up. -/
theorem turns_caughtUp (lawful : Broadcast.Lawful kept env.recv) {start : ℕ} {s : Sockets}
    {connectionId : String} {token current : Option String}
    (listening : s.Listening connectionId)
    (follows : Broadcast.Follows kept start (s.channel connectionId))
    (found : s.server.connections connectionId = some ⟨token, current, false, .reading⟩) :
    s.server.notifications.drop (max start (s.server.notifications.length - kept)) <:+
      (run (step env) s
        (List.replicate (kept + 1) (.notification connectionId))).notified connectionId := by
  have same : (run (step env) s
      (List.replicate (kept + 1) (.notification connectionId))).server = s.server :=
    (turns_run _ found).1
  have ran := turns_channel lawful (kept + 1) listening found
  generalize run (step env) s _ = t at same ran ⊢
  have follows' : Broadcast.Follows kept start (t.channel connectionId) := by
    rw [ran]
    exact Broadcast.follows_run lawful follows _
  have turned := Broadcast.caughtUp_of_turns lawful follows.within
  rw [← ran] at turned
  have caughtUp : t.next connectionId = t.server.notifications.length := by
    rw [same]
    exact turned
  have latest := follows'.caughtUp caughtUp
  simp only [channel, same] at latest
  exact latest

/-- A receiver looks when its task takes its turn. -/
theorem eq_notification_of_recv {s : Sockets} {e : SocketEvent} {connectionId : String}
    (event : channelEvent env connectionId s e = some .recv) : e = .notification connectionId := by
  cases e with
  | notification id =>
    rw [channelEvent] at event
    split at event
    next own => rw [own.1]
    next => cases event
  | _ =>
    simp only [channelEvent, Option.map_eq_some_iff] at event
    obtain ⟨_, -, ⟨⟩⟩ := event

/-- What is broadcast in a run is what its reloads broadcast. -/
theorem notifications_run (s : Sockets) (es : List SocketEvent) :
    (run (step env) s es).server.notifications =
      s.server.notifications ++ outputs (step env) (broadcasts env) s es :=
  run_log (fun s : Sockets => s.server.notifications) (fun s e _ => notifications_step s e)
    (stepsMeet_true _ s es)

/-- **Notifications reach the agents.** Once a connection is opened, after any run and whatever
happens then, what is broadcast is what the reloads broadcast that notify meanwhile, and the
connection's agent reads notifications among these, in order and none twice. When its task has
caught up, the agent has read each of the last `notificationCapacity` of them, so the latest; a
connection that is still open catches up in one turn more than the channel keeps values; and a task
that is never further behind than the capacity when it looks misses none. -/
theorem notifications_reach_agents (lawful : Broadcast.Lawful kept env.recv)
    (enough : notificationCapacity ≤ kept) (config : LoadedControlConfig)
    (pre : List SocketEvent) (connectionId : String) (headers : HeaderMap)
    (fresh : (run (step env) (init config) pre).server.connections connectionId = none)
    (accepted : authorized env.sha256 headers env.agentToken = true) (post : List SocketEvent) :
    let start := (run (step env) (init config) pre).server.notifications.length
    let s₀ := run (step env) (init config) (pre ++ [.agentControl connectionId headers])
    let s := run (step env) s₀ post
    let latest := s.server.notifications.drop
      (max start (s.server.notifications.length - notificationCapacity))
    s.server.notifications.drop start = outputs (step env) (broadcasts env) s₀ post ∧
    (s.notified connectionId).Sublist (s.server.notifications.drop start) ∧
    (s.next connectionId = s.server.notifications.length → latest <:+ s.notified connectionId) ∧
    (∀ token current,
      s.server.connections connectionId = some ⟨token, current, false, .reading⟩ →
      let t := run (step env) s (List.replicate (kept + 1) (.notification connectionId))
      t.server = s.server ∧ latest <:+ t.notified connectionId) ∧
    (StepsMeet (step env) (KeepsUp connectionId) s₀ post →
      s.notified connectionId =
        Broadcast.between s.server.notifications start (s.next connectionId)) := by
  intro start s₀ s latest
  obtain ⟨listening, subscribed⟩ := channel_opened lawful fresh accepted
  have follows₀ : Broadcast.Follows kept start (s₀.channel connectionId) := by
    rw [subscribed]
    exact Broadcast.follows_subscribe ..
  have ran : s.channel connectionId = run (Broadcast.step env.recv)
      (s₀.channel connectionId) (outputs (step env) (channelEvent env connectionId) s₀ post) :=
    channel_run lawful listening post
  have follows : Broadcast.Follows kept start (s.channel connectionId) := by
    rw [ran]
    exact Broadcast.follows_run lawful follows₀ _
  -- The channel keeps the last `notificationCapacity` values, and maybe more.
  have latest_suffix : latest <:+ s.server.notifications.drop
      (max start (s.server.notifications.length - kept)) :=
    Broadcast.recent_suffix _ start enough
  refine ⟨?_, ?_, fun caughtUp => ?_, fun token current found => ?_, fun keepsUp => ?_⟩
  · have sent : s₀.server.notifications.length = start :=
      congrArg (fun c => c.sent.length) subscribed
    have logged : s.server.notifications = s₀.server.notifications ++ _ := notifications_run s₀ post
    rw [logged, ← sent, List.drop_left]
  · refine follows.inOrder.trans ?_
    rw [← Broadcast.between_length]
    exact (Broadcast.between_initial _ _ follows.within).sublist
  · exact latest_suffix.trans (follows.caughtUp caughtUp)
  · intro t
    have there : s.Listening connectionId :=
      run_invariant (listening_step connectionId) listening post
    exact ⟨(turns_run _ found).1, latest_suffix.trans (turns_caughtUp lawful there follows found)⟩
  · have all := Broadcast.takes_all lawful follows₀
        (by rw [subscribed]; exact (Broadcast.between_self _ le_rfl).symm) <|
      stepsMeet_refines (R := fun (s : Sockets) c => s.channel connectionId = c)
        (C := fun (s : Sockets) e => s.Listening connectionId ∧ KeepsUp connectionId s e)
        (D := Broadcast.KeepsUp kept)
        (fun s c e same h => by rw [channel_step lawful e h.1.1 h.1.2, same])
        (fun s c e d same h labelled => by
          rintro rfl
          rw [← same]
          have near := h.2 (eq_notification_of_recv labelled)
          exact near.trans (Nat.add_le_add_left enough _)) rfl
        ((stepsMeet_invariant (listening_step connectionId) listening post).and keepsUp)
    rw [← ran] at all
    exact all

/-- The server whose file can be reloaded, over a channel with a buffer of its capacity. -/
def reloadingSockets : SocketEnv :=
  { Server.overlapEnv with recv := Broadcast.bounded notificationCapacity }

/-- The file is reloaded, and the connection's task looks for notifications. -/
def notifiedRun : List SocketEvent :=
  [.server (.reload 0 Server.adminHeaders (some "")), .server (.reloadSwap 0),
    .server (.reloadCount 0), .server (.reloadNotify 0), .notification "connection-1"]

/-- The agent has read the version of the file. -/
theorem notifications_reach_agents_reload :
    let s := run (step reloadingSockets) (run (step reloadingSockets) (init Server.oneAgentConfig)
      ([] ++ [.agentControl "connection-1"
        [headerOf authorizationHeader "Bearer agent-secret"]])) notifiedRun
    [ServerControlMessage.configChanged (configSourceVersion "")] <:+ s.notified "connection-1" ∧
      (s.notified "connection-1").Sublist
        [ServerControlMessage.configChanged (configSourceVersion "")] := by
  intro s
  have agent : authorized reloadingSockets.sha256
      [headerOf authorizationHeader "Bearer agent-secret"] reloadingSockets.agentToken = true := by
    decide +kernel
  obtain ⟨-, inOrder, latest, -⟩ := @notifications_reach_agents reloadingSockets _
    (Broadcast.lawful_bounded notificationCapacity) le_rfl Server.oneAgentConfig [] "connection-1"
    [headerOf authorizationHeader "Bearer agent-secret"] rfl agent notifiedRun
  have loaded : loadControlConfig reloadingSockets.toEnv (some "") =
      .ok ⟨configSourceVersion "", {}⟩ := by
    have validated : validateRuntimeConfigs {} = .ok () :=
      validateRuntimeConfigs_ok_iff.mpr ⟨by decide +kernel, by decide +kernel⟩
    simp only [loadControlConfig, reloadingSockets, Server.overlapEnv, true_or, if_true, validated]
    rfl
  have admin : authorized reloadingSockets.sha256 Server.adminHeaders
      reloadingSockets.adminToken = true := by decide +kernel
  have received (message : ServerControlMessage) :
      reloadingSockets.recv [message] 0 = .value message := rfl
  have sent : s.server.notifications =
      [ServerControlMessage.configChanged (configSourceVersion "")] := by
    simp [s, notifiedRun, step, serve, pass, send, Server.step, init,
      Server.init, Server.setReload, Server.setConnection, ServerEvent.offSocket, agent, admin,
      loaded, received]
  have next : s.next "connection-1" = s.server.notifications.length := by
    rw [sent]
    simp [s, notifiedRun, step, serve, pass, send, Server.step, init,
      Server.init, Server.setReload, Server.setConnection, ServerEvent.offSocket, agent, admin,
      loaded, received]
  have latest : s.server.notifications.drop
      (max 0 (s.server.notifications.length - notificationCapacity)) <:+
        s.notified "connection-1" := latest next
  have inOrder : (s.notified "connection-1").Sublist (s.server.notifications.drop 0) := inOrder
  rw [sent] at latest inOrder
  exact ⟨latest, inOrder⟩

end Sockets

end Talia
