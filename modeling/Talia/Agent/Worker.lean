import Talia.Agent.Discovery

/-!
# What the discovery worker keeps

The clients the worker keeps from one job to the next are sound (`Worker.Sound`): one for each
socket, dialed for the selection of the last job. A pass starts from them or from none, and whatever
it meets it ends with such clients, for sockets of its own selection (`refreshAsync_keeps`). What it
answers is given by one equation (`refreshAsync_ok`).
-/

namespace Talia

open Transition

namespace Surroundings

variable {around : Surroundings} {selection : SocketSelection}

/-! ## Clients -/

/-- The clients of a pass: one for each socket, dialed for its selection, and a single one unless all
sockets are selected. -/
structure Dialed (selection : SocketSelection) (clients : List CriClient) : Prop where
  distinct : (clients.map CriClient.socket).Nodup
  dialedFor : ∀ client ∈ clients, client.dialedFor = selection
  single : selection ≠ .all → clients.length ≤ 1

/-- Without clients nothing is out of place. -/
theorem dialed_nil : Dialed selection [] where
  distinct := List.nodup_nil
  dialedFor := fun _ mem => nomatch mem
  single := fun _ => Nat.zero_le 1

/-- Dropping clients leaves them so. -/
theorem Dialed.sublist {clients clients' : List CriClient} (dialed : Dialed selection clients)
    (sublist : clients'.Sublist clients) : Dialed selection clients' where
  distinct := (sublist.map CriClient.socket).nodup dialed.distinct
  dialedFor := fun client mem => dialed.dialedFor client (sublist.subset mem)
  single := fun other => Nat.le_trans sublist.length_le (dialed.single other)

/-- One more client, on a socket of its own. -/
theorem Dialed.concat {clients : List CriClient} {socket : PathBuf}
    (dialed : Dialed selection clients) (fresh : ∀ client ∈ clients, client.socket ≠ socket)
    (single : selection ≠ .all → clients = []) :
    Dialed selection (clients ++ [⟨socket, selection⟩]) where
  distinct := by
    rw [List.map_append, List.nodup_append]
    refine ⟨dialed.distinct, by simp, ?_⟩
    intro a mem b mem'
    obtain ⟨client, kept, rfl⟩ := List.mem_map.mp mem
    rw [List.map_singleton, List.mem_singleton] at mem'
    subst mem'
    exact fresh client kept
  dialedFor := by
    intro client mem
    rcases List.mem_append.mp mem with kept | new
    · exact dialed.dialedFor client kept
    · rw [List.mem_singleton.mp new]
  single := by
    intro other
    rw [single other]
    exact Nat.le_refl 1

/-- The request is made to a client that was dialed for the selection, and a status call to the
client whose socket listed the sandbox. -/
def Proper (around : Surroundings) (selection : SocketSelection) : CriRequest → Prop
  | .connect socket => socket ∈ around.targetSockets selection
  | .list client => client.dialedFor = selection
  | .status clients index sandbox => ∃ client, clients[index]? = some client ∧
      client.dialedFor = selection ∧ client.socket = sandbox.socket ∧
      ∃ items, around.lists client.socket = some items ∧
        ∃ item ∈ items, item.id = sandbox.sandboxId

/-- What dialing the wanted sockets makes of the clients, if none is dialed twice and a single one
is wanted unless all sockets are selected. -/
theorem dial_dialed {wanted : List PathBuf} {clients : List CriClient}
    (dialed : Dialed selection clients)
    (single : ∀ path, selection = .explicit path →
      ∀ socket ∈ wanted, socket = path ∧ ∀ client ∈ clients, client.socket = path)
    (first : selection = .firstWins → clients = []) :
    Dialed selection (around.dial selection wanted clients).clients := by
  induction wanted generalizing clients with
  | nil => exact dialed
  | cons socket wanted ih =>
    have skip : Dialed selection (around.dial selection wanted clients).clients := by
      refine ih dialed ?_ first
      intro path explicit other mem
      exact single path explicit other (List.mem_cons_of_mem _ mem)
    rw [dial]
    split
    next => exact skip
    next fresh =>
      have fresh : ∀ client ∈ clients, client.socket ≠ socket := by
        simpa using fresh
      have alone : selection ≠ .all → clients = [] := by
        intro other
        cases selection with
        | all => exact absurd rfl other
        | firstWins => exact first rfl
        | explicit path =>
          obtain ⟨rfl, same⟩ := single path rfl socket List.mem_cons_self
          exact List.eq_nil_iff_forall_not_mem.mpr fun client mem =>
            fresh client mem (same client mem)
      have extended := dialed.concat fresh alone
      split
      next =>
        dsimp only
        split
        next => exact extended
        next notFirst =>
          refine ih extended ?_ fun h => absurd h notFirst
          intro path explicit other mem
          obtain ⟨rfl, same⟩ := single path explicit socket List.mem_cons_self
          refine ⟨(single _ explicit other (List.mem_cons_of_mem _ mem)).1, ?_⟩
          intro client mem'
          rcases List.mem_append.mp mem' with kept | new
          · exact same client kept
          · rw [List.mem_singleton.mp new]
      next =>
        split
        next => exact dialed
        next => exact skip

/-- Only wanted sockets are dialed. -/
theorem dial_sockets {wanted : List PathBuf} {clients : List CriClient} {client : CriClient}
    (mem : client ∈ (around.dial selection wanted clients).clients) :
    client ∈ clients ∨ client.socket ∈ wanted := by
  induction wanted generalizing clients with
  | nil => exact .inl mem
  | cons socket wanted ih =>
    have skip : client ∈ (around.dial selection wanted clients).clients →
        client ∈ clients ∨ client.socket ∈ socket :: wanted := by
      intro mem
      exact (ih mem).imp_right (List.mem_cons_of_mem socket)
    have extend : client ∈ clients ++ [⟨socket, selection⟩] →
        client ∈ clients ∨ client.socket ∈ socket :: wanted := by
      intro mem
      rcases List.mem_append.mp mem with kept | new
      · exact .inl kept
      · rw [List.mem_singleton.mp new]
        exact .inr List.mem_cons_self
    rw [dial] at mem
    split at mem
    next => exact skip mem
    next =>
      split at mem
      next =>
        dsimp only at mem
        split at mem
        next => exact extend mem
        next =>
          rcases ih mem with earlier | later
          · exact extend earlier
          · exact .inr (List.mem_cons_of_mem socket later)
      next =>
        split at mem
        next => exact .inl mem
        next => exact skip mem

/-- Dialing makes no other requests. -/
theorem dial_requests {wanted : List PathBuf} {clients : List CriClient} {request : CriRequest}
    (mem : request ∈ (around.dial selection wanted clients).requests) :
    ∃ socket ∈ wanted, request = .connect socket := by
  induction wanted generalizing clients with
  | nil => cases mem
  | cons socket wanted ih =>
    have skip {clients : List CriClient} :
        request ∈ (around.dial selection wanted clients).requests →
        ∃ socket' ∈ socket :: wanted, request = .connect socket' := by
      intro mem
      obtain ⟨other, mem, same⟩ := ih mem
      exact ⟨other, List.mem_cons_of_mem socket mem, same⟩
    have here {requests : List CriRequest} (rest : request ∈ requests →
        ∃ socket' ∈ socket :: wanted, request = .connect socket') :
        request ∈ .connect socket :: requests →
        ∃ socket' ∈ socket :: wanted, request = .connect socket' := by
      intro mem
      rcases List.mem_cons.mp mem with same | mem
      · exact ⟨socket, List.mem_cons_self, same⟩
      · exact rest mem
    rw [dial] at mem
    split at mem
    next => exact skip mem
    next =>
      split at mem
      next =>
        dsimp only at mem
        split at mem
        next => exact here (fun h => absurd h List.not_mem_nil) mem
        next => exact here skip mem
      next =>
        split at mem
        next => exact here (fun h => absurd h List.not_mem_nil) mem
        next => exact here skip mem

/-- **The clients a pass works with**: whatever the worker kept for the selection, they are dialed
for it and on its sockets. -/
theorem ensureClients_dialed (around : Surroundings) {clients : List CriClient}
    (dialed : Dialed selection clients) :
    Dialed selection (around.ensureClients selection clients).clients ∧
      ∀ client ∈ (around.ensureClients selection clients).clients,
        client.socket ∈ around.targetSockets selection := by
  have kept := dialed.sublist (List.filter_sublist
    (p := fun client => (around.targetSockets selection).contains client.socket))
  have targeted : ∀ client ∈ clients.filter fun client =>
      (around.targetSockets selection).contains client.socket,
      client.socket ∈ around.targetSockets selection := by
    intro client mem
    exact List.contains_iff_mem.mp (List.mem_filter.mp mem).2
  rw [ensureClients]
  split
  next => exact ⟨kept, targeted⟩
  next notKept =>
    refine ⟨dial_dialed kept ?_ ?_, ?_⟩
    · intro path explicit socket mem
      subst explicit
      refine ⟨List.mem_singleton.mp mem, fun client mem => ?_⟩
      exact List.mem_singleton.mp (targeted client mem)
    · intro first
      by_contra left
      exact notKept ⟨first, left⟩
    · intro client mem
      rcases dial_sockets mem with mem | mem
      · exact targeted client mem
      · exact mem

/-- Dialing asks only for what is there to be asked. -/
theorem ensureClients_requests {clients : List CriClient} {request : CriRequest}
    (mem : request ∈ (around.ensureClients selection clients).requests) :
    Proper around selection request := by
  rw [ensureClients] at mem
  split at mem
  next => cases mem
  next =>
    obtain ⟨socket, wanted, rfl⟩ := dial_requests mem
    exact wanted

/-! ## Sandboxes -/

/-- The sandboxes listed so far: each under a UID of its own, listed by its socket. -/
structure Found (around : Surroundings) (sandboxes : List (PodUid × DiscoveredSandbox)) : Prop where
  distinct : (sandboxes.map Prod.fst).Nodup
  listed : ∀ entry ∈ sandboxes, ∃ items, around.lists entry.2.socket = some items ∧
    ∃ item ∈ items, item.id = entry.2.sandboxId ∧ item.Lists entry.1

/-- A sandbox that a socket lists is one that was found. -/
theorem Found.addSandbox {sandboxes : List (PodUid × DiscoveredSandbox)} (found : Found around sandboxes)
    {socket : PathBuf} {items : List PodSandbox} (lists : around.lists socket = some items)
    {item : PodSandbox} (mem : item ∈ items) : Found around (addSandbox socket sandboxes item) := by
  rw [Surroundings.addSandbox]
  split
  next => exact found
  next metadata named =>
    split
    next => exact found
    next fresh =>
      constructor
      · rw [List.map_append, List.nodup_append]
        refine ⟨found.distinct, by simp, ?_⟩
        intro a mem b mem'
        rw [List.map_singleton, List.mem_singleton] at mem'
        subst mem'
        intro same
        subst same
        obtain ⟨entry, earlier, same⟩ := List.mem_map.mp mem
        exact fresh (List.any_eq_true.mpr ⟨entry, earlier, decide_eq_true same⟩)
      · intro entry mem'
        rcases List.mem_append.mp mem' with earlier | new
        · exact found.listed entry earlier
        · rw [List.mem_singleton.mp new]
          exact ⟨items, lists, item, mem, rfl, metadata, named, rfl⟩

/-- A pod that is listed stays listed, and an item adds its own. -/
theorem mem_addSandbox {sandboxes : List (PodUid × DiscoveredSandbox)} {socket : PathBuf}
    {item : PodSandbox} {uid : PodUid}
    (h : uid ∈ sandboxes.map Prod.fst ∨ item.Lists uid) :
    uid ∈ (addSandbox socket sandboxes item).map Prod.fst := by
  rw [addSandbox]
  split
  next unnamed =>
    rcases h with earlier | ⟨metadata, named, -⟩
    · exact earlier
    · rw [unnamed] at named
      cases named
  next metadata named =>
    have own : item.Lists uid → uid = ⟨metadata.uid⟩ := by
      intro lists
      obtain ⟨metadata', named', same⟩ := lists
      rw [named] at named'
      cases named'
      exact PodUid.ext same.symm
    split
    next known =>
      rcases h with earlier | lists
      · exact earlier
      · obtain ⟨entry, mem, same⟩ := List.any_eq_true.mp known
        rw [own lists, ← of_decide_eq_true same]
        exact List.mem_map_of_mem mem
    next =>
      rw [List.map_append, List.mem_append]
      refine h.imp id fun lists => ?_
      rw [own lists]
      exact List.mem_singleton_self _

/-- The pods of the sandboxes stay, and those that are listed come in. -/
theorem mem_addSandboxes {items : List PodSandbox} {sandboxes : List (PodUid × DiscoveredSandbox)}
    {socket : PathBuf} {uid : PodUid}
    (h : uid ∈ sandboxes.map Prod.fst ∨ ∃ item ∈ items, item.Lists uid) :
    uid ∈ (items.foldl (addSandbox socket) sandboxes).map Prod.fst := by
  induction items generalizing sandboxes with
  | nil =>
    rcases h with earlier | ⟨item, mem, -⟩
    · exact earlier
    · cases mem
  | cons item items ih =>
    apply ih
    rcases h with earlier | ⟨other, mem, lists⟩
    · exact .inl (mem_addSandbox (.inl earlier))
    · rcases List.mem_cons.mp mem with rfl | later
      · exact .inl (mem_addSandbox (.inr lists))
      · exact .inr ⟨other, later, lists⟩

/-- **What a client lists is found.** -/
theorem mem_found {clients : List CriClient} {client : CriClient} {items : List PodSandbox}
    {item : PodSandbox} {uid : PodUid} (dialed : client ∈ clients)
    (answers : around.lists client.socket = some items) (mem : item ∈ items)
    (lists : item.Lists uid) :
    uid ∈ (clients.foldl around.listClient {}).sandboxes.map Prod.fst := by
  have all : ∀ listed : Listed, uid ∈ listed.sandboxes.map Prod.fst ∨ client ∈ clients →
      uid ∈ (clients.foldl around.listClient listed).sandboxes.map Prod.fst := by
    clear dialed
    induction clients with
    | nil =>
      intro listed h
      exact h.resolve_right List.not_mem_nil
    | cons first clients ih =>
      intro listed h
      refine ih _ ?_
      rw [Surroundings.listClient]
      rcases h with earlier | dialed
      · left
        split
        next => exact mem_addSandboxes (.inl earlier)
        next => exact earlier
      · rcases List.mem_cons.mp dialed with rfl | later
        · left
          rw [answers]
          exact mem_addSandboxes (.inr ⟨item, mem, lists⟩)
        · exact .inr later
  exact all {} (.inr dialed)

/-- Each listing adds sandboxes of its own socket. -/
theorem Found.listClient {listed : Listed} (found : Found around listed.sandboxes)
    (client : CriClient) : Found around (around.listClient listed client).sandboxes := by
  rw [Surroundings.listClient]
  split
  next items lists =>
    have all : ∀ more ⊆ items, ∀ sandboxes, Found around sandboxes →
        Found around (more.foldl (Surroundings.addSandbox client.socket) sandboxes) := by
      intro more
      induction more with
      | nil => exact fun _ _ found => found
      | cons item more ih =>
        intro subset sandboxes found
        exact ih (fun _ mem => subset (List.mem_cons_of_mem item mem)) _
          (found.addSandbox lists (subset List.mem_cons_self))
    exact all items (List.Subset.refl items) _ found
  next => exact found

/-- So listing leaves only what was found. -/
theorem found_list (around : Surroundings) (clients : List CriClient) :
    Found around (clients.foldl around.listClient {}).sandboxes := by
  have all : ∀ listed : Listed, Found around listed.sandboxes →
      Found around (clients.foldl around.listClient listed).sandboxes := by
    induction clients with
    | nil => exact fun _ found => found
    | cons client clients ih =>
      intro listed found
      exact ih _ (found.listClient client)
  exact all {} ⟨List.nodup_nil, fun _ mem => nomatch mem⟩

/-- The listings that fail are those of the sockets that answer nothing. -/
theorem mem_failed (around : Surroundings) (clients : List CriClient) (socket : PathBuf) :
    socket ∈ (clients.foldl around.listClient {}).failed ↔
      (∃ client ∈ clients, client.socket = socket) ∧ around.lists socket = none := by
  have all : ∀ listed : Listed, socket ∈ (clients.foldl around.listClient listed).failed ↔
      socket ∈ listed.failed ∨
        (∃ client ∈ clients, client.socket = socket) ∧ around.lists socket = none := by
    induction clients with
    | nil => simp
    | cons client clients ih =>
      intro listed
      rw [List.foldl_cons, ih, listClient]
      by_cases own : client.socket = socket
      · subst own
        cases lists : around.lists client.socket with
        | none => simp
        | some items => simp
      · cases lists : around.lists client.socket with
        | none => simp [own, Ne.symm own]
        | some items => simp [own]
  rw [all]
  exact or_iff_right List.not_mem_nil

/-- A listing succeeds when some client's socket answers. -/
theorem listedOk_eq_true_iff {clients : List CriClient} :
    (clients.foldl around.listClient {}).listedOk = true ↔
      ∃ client ∈ clients, (around.lists client.socket).isSome := by
  have all : ∀ listed : Listed, (clients.foldl around.listClient listed).listedOk = true ↔
      listed.listedOk = true ∨ ∃ client ∈ clients, (around.lists client.socket).isSome := by
    induction clients with
    | nil => simp
    | cons client clients ih =>
      intro listed
      rw [List.foldl_cons, ih, listClient]
      cases lists : around.lists client.socket with
      | none => simp [lists]
      | some items => simp [lists]
  rw [all]
  exact or_iff_right Bool.false_ne_true

/-! ## Status calls -/

/-- A client is found by its socket. -/
theorem clientFor_eq (clients : List CriClient) (socket : PathBuf) :
    clientFor clients socket = clients.findIdx? (·.socket = socket) := by
  have all : ∀ (start : ℕ) (map : PathBuf → Option ℕ),
      (clients.zipIdx start).foldl
        (fun map entry =>
          if (map entry.1.socket).isSome then map
          else Function.update map entry.1.socket (some entry.2)) map socket =
      (map socket).or ((clients.findIdx? (·.socket = socket)).map (· + start)) := by
    induction clients with
    | nil => simp
    | cons client clients ih =>
      intro start map
      rw [List.zipIdx_cons, List.foldl_cons, ih, List.findIdx?_cons]
      by_cases own : client.socket = socket
      · subst own
        cases known : map client.socket with
        | some index => simp [known]
        | none => simp
      · cases known : map client.socket with
        | some index =>
          simp [own, Function.comp_def, Nat.add_assoc, Nat.add_comm 1]
        | none =>
          simp [own, Ne.symm own, Function.comp_def, Nat.add_assoc, Nat.add_comm 1]
  refine (all 0 fun _ => none).trans ?_
  simp

/-- The status of a sandbox that is asked for, answered, and not of the host's network. -/
def admitted (around : Surroundings) (clients : List CriClient)
    (entry : PodUid × DiscoveredSandbox) : Option PodSandboxStatusResponse :=
  (clientFor clients entry.2.socket).bind fun _ =>
    (around.status entry.1).filter fun response => !response.hostNetwork

/-- Visiting the sandboxes one after the other asks for their statuses in order, and keeps the pods
that resolve. -/
theorem visit_foldl (clients : List CriClient) (entries : List (PodUid × DiscoveredSandbox))
    (visited : Visited) :
    entries.foldl (around.visit clients) visited =
      { requests := visited.requests ++ entries.filterMap fun entry =>
          (clientFor clients entry.2.socket).map fun index => .status clients index entry.2
        candidates := visited.candidates ++ entries.filterMap fun entry =>
          (around.admitted clients entry).map fun _ =>
            ⟨entry.1, entry.2.name, entry.2.namespaceName⟩
        infoPids := visited.infoPids ++ entries.filterMap fun entry =>
          (around.admitted clients entry).map fun response =>
            (entry.1, pidFromStatusInfo response.info) } := by
  induction entries generalizing visited with
  | nil => simp
  | cons entry entries ih =>
    rw [List.foldl_cons, ih, visit]
    cases found : clientFor clients entry.2.socket with
    | none => simp [admitted, found]
    | some index =>
      cases answered : around.status entry.1 with
      | none => simp [admitted, found, answered]
      | some response =>
        cases host : response.hostNetwork with
        | true => simp [admitted, found, answered, host]
        | false => simp [admitted, found, answered, host]

/-! ## A pass -/

/-- The pod a sandbox is answered as. -/
def podOf (around : Surroundings) (clients : List CriClient) (entry : PodUid × DiscoveredSandbox) :
    Option PodInfo :=
  (around.admitted clients entry).bind fun response =>
    (around.proc.resolvePid entry.1 (pidFromStatusInfo response.info)).map fun pid =>
      ⟨entry.1, entry.2.name, entry.2.namespaceName, pid⟩

/-- The clients left when those that failed to list are dropped. -/
def responding (around : Surroundings) (clients : List CriClient) : List CriClient :=
  clients.filter fun client => (around.lists client.socket).isSome

/-- The clients left are those that responded. -/
theorem dropFailed_eq (clients : List CriClient) :
    (clients.filter fun client =>
      !(clients.foldl around.listClient {}).failed.contains client.socket) =
      around.responding clients := by
  refine List.filter_congr fun client mem => ?_
  have failed := mem_failed around clients client.socket
  cases lists : around.lists client.socket with
  | none =>
    rw [lists] at failed
    simpa using failed.mpr ⟨⟨client, mem, rfl⟩, rfl⟩
  | some items =>
    rw [lists] at failed
    simpa using failed

/-- The sandboxes a pass lists, in the order it visits them. -/
def visits (around : Surroundings) (clients : List CriClient) :
    List (PodUid × DiscoveredSandbox) :=
  (around.order (clients.foldl around.listClient {}).sandboxes).1

/-- They are under UIDs of their own, each listed by its socket. -/
theorem found_visits (clients : List CriClient) : Found around (around.visits clients) := by
  have found := found_list around clients
  have perm := (around.order (clients.foldl around.listClient {}).sandboxes).2
  exact ⟨(perm.map Prod.fst).nodup_iff.mpr found.distinct,
    fun entry mem => found.listed entry (perm.mem_iff.mp mem)⟩

/-- What is kept of entries has their keys, in order. -/
theorem filterMap_fst_sublist {α β γ : Type} (f : α × β → Option γ) (key : γ → α)
    (own : ∀ entry c, f entry = some c → key c = entry.1) (entries : List (α × β)) :
    ((entries.filterMap f).map key).Sublist (entries.map Prod.fst) := by
  induction entries with
  | nil => exact List.Sublist.refl _
  | cons entry entries ih =>
    cases found : f entry with
    | none =>
      rw [List.filterMap_cons_none found, List.map_cons]
      exact ih.cons _
    | some c =>
      rw [List.filterMap_cons_some found, List.map_cons, List.map_cons, own entry c found]
      exact ih.cons_cons _

/-- No client responds just when no listing succeeded. -/
theorem responding_eq_nil_iff {clients : List CriClient} :
    around.responding clients = [] ↔
      (clients.foldl around.listClient {}).listedOk = false := by
  rw [← Bool.not_eq_true, listedOk_eq_true_iff, responding, List.filter_eq_nil_iff]
  push Not
  exact Iff.rfl

/-- How a pass ends, once it has tried to dial: no socket could be dialed, no client lists, or what
is answered is the sandboxes listed that are asked for, answered, not of the host's network, and
resolved, in the order of the visit. -/
inductive Ends (around : Surroundings) (ensured : Pass Unit) : Pass (List PodInfo) → Prop where
  | undialed {error : DiscoveryError} (failed : ensured.result = .error error) :
    Ends around ensured ⟨ensured.requests, .error error, ensured.clients⟩
  | outage (dialed : ensured.result = .ok ()) (none : around.responding ensured.clients = []) :
    Ends around ensured
      ⟨ensured.requests ++ ensured.clients.map .list, .error .allListsFailed, []⟩
  | listed (dialed : ensured.result = .ok ()) (some : around.responding ensured.clients ≠ []) :
    Ends around ensured
      ⟨ensured.requests ++ ensured.clients.map .list ++
          (around.visits ensured.clients).filterMap fun entry =>
            (clientFor (around.responding ensured.clients) entry.2.socket).map fun index =>
              .status (around.responding ensured.clients) index entry.2,
        .ok ((around.visits ensured.clients).filterMap
          (around.podOf (around.responding ensured.clients))),
        around.responding ensured.clients⟩

/-- **Every pass ends so.** -/
theorem refreshAsync_ends (around : Surroundings) (selection : SocketSelection)
    (clients : List CriClient) :
    Ends around (around.ensureClients selection clients)
      (around.refreshAsync selection clients) := by
  rw [refreshAsync]
  generalize around.ensureClients selection clients = ensured
  cases dialed : ensured.result with
  | error error => exact .undialed dialed
  | ok _ =>
    simp only [dropFailed_eq]
    by_cases none : around.responding ensured.clients = []
    · have notListed := responding_eq_nil_iff.mp none
      rw [notListed, none]
      exact .outage dialed none
    · have listed : (ensured.clients.foldl around.listClient {}).listedOk = true := by
        rw [← Bool.not_eq_false, ← responding_eq_nil_iff]
        exact none
      rw [listed]
      have pods : ∀ entry ∈ around.visits ensured.clients,
          around.podOf (around.responding ensured.clients) entry =
            (around.admitted (around.responding ensured.clients) entry).bind fun _ =>
              (around.proc.resolvePids ((around.visits ensured.clients).filterMap fun entry =>
                (around.admitted (around.responding ensured.clients) entry).map fun response =>
                  (entry.1, pidFromStatusInfo response.info)) entry.1).map fun pid =>
                ⟨entry.1, entry.2.name, entry.2.namespaceName, pid⟩ := by
        intro entry mem
        rw [podOf]
        cases answered : around.admitted (around.responding ensured.clients) entry with
        | none => rfl
        | some response =>
          -- Each candidate has its hint among those that are resolved.
          rw [Option.bind_some, Option.bind_some, Proc.resolvePids_eq]
          · refine (filterMap_fst_sublist _ Prod.fst ?_ _).nodup
              (found_visits ensured.clients).distinct
            intro entry hint found
            obtain ⟨_, -, rfl⟩ := Option.map_eq_some_iff.mp found
            rfl
          · refine List.mem_filterMap.mpr ⟨entry, mem, ?_⟩
            rw [answered, Option.map_some]
      have ends := Ends.listed dialed none
      rw [List.filterMap_congr pods] at ends
      simpa [visit_foldl, List.filterMap_filterMap, Function.comp_def, visits,
        Option.bind_map] using ends

/-- **Whatever a pass meets, it keeps its clients sound**, and makes no improper request. -/
theorem refreshAsync_keeps (around : Surroundings) {clients : List CriClient}
    (dialed : Dialed selection clients) :
    let pass := around.refreshAsync selection clients
    Dialed selection pass.clients ∧
      (∀ client ∈ pass.clients, client.socket ∈ around.targetSockets selection) ∧
      ∀ request ∈ pass.requests, Proper around selection request := by
  obtain ⟨sound, targeted⟩ := ensureClients_dialed around dialed
  have connects : ∀ request ∈ (around.ensureClients selection clients).requests,
      Proper around selection request := fun request mem => ensureClients_requests mem
  have ends := refreshAsync_ends around selection clients
  dsimp only
  generalize around.ensureClients selection clients = ensured at sound targeted connects ends
  generalize around.refreshAsync selection clients = pass at ends
  have responding : (around.responding ensured.clients).Sublist ensured.clients :=
    List.filter_sublist
  have lists : ∀ request ∈ ensured.requests ++ ensured.clients.map .list,
      Proper around selection request := by
    intro request mem
    rcases List.mem_append.mp mem with mem | mem
    · exact connects request mem
    · obtain ⟨client, used, rfl⟩ := List.mem_map.mp mem
      exact sound.dialedFor client used
  cases ends with
  | undialed failed => exact ⟨sound, targeted, connects⟩
  | outage dialed silent => exact ⟨dialed_nil, fun client mem => absurd mem List.not_mem_nil, lists⟩
  | listed dialed answering =>
    refine ⟨sound.sublist responding, fun client mem => targeted client (responding.subset mem), ?_⟩
    intro request mem
    rcases List.mem_append.mp mem with mem | mem
    · exact lists request mem
    · obtain ⟨entry, visited, asked⟩ := List.mem_filterMap.mp mem
      obtain ⟨index, found, rfl⟩ := Option.map_eq_some_iff.mp asked
      rw [clientFor_eq] at found
      obtain ⟨bound, own, -⟩ := List.findIdx?_eq_some_iff_getElem.mp found
      have own := of_decide_eq_true own
      have kept := responding.subset (List.getElem_mem bound)
      refine ⟨_, List.getElem?_eq_getElem bound, sound.dialedFor _ kept, own, ?_⟩
      rw [own]
      obtain ⟨items, lists, item, mem, id, -⟩ :=
        (found_visits ensured.clients).listed entry visited
      exact ⟨items, lists, item, mem, id⟩

/-- **What a pass answers lists each pod once**, and none whose status reports the host's network. -/
theorem refreshAsync_ok {clients : List CriClient} {pods : List PodInfo}
    (answered : (around.refreshAsync selection clients).result = .ok pods) :
    (pods.map PodInfo.uid).Nodup ∧ ∀ pod ∈ pods, ∃ response,
      around.status pod.uid = some response ∧ response.hostNetwork = false := by
  have ends := refreshAsync_ends around selection clients
  generalize around.refreshAsync selection clients = pass at answered ends
  cases ends with
  | undialed failed => cases answered
  | outage dialed silent => cases answered
  | listed dialed answering =>
    cases answered
    constructor
    · refine (filterMap_fst_sublist _ PodInfo.uid ?_ _).nodup (found_visits _).distinct
      intro entry pod found
      obtain ⟨_, -, found⟩ := Option.bind_eq_some_iff.mp found
      obtain ⟨_, -, rfl⟩ := Option.map_eq_some_iff.mp found
      rfl
    · intro pod mem
      obtain ⟨entry, -, found⟩ := List.mem_filterMap.mp mem
      obtain ⟨response, admitted, found⟩ := Option.bind_eq_some_iff.mp found
      obtain ⟨_, -, rfl⟩ := Option.map_eq_some_iff.mp found
      obtain ⟨_, -, admitted⟩ := Option.bind_eq_some_iff.mp admitted
      obtain ⟨status, kept⟩ := Option.filter_eq_some_iff.mp admitted
      exact ⟨response, status, by simpa using kept⟩

end Surroundings

/-! ## The worker -/

namespace Worker

open Surroundings

/-- The clients the worker keeps are dialed for its active selection. -/
def Sound (w : Worker) : Prop :=
  ∀ selection, w.activeSelection = some selection → Dialed selection w.clients

/-- A job runs its pass to the end, or is cut short and keeps no client. -/
theorem pass_cases (w : Worker) (around : Surroundings) (selection : SocketSelection) :
    w.pass around selection = around.refreshAsync selection (w.start selection) ∨
      ∃ n, w.pass around selection =
        ⟨(around.refreshAsync selection (w.start selection)).requests.take n,
          .error .refreshTimeout, []⟩ := by
  rw [pass]
  split
  next n _ =>
    split
    next => exact .inr ⟨n + 1, rfl⟩
    next => exact .inl rfl
  next => exact .inl rfl

/-- **A job keeps the clients sound**, and makes no improper request. -/
theorem pass_keeps {w : Worker} (sound : w.Sound) (around : Surroundings)
    (selection : SocketSelection) :
    let pass := w.pass around selection
    Dialed selection pass.clients ∧
      (∀ client ∈ pass.clients, client.socket ∈ around.targetSockets selection) ∧
      ∀ request ∈ pass.requests, Proper around selection request := by
  have start : Dialed selection (w.start selection) := by
    rw [Worker.start]
    split
    next active => exact sound selection active
    next => exact dialed_nil
  have keeps := refreshAsync_keeps around start
  dsimp only at keeps ⊢
  rcases w.pass_cases around selection with whole | ⟨n, cut⟩
  · rw [whole]
    exact keeps
  · rw [cut]
    refine ⟨dialed_nil, fun client mem => absurd mem List.not_mem_nil, ?_⟩
    intro request mem
    exact keeps.2.2 request (List.mem_of_mem_take mem)

/-- A job leaves the worker sound. -/
theorem serve_sound {w : Worker} (sound : w.Sound) (around : Surroundings)
    (selection : SocketSelection) : (w.serve around selection).Sound := by
  intro active same
  cases same
  exact (pass_keeps sound around selection).1

/-- Only a pass that runs to its end answers pods. -/
theorem pass_ok {w : Worker} {around : Surroundings} {selection : SocketSelection}
    {pods : List PodInfo} (answered : (w.pass around selection).result = .ok pods) :
    w.pass around selection = around.refreshAsync selection (w.start selection) := by
  rcases w.pass_cases around selection with whole | ⟨n, cut⟩
  · exact whole
  · rw [cut] at answered
    cases answered

end Worker

/-! ## Jobs and calls -/

namespace PodDiscovery

open Surroundings

/-- The steps that change something, each with what was so before it. -/
inductive Acts (s : PodDiscovery) : Event → PodDiscovery → Prop where
  | selected {selection : SocketSelection} :
    Acts s (.setSelection selection) { s with selection := selection }
  | submitted :
    Acts s .refresh
      { s with
        jobs := s.jobs ++ [⟨s.selection, s.sent⟩]
        calls := Function.update s.calls s.sent (some .waiting)
        sent := s.sent + 1 }
  | served {around : Surroundings} {job : DiscoveryJob} {jobs : List DiscoveryJob}
    (queue : s.jobs = job :: jobs) :
    Acts s (.serve around)
      { s with
        jobs := jobs
        worker := s.worker.map (·.serve around job.selection)
        replies := Function.update s.replies job.reply (some (s.answer around job)) }
  | received {call : ℕ} {result : Reply} (waiting : s.calls call = some .waiting)
    (replied : s.replies call = some result) :
    Acts s (.receive call)
      { s with calls := Function.update s.calls call (some (.returned result)) }
  | gaveUp {call : ℕ} (waiting : s.calls call = some .waiting) :
    Acts s (.giveUp call)
      { s with
        calls := Function.update s.calls call (some (.returned (.error .refreshTimeout))) }

/-- **What a step can do**: it acts, or changes nothing. -/
theorem step_acts (s : PodDiscovery) (e : Event) : s.step e = s ∨ Acts s e (s.step e) := by
  cases e with
  | setSelection selection => exact .inr .selected
  | refresh => exact .inr .submitted
  | serve around =>
    rw [step]
    split
    next => exact .inl rfl
    next queue => exact .inr (.served queue)
  | receive call =>
    rw [step]
    split
    next waiting replied => exact .inr (.received waiting replied)
    next => exact .inl rfl
  | giveUp call =>
    rw [step]
    split
    next waiting => exact .inr (.gaveUp waiting)
    next => exact .inl rfl

/-- The worker is sound. -/
def Sound (s : PodDiscovery) : Prop := ∀ worker, s.worker = some worker → worker.Sound

/-- Each step keeps discovery sound. -/
theorem sound_step (s : PodDiscovery) (e : Event) (sound : s.Sound) : (s.step e).Sound := by
  rcases step_acts s e with same | acts
  · rw [same]
    exact sound
  generalize s.step e = s' at acts
  cases acts with
  | served queue =>
    intro worker served
    obtain ⟨before, found, rfl⟩ := Option.map_eq_some_iff.mp served
    exact Worker.serve_sound (sound before found) _ _
  | selected | submitted | received waiting replied | gaveUp waiting => exact sound

/-- **In every run discovery is sound.** -/
theorem sound_run (selection : SocketSelection) (runtime : Bool) (es : List Event) :
    (run step (new selection runtime) es).Sound := by
  refine run_invariant sound_step ?_ es
  intro worker found
  cases runtime with
  | false => cases found
  | true =>
    cases found
    intro selection active
    cases active

/-- What is answered lists each pod once. -/
theorem answer_distinct {s : PodDiscovery} {around : Surroundings} {job : DiscoveryJob}
    {pods : List PodInfo} (answered : s.answer around job = .ok pods) :
    (pods.map PodInfo.uid).Nodup := by
  rw [answer] at answered
  cases found : s.worker with
  | none =>
    rw [found] at answered
    cases answered
  | some worker =>
    rw [found] at answered
    dsimp only at answered
    rw [Worker.pass_ok answered] at answered
    exact (refreshAsync_ok answered).1

/-- A job enters the queue when a call submits it. -/
theorem jobs_step {s : PodDiscovery} {e : Event} {job : DiscoveryJob} (before : job ∉ s.jobs)
    (after : job ∈ (s.step e).jobs) : e = .refresh ∧ job = ⟨s.selection, s.sent⟩ := by
  rcases step_acts s e with same | acts
  · rw [same] at after
    exact absurd after before
  generalize s.step e = s' at acts after
  cases acts with
  | submitted =>
    rcases List.mem_append.mp after with earlier | new
    · exact absurd earlier before
    · exact ⟨rfl, List.mem_singleton.mp new⟩
  | served queue =>
    rw [queue] at before
    exact absurd (List.mem_cons_of_mem _ after) before
  | selected | received waiting replied | gaveUp waiting => exact absurd after before

/-- A reply is sent when the worker serves a job with its channel. -/
theorem replies_step {s : PodDiscovery} {e : Event} {call : ℕ} {result : Reply}
    (before : s.replies call ≠ some result) (after : (s.step e).replies call = some result) :
    ∃ around job jobs, e = .serve around ∧ s.jobs = job :: jobs ∧ job.reply = call ∧
      result = s.answer around job := by
  rcases step_acts s e with same | acts
  · rw [same] at after
    exact absurd after before
  generalize s.step e = s' at acts after
  cases acts with
  | @served around job jobs queue =>
    by_cases own : call = job.reply
    · subst own
      dsimp only at after
      rw [Function.update_self] at after
      exact ⟨around, job, jobs, rfl, queue, rfl, (Option.some.inj after).symm⟩
    · dsimp only at after
      rw [Function.update_of_ne own] at after
      exact absurd after before
  | selected | submitted | received waiting replied | gaveUp waiting => exact absurd after before

/-- Each reply lists each pod once. -/
def Distinct (s : PodDiscovery) : Prop :=
  ∀ call pods, s.replies call = some (.ok pods) → (pods.map PodInfo.uid).Nodup

/-- Each step keeps the pods of the replies distinct. -/
theorem distinct_step {s : PodDiscovery} (distinct : s.Distinct) (e : Event) :
    (s.step e).Distinct := by
  intro call pods replied
  by_cases before : s.replies call = some (.ok pods)
  · exact distinct call pods before
  · obtain ⟨around, job, jobs, -, -, -, answered⟩ := replies_step before replied
    exact answer_distinct answered.symm

/-- A call returns when it receives the reply on its channel, or gives up. -/
theorem calls_step {s : PodDiscovery} {e : Event} {call : ℕ} {result : Reply}
    (before : s.calls call ≠ some (.returned result))
    (after : (s.step e).calls call = some (.returned result)) :
    s.calls call = some .waiting ∧ (e = .receive call ∧ s.replies call = some result ∨
      e = .giveUp call ∧ result = .error .refreshTimeout) := by
  rcases step_acts s e with same | acts
  · rw [same] at after
    exact absurd after before
  generalize s.step e = s' at acts after
  -- The calls of the other channels stay as they were.
  have own {other : ℕ} {state : Call}
      (updated : Function.update s.calls other (some state) call = some (.returned result)) :
      call = other ∧ state = .returned result := by
    by_cases it : call = other
    · subst it
      rw [Function.update_self] at updated
      exact ⟨rfl, Option.some.inj updated⟩
    · rw [Function.update_of_ne it] at updated
      exact absurd updated before
  cases acts with
  | received waiting replied =>
    obtain ⟨rfl, same⟩ := own after
    cases same
    exact ⟨waiting, .inl ⟨rfl, replied⟩⟩
  | gaveUp waiting =>
    obtain ⟨rfl, same⟩ := own after
    cases same
    exact ⟨waiting, .inr ⟨rfl, rfl⟩⟩
  | submitted => cases (own after).2
  | selected | served queue => exact absurd after before

/-- **Who receives a reply**: what a call returns, if it did not give up, is what the worker answered
the job that this call submitted. -/
theorem returned_origin (selection : SocketSelection) (runtime : Bool) {es : List Event} {call : ℕ}
    {result : Reply}
    (returned : (run step (new selection runtime) es).calls call = some (.returned result)) :
    let after := run step (new selection runtime)
    (∃ pre post, es = pre ++ .giveUp call :: post ∧ (after pre).calls call = some .waiting ∧
      result = .error .refreshTimeout) ∨
    ∃ pre mid around post jobs, es = pre ++ .refresh :: (mid ++ .serve around :: post) ∧
      (after pre).sent = call ∧
      (after (pre ++ .refresh :: mid)).jobs = ⟨(after pre).selection, call⟩ :: jobs ∧
      result = (after (pre ++ .refresh :: mid)).answer around ⟨(after pre).selection, call⟩ := by
  obtain ⟨pre, e, post, rfl, before, held⟩ := exists_established
    (P := fun s : PodDiscovery => s.calls call = some (.returned result))
    (Option.some_ne_none _).symm returned
  have now := held [] List.nil_prefix
  rw [run_append, run_cons, run_nil] at now
  obtain ⟨waiting, ⟨rfl, replied⟩ | ⟨rfl, gaveUp⟩⟩ := calls_step before now
  · refine .inr ?_
    obtain ⟨pre, e, mid, rfl, before, held⟩ := exists_established
      (P := fun s : PodDiscovery => s.replies call = some result)
      (Option.some_ne_none _).symm replied
    have now := held [] List.nil_prefix
    rw [run_append, run_cons, run_nil] at now
    obtain ⟨around, job, jobs, rfl, queue, own, answered⟩ := replies_step before now
    have queued : job ∈ (run step (new selection runtime) pre).jobs := by
      rw [queue]
      exact List.mem_cons_self
    obtain ⟨pre, e, wait, rfl, before, held⟩ := exists_established
      (P := fun s : PodDiscovery => job ∈ s.jobs) (fun h => absurd h List.not_mem_nil) queued
    have now := held [] List.nil_prefix
    rw [run_append, run_cons, run_nil] at now
    obtain ⟨rfl, submitted⟩ := jobs_step before now
    rw [submitted] at own queue answered
    have own : (run step (new selection runtime) pre).sent = call := own
    rw [own] at queue answered
    exact ⟨pre, wait, around, mid ++ .receive call :: post, jobs, by simp, own, queue, answered⟩
  · exact .inl ⟨pre, post, rfl, waiting, gaveUp⟩

/-- **The discovery worker**, in every run. After each job the clients kept are one for each socket,
on sockets of the job's selection, and a single one unless all sockets are selected. Every list and
status request of the job is made to a client dialed for its selection, a status call to the client
at an index in bounds whose socket listed the sandbox. What is answered lists each pod once, and none
whose status reports the host's network. And a call that does not give up returns what was answered
to the job it submitted. -/
theorem discovery_worker (selection : SocketSelection) (runtime : Bool) (es : List Event) :
    let after := run step (new selection runtime)
    (∀ pre around post job jobs worker, es = pre ++ .serve around :: post →
      (after pre).jobs = job :: jobs → (after pre).worker = some worker →
      ∃ kept requests, worker.pass around job.selection =
          ⟨requests, (after pre).answer around job, kept⟩ ∧
        (after (pre ++ [.serve around])).worker = some ⟨kept, some job.selection⟩ ∧
        (kept.map CriClient.socket).Nodup ∧
        (∀ client ∈ kept, client.socket ∈ around.targetSockets job.selection) ∧
        (job.selection ≠ .all → kept.length ≤ 1) ∧
        (∀ request ∈ requests, Proper around job.selection request) ∧
        ∀ pods, (after pre).answer around job = .ok pods →
          (pods.map PodInfo.uid).Nodup ∧ ∀ pod ∈ pods, ∃ response,
            around.status pod.uid = some response ∧ response.hostNetwork = false) ∧
    ∀ call result, (after es).calls call = some (.returned result) →
      (∃ pre post, es = pre ++ .giveUp call :: post ∧ (after pre).calls call = some .waiting ∧
        result = .error .refreshTimeout) ∨
      ∃ pre mid around post jobs, es = pre ++ .refresh :: (mid ++ .serve around :: post) ∧
        (after pre).sent = call ∧
        (after (pre ++ .refresh :: mid)).jobs = ⟨(after pre).selection, call⟩ :: jobs ∧
        result = (after (pre ++ .refresh :: mid)).answer around ⟨(after pre).selection, call⟩ := by
  refine ⟨?_, fun call result returned => returned_origin selection runtime returned⟩
  intro pre around post job jobs worker split queue found
  obtain ⟨dialed, targeted, proper⟩ :=
    Worker.pass_keeps (sound_run selection runtime pre worker found) around job.selection
  have answered : (run step (new selection runtime) pre).answer around job =
      (worker.pass around job.selection).result := by
    rw [answer, found]
  refine ⟨(worker.pass around job.selection).clients, (worker.pass around job.selection).requests,
    by rw [answered], ?_, dialed.distinct, targeted, dialed.single, proper, ?_⟩
  · rw [run_append, run_cons, run_nil, step, queue]
    dsimp only
    rw [found]
    rfl
  · intro pods ok
    rw [answered] at ok
    rw [Worker.pass_ok ok] at ok
    exact refreshAsync_ok ok

end PodDiscovery

end Talia
