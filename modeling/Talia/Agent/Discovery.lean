import Talia.Agent.Pids
import Talia.Lib.Runs

/-!
# Pod discovery

A worker thread lists the pods of the node, one job after the other, over connections to the CRI
sockets that it keeps from job to job. A pass dials what is missing (`ensureClients`), lists the
sandboxes of every client, asks for the status of each sandbox the client that listed it, and
resolves PIDs. What it meets on the way is its `Surroundings`. The calls of `PodDiscovery.refresh`
that submit the jobs wait on a channel each, and may give up before the worker is done.

In every run (`discovery_worker`): the clients kept after a job are one for each socket, all of the
job's sockets, and a single one unless all sockets are selected; every request is made to a client
dialed for the job's selection, and every status call to the client that listed the sandbox; what is
answered lists each pod once, and none on the host's network; and a call returns what the job it
submitted was answered. `CriClient.dialedFor` is a record for the reader: no step depends on it.

Time is not measured: after how many requests the time-out ends a pass is part of its surroundings.
-/

namespace Talia

/-! ## Sockets -/

/-- A path, as `Path` compares it: by its components, without repeated separators and inner `.`. -/
structure PathBuf where
  rooted : Bool
  components : List String
  deriving DecidableEq

/-- The path's components: empty ones are dropped, and dots other than a leading one. -/
def PathBuf.ofString (path : String) : PathBuf :=
  let rooted := path.toList.head? = some '/'
  let components := (path.toList.splitOn '/').map String.ofList
  ⟨rooted, (components.zipIdx.filter fun (component, index) =>
    component ≠ "" ∧ (component ≠ "." ∨ index = 0)).map Prod.fst⟩

/-- Well-known CRI socket paths, probed in order. -/
def wellKnownSockets : List PathBuf :=
  ["/run/k3s/containerd/containerd.sock", "/run/containerd/containerd.sock",
    "/run/crio/crio.sock", "/run/cri-dockerd.sock"].map PathBuf.ofString

/-- Which of the sockets are dialed. -/
inductive SocketSelection where
  | explicit (path : PathBuf)
  | all
  | firstWins
  deriving DecidableEq

/-- The configuration names the socket. -/
def SocketSelection.isExplicit : SocketSelection → Bool
  | .explicit _ => true
  | .all | .firstWins => false

/-- Two names have a meaning of their own, any other text is a path. -/
def SocketSelection.parse (value : String) : SocketSelection :=
  if value = "all" then .all
  else if value = "first" then .firstWins
  else .explicit (PathBuf.ofString value)

/-! ## What the runtime answers -/

/-- Whose sandbox it is. -/
structure PodSandboxMetadata where
  name : String
  uid : String
  namespaceName : String

/-- A sandbox that is listed. -/
structure PodSandbox where
  id : String
  metadata : Option PodSandboxMetadata

/-- The sandbox is the pod's. -/
def PodSandbox.Lists (item : PodSandbox) (uid : PodUid) : Prop :=
  ∃ metadata, item.metadata = some metadata ∧ metadata.uid = uid.asStr

structure NamespaceOption where
  network : Int

structure Namespace where
  options : Option NamespaceOption

structure LinuxPodSandboxStatus where
  namespaces : Option Namespace

structure PodSandboxStatus where
  linux : Option LinuxPodSandboxStatus

structure PodSandboxStatusResponse where
  status : Option PodSandboxStatus
  info : String → Option String

inductive NamespaceMode where
  | pod
  | container
  | node
  | target

def NamespaceMode.toInt : NamespaceMode → Int
  | .pod => 0
  | .container => 1
  | .node => 2
  | .target => 3

/-- The status reports the host's network. -/
def PodSandboxStatusResponse.hostNetwork (response : PodSandboxStatusResponse) : Bool :=
  ((((response.status.bind (·.linux)).bind (·.namespaces)).bind (·.options)).any
    fun options => options.network = NamespaceMode.node.toInt)

/-- A running pod with a process in its network namespace. -/
structure PodInfo where
  uid : PodUid
  name : String
  namespaceName : String
  pid : UInt32
  deriving DecidableEq

/-- What a call of `refresh` can fail with. -/
inductive DiscoveryError where
  | noSocket
  | allListsFailed
  | workerGone
  | refreshTimeout
  | transport
  deriving DecidableEq

/-! ## Clients -/

/-- A client that was dialed. -/
structure CriClient where
  socket : PathBuf
  /-- The selection of the job that dialed it. -/
  dialedFor : SocketSelection
  deriving DecidableEq

/-- A sandbox as listed, before its network mode and PID are known. -/
structure DiscoveredSandbox where
  socket : PathBuf
  sandboxId : String
  name : String
  namespaceName : String

/-- What a pass meets: the sockets there are and which of them connect, what each of them lists, the
order in which the map of the sandboxes is visited, the status of each sandbox, and `/proc`. A call
that fails has no answer. If the worker's time is over during a request, `timeout` says which. -/
structure Surroundings where
  present : PathBuf → Bool
  connects : PathBuf → Bool
  lists : PathBuf → Option (List PodSandbox)
  order : ∀ sandboxes : List (PodUid × DiscoveredSandbox),
    { visited : List (PodUid × DiscoveredSandbox) // visited.Perm sandboxes }
  status : PodUid → Option PodSandboxStatusResponse
  proc : Proc
  timeout : Option ℕ

/-- A request of a pass. -/
inductive CriRequest where
  | connect (socket : PathBuf)
  | list (client : CriClient)
  /-- The status call to `clients[index]`. Out of bounds it would panic. -/
  | status (clients : List CriClient) (index : ℕ) (sandbox : DiscoveredSandbox)

/-- What a pass, or its first part, comes to. -/
structure Pass (α : Type) where
  requests : List CriRequest
  result : Except DiscoveryError α
  clients : List CriClient

namespace Surroundings

variable (around : Surroundings)

/-- The sockets to dial for a selection. -/
def targetSockets : SocketSelection → List PathBuf
  | .explicit path => [path]
  | .all | .firstWins => wellKnownSockets.filter around.present

/-- The loop over the wanted sockets. -/
def dial (selection : SocketSelection) : List PathBuf → List CriClient → Pass Unit
  | [], clients => ⟨[], if clients.isEmpty then .error .noSocket else .ok (), clients⟩
  | socket :: wanted, clients =>
    if clients.any (·.socket = socket) then dial selection wanted clients
    else if around.connects socket then
      let clients := clients ++ [⟨socket, selection⟩]
      if selection = .firstWins then ⟨[.connect socket], .ok (), clients⟩
      else
        let pass := dial selection wanted clients
        { pass with requests := .connect socket :: pass.requests }
    else if selection.isExplicit then ⟨[.connect socket], .error .transport, clients⟩
    else
      let pass := dial selection wanted clients
      { pass with requests := .connect socket :: pass.requests }

/-- Dials the selected sockets, keeping the clients already connected. -/
def ensureClients (selection : SocketSelection) (clients : List CriClient) : Pass Unit :=
  let wanted := around.targetSockets selection
  let clients := clients.filter fun client => wanted.contains client.socket
  if selection = .firstWins ∧ clients ≠ [] then ⟨[], .ok (), clients⟩
  else around.dial selection wanted clients

/-! ## Listing -/

/-- The sandboxes found, whether a listing succeeded, and the sockets whose listing failed. -/
structure Listed where
  sandboxes : List (PodUid × DiscoveredSandbox) := []
  listedOk : Bool := false
  failed : List PathBuf := []

/-- The first sandbox listed under a UID stays. -/
def addSandbox (socket : PathBuf) (sandboxes : List (PodUid × DiscoveredSandbox))
    (item : PodSandbox) : List (PodUid × DiscoveredSandbox) :=
  match item.metadata with
  | none => sandboxes
  | some metadata =>
    if sandboxes.any (·.1 = ⟨metadata.uid⟩) then sandboxes
    else sandboxes ++
      [(⟨metadata.uid⟩, ⟨socket, item.id, metadata.name, metadata.namespaceName⟩)]

/-- A client lists its sandboxes, or fails and is to be dropped. -/
def listClient (listed : Listed) (client : CriClient) : Listed :=
  match around.lists client.socket with
  | some items =>
    { listed with
      listedOk := true
      sandboxes := items.foldl (addSandbox client.socket) listed.sandboxes }
  | none => { listed with failed := listed.failed ++ [client.socket] }

/-! ## Status -/

/-- A sandbox that is not on the host's network. -/
structure PodCandidate where
  uid : PodUid
  name : String
  namespaceName : String

/-- The index of the first client on each socket. -/
def clientFor (clients : List CriClient) : PathBuf → Option ℕ :=
  clients.zipIdx.foldl
    (fun map (client, index) =>
      if (map client.socket).isSome then map else Function.update map client.socket (some index))
    fun _ => none

/-- The requests made, the candidates and the hints at their PIDs. -/
structure Visited where
  requests : List CriRequest := []
  candidates : List PodCandidate := []
  infoPids : List (PodUid × Option UInt32) := []

/-- A sandbox whose client is left is asked for its status, which may fail or say that it is on the
host's network. -/
def visit (clients : List CriClient) (visited : Visited) :
    PodUid × DiscoveredSandbox → Visited
  | (uid, sandbox) =>
    match clientFor clients sandbox.socket with
    | none => visited
    | some index =>
      let visited :=
        { visited with requests := visited.requests ++ [.status clients index sandbox] }
      match around.status uid with
      | none => visited
      | some response =>
        if response.hostNetwork then visited
        else
          { visited with
            infoPids := visited.infoPids ++ [(uid, pidFromStatusInfo response.info)]
            candidates := visited.candidates ++ [⟨uid, sandbox.name, sandbox.namespaceName⟩] }

/-- One full discovery pass. -/
def refreshAsync (selection : SocketSelection) (clients : List CriClient) : Pass (List PodInfo) :=
  let ensured := around.ensureClients selection clients
  match ensured.result with
  | .error error => ⟨ensured.requests, .error error, ensured.clients⟩
  | .ok () =>
    let listed := ensured.clients.foldl around.listClient {}
    let requests := ensured.requests ++ ensured.clients.map .list
    let clients := ensured.clients.filter fun client => !listed.failed.contains client.socket
    if !listed.listedOk then ⟨requests, .error .allListsFailed, clients⟩
    else
      let visited := (around.order listed.sandboxes).1.foldl (around.visit clients) {}
      let pids := around.proc.resolvePids visited.infoPids
      ⟨requests ++ visited.requests,
        .ok (visited.candidates.filterMap fun candidate =>
          (pids candidate.uid).map fun pid =>
            ⟨candidate.uid, candidate.name, candidate.namespaceName, pid⟩),
        clients⟩

end Surroundings

/-! ## The worker -/

/-- The worker keeps its clients from job to job. -/
structure Worker where
  clients : List CriClient
  activeSelection : Option SocketSelection
  deriving DecidableEq

namespace Worker

/-- The clients a job starts from: those kept, unless they are for another selection. -/
def start (w : Worker) (selection : SocketSelection) : List CriClient :=
  if w.activeSelection = some selection then w.clients else []

/-- The pass for a job, cut short if the worker's time is over. -/
def pass (w : Worker) (around : Surroundings) (selection : SocketSelection) :
    Pass (List PodInfo) :=
  let pass := around.refreshAsync selection (w.start selection)
  match around.timeout with
  | some n =>
    if n < pass.requests.length then
      ⟨pass.requests.take (n + 1), .error .refreshTimeout, []⟩
    else pass
  | none => pass

/-- The worker after a job. -/
def serve (w : Worker) (around : Surroundings) (selection : SocketSelection) : Worker :=
  ⟨(w.pass around selection).clients, some selection⟩

end Worker

/-! ## Jobs and calls -/

/-- What a job is answered with. -/
abbrev Reply := Except DiscoveryError (List PodInfo)

/-- A job, and the channel its reply goes to. -/
structure DiscoveryJob where
  selection : SocketSelection
  reply : ℕ
  deriving DecidableEq

/-- A call of `refresh`. -/
inductive Call where
  | waiting
  | returned (result : Reply)

/-- The caller's side, the queue, the worker, if its runtime was built, and the channels. Calls are
numbered, and each has the channel of its number. -/
structure PodDiscovery where
  selection : SocketSelection
  jobs : List DiscoveryJob
  worker : Option Worker
  calls : ℕ → Option Call
  replies : ℕ → Option Reply
  sent : ℕ

namespace PodDiscovery

/-- Without a runtime there is no worker. -/
def new (selection : SocketSelection) (runtime : Bool) : PodDiscovery where
  selection := selection
  jobs := []
  worker := if runtime then some ⟨[], none⟩ else none
  calls := fun _ => none
  replies := fun _ => none
  sent := 0

/-- The provider's calls and the worker's turns, in any order. -/
inductive Event where
  | setSelection (selection : SocketSelection)
  /-- A call of `refresh` submits its job. -/
  | refresh
  /-- The worker serves the oldest job. -/
  | serve (around : Surroundings)
  /-- A call receives its reply. -/
  | receive (call : ℕ)
  /-- A call gives up. -/
  | giveUp (call : ℕ)

/-- What the worker answers a job. -/
def answer (s : PodDiscovery) (around : Surroundings) (job : DiscoveryJob) : Reply :=
  match s.worker with
  | some worker => (worker.pass around job.selection).result
  | none => .error .workerGone

/-- Jobs are served in the order in which they were submitted. -/
def step (s : PodDiscovery) : Event → PodDiscovery
  | .setSelection selection => { s with selection := selection }
  | .refresh =>
    { s with
      jobs := s.jobs ++ [⟨s.selection, s.sent⟩]
      calls := Function.update s.calls s.sent (some .waiting)
      sent := s.sent + 1 }
  | .serve around =>
    match s.jobs with
    | [] => s
    | job :: jobs =>
      { s with
        jobs := jobs
        worker := s.worker.map (·.serve around job.selection)
        replies := Function.update s.replies job.reply (some (s.answer around job)) }
  | .receive call =>
    match s.calls call, s.replies call with
    | some .waiting, some result =>
      { s with calls := Function.update s.calls call (some (.returned result)) }
    | _, _ => s
  | .giveUp call =>
    match s.calls call with
    | some .waiting =>
      { s with
        calls := Function.update s.calls call (some (.returned (.error .refreshTimeout))) }
    | _ => s

end PodDiscovery

end Talia
