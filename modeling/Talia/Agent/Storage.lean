import Talia.Agent.Filesystem
import Talia.Agent.MountInfo
import Talia.Core.Config
import Talia.Core.Pipeline

/-!
# Storage

The storage provider asks for the space on each mount point of its configuration, and takes from the
mounts that the kernel lists what kind of filesystem it is. A mount point that cannot be asked is
left out, whatever the others come to; only when there are some and none can be asked does the
collection fail (`storage_collected`). What `statvfs` says is given.
-/

namespace Talia

/-! ## Samples -/

def filesystemLimitSample : String := "system.filesystem.limit"
def filesystemUsageSample : String := "system.filesystem.usage"
def filesystemUtilizationSample : String := "system.filesystem.utilization"

def mountpointAttribute : String := "system.filesystem.mountpoint"
def filesystemTypeAttribute : String := "system.filesystem.type"
def filesystemModeAttribute : String := "system.filesystem.mode"
def filesystemStateAttribute : String := "system.filesystem.state"

/-- What a call reports of a mount. -/
structure FilesystemSample where
  mountpoint : String
  filesystemType : Option String
  mode : Option String
  limitBytes : UInt64
  usedBytes : UInt64
  freeBytes : UInt64
  reservedBytes : UInt64
  usedRatio : Float

/-- No part of an empty filesystem is used. -/
def FilesystemBytes.usedRatio (bytes : FilesystemBytes) : Float :=
  if bytes.limit = 0 then 0.0 else bytes.used.toFloat / bytes.limit.toFloat

/-- Attributes shared by every sample from one mount point. -/
def baseAttributes (sample : FilesystemSample) : BTreeMap String String :=
  let attributes := (∅ : BTreeMap String String).insert mountpointAttribute sample.mountpoint
  let attributes := sample.filesystemType.elim attributes
    (attributes.insert filesystemTypeAttribute)
  sample.mode.elim attributes (attributes.insert filesystemModeAttribute)

/-- The samples of a mount: its size, its bytes by state and the ratio used. -/
def filesystemSamples (timestamp : SystemTime) (sample : FilesystemSample) : List Sample :=
  let base := baseAttributes sample
  let usage (state : String) (bytes : UInt64) : Sample :=
    ⟨filesystemUsageSample, .gaugeU64 bytes, base.insert filesystemStateAttribute state, timestamp⟩
  [⟨filesystemLimitSample, .gaugeU64 sample.limitBytes, base, timestamp⟩,
    usage "used" sample.usedBytes, usage "free" sample.freeBytes,
    usage "reserved" sample.reservedBytes,
    ⟨filesystemUtilizationSample, .gaugeF64 sample.usedRatio,
      base.insert filesystemStateAttribute "used", timestamp⟩]

/-! ## Collecting -/

def mountinfoPath : String := "/proc/self/mountinfo"

/-- How a collection fails. What is wrong with the mount info is said by its parser. -/
inductive FilesystemError (ε : Type) where
  | readMountInfo (path source : String)
  | mountInfo (error : StorageError)
  | statVfs (mountpoint : String) (source : ε)
  | noFilesystemSamples

variable {ε : Type}

/-- The list of the mounts is read whole or not at all. -/
def readMountInfo (contents : Except String String) :
    Except (FilesystemError ε) (BTreeMap String MountInfo) :=
  match contents with
  | .error source => .error (.readMountInfo mountinfoPath source)
  | .ok contents => (parseMountInfo contents).mapError .mountInfo

/-- A mount that is not in the list has no type and no mode, and is reported all the same. -/
def collectFilesystem (mountpoint : String) (mountInfo : BTreeMap String MountInfo)
    (statvfs : Except ε StatVfs) : Except (FilesystemError ε) FilesystemSample :=
  match statvfs with
  | .error source => .error (.statVfs mountpoint source)
  | .ok stat =>
    let info := mountInfo[mountpoint]?
    let bytes := filesystemBytes stat
    .ok
      { mountpoint
        filesystemType := info.map MountInfo.filesystemType
        mode := info.bind MountInfo.mode
        limitBytes := bytes.limit
        usedBytes := bytes.used
        freeBytes := bytes.free
        reservedBytes := bytes.reserved
        usedRatio := bytes.usedRatio }

/-- The samples of the mount points that can be asked, each with what it was asked for. -/
def collectMounts (mountInfo : BTreeMap String MountInfo) :
    List (String × Except ε StatVfs) → List FilesystemSample
  | [] => []
  | (mount, statvfs) :: mounts =>
    match collectFilesystem mount mountInfo statvfs with
    | .ok sample => sample :: collectMounts mountInfo mounts
    | .error _ => collectMounts mountInfo mounts

/-- The mount points come with what `statvfs` says when it is their turn. -/
def collectFilesystems (mounts : List (String × Except ε StatVfs))
    (contents : Except String String) : Except (FilesystemError ε) (List FilesystemSample) :=
  match readMountInfo contents with
  | .error error => .error error
  | .ok mountInfo =>
    let samples := collectMounts mountInfo mounts
    if !mounts.isEmpty && samples.isEmpty then .error .noFilesystemSamples else .ok samples

/-- The provider has the mounts that its configuration lists. -/
structure StorageProvider where
  mounts : List String

namespace StorageProvider

def name : String := "storage"

/-- A configuration that lists other mounts replaces them. -/
def reconfigure (s : StorageProvider) (config : AgentRuntimeConfig) : StorageProvider :=
  if s.mounts ≠ config.storage.mounts then { s with mounts := config.storage.mounts } else s

/-- Each mount point is asked in turn, and each sample is stamped when it is converted. -/
def collect (s : StorageProvider) (contents : Except String String)
    (statvfs : ℕ → Except ε StatVfs) (now : ℕ → SystemTime) :
    Except (ProviderError (FilesystemError ε)) (List Sample) :=
  let mounts := s.mounts.zipIdx.map fun (mount, turn) => (mount, statvfs turn)
  match collectFilesystems mounts contents with
  | .error source => .error ⟨name, source⟩
  | .ok samples =>
    .ok (samples.zipIdx.flatMap fun (sample, turn) => filesystemSamples (now turn) sample)

end StorageProvider

/-! ## What is reported -/

/-- What is reported of a mount point: its space, and the kind of its last mount. -/
def report (kernel : List Mount) (mountpoint : String) (stat : StatVfs) : FilesystemSample :=
  let last := Mount.lastOn kernel mountpoint
  let bytes := filesystemBytes stat
  { mountpoint
    filesystemType := last.map (·.filesystemType.text)
    mode := last.map (·.mode.asStr)
    limitBytes := bytes.limit
    usedBytes := bytes.used
    freeBytes := bytes.free
    reservedBytes := bytes.reserved
    usedRatio := bytes.usedRatio }

/-- The mount points of the samples are those of the configuration, without some. -/
theorem mountpoints_sublist (mountInfo : BTreeMap String MountInfo)
    (mounts : List (String × Except ε StatVfs)) :
    ((collectMounts mountInfo mounts).map FilesystemSample.mountpoint).Sublist
      (mounts.map Prod.fst) := by
  induction mounts with
  | nil => exact List.Sublist.slnil
  | cons mount mounts ih =>
    obtain ⟨mount, statvfs⟩ := mount
    rw [collectMounts]
    cases statvfs with
    | error source => exact ih.cons mount
    | ok stat => exact ih.cons_cons mount

/-- A collection is of some of the configured mount points, in order. -/
theorem StorageProvider.collect_ok {s : StorageProvider} {contents : Except String String}
    {statvfs : ℕ → Except ε StatVfs} {now : ℕ → SystemTime} {samples : List Sample}
    (collected : s.collect contents statvfs now = .ok samples) :
    ∃ reports : List FilesystemSample,
      (reports.map FilesystemSample.mountpoint).Sublist s.mounts ∧
        samples = reports.zipIdx.flatMap fun (sample, turn) =>
          filesystemSamples (now turn) sample := by
  rw [StorageProvider.collect, collectFilesystems] at collected
  cases read : readMountInfo (ε := ε) contents with
  | error error =>
    rw [read] at collected
    cases collected
  | ok mountInfo =>
    rw [read] at collected
    dsimp only at collected
    split at collected
    next => cases collected
    next kept same =>
      split at same
      next => cases same
      next =>
        cases same
        cases collected
        have sublist := mountpoints_sublist mountInfo
          (s.mounts.zipIdx.map fun (mount, turn) => (mount, statvfs turn))
        have configured : (s.mounts.zipIdx.map fun (mount, turn) => (mount, statvfs turn)).map
            Prod.fst = s.mounts := by
          rw [List.map_map]
          exact List.zipIdx_map_fst 0 s.mounts
        rw [configured] at sublist
        exact ⟨_, sublist, rfl⟩

/-- The mount points of a configuration with what `statvfs` says when it is their turn. -/
def asked (config : AgentRuntimeConfig) (statvfs : ℕ → Except ε StatVfs) :
    List (String × Except ε StatVfs) :=
  config.storage.mounts.zipIdx.map fun (mount, turn) => (mount, statvfs turn)

end Talia
