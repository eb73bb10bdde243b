import Talia.Lib.Saturating

/-!
# Filesystem space

A filesystem counts its space in blocks, and the agent reports it in bytes. Each product saturates,
so near the end of the words the reported bytes are not the exact ones. What they say of each other
still holds: what is used, free and reserved is all there is, added as the words are added.
-/

namespace Talia

open Saturating

/-- What `statvfs` says of a filesystem. -/
structure StatVfs where
  fFrsize : UInt64
  fBlocks : UInt64
  fBfree : UInt64
  fBavail : UInt64

structure FilesystemBytes where
  limit : UInt64
  used : UInt64
  free : UInt64
  reserved : UInt64
  deriving DecidableEq

def filesystemBytesFromBlocks (fragmentSize blocks blocksFree blocksAvailable : UInt64) :
    FilesystemBytes :=
  let limit := mul blocks fragmentSize
  let freeAll := mul blocksFree fragmentSize
  let free := mul blocksAvailable fragmentSize
  let reserved := mul (sub blocksFree blocksAvailable) fragmentSize
  let used := sub limit freeAll
  { limit, used, free, reserved }

def filesystemBytes (stat : StatVfs) : FilesystemBytes :=
  filesystemBytesFromBlocks stat.fFrsize stat.fBlocks stat.fBfree stat.fBavail

namespace FilesystemBytes

/-- What is used, free and reserved is all of the filesystem, as sums of words go. -/
structure Partition (bytes : FilesystemBytes) : Prop where
  used : bytes.used ≤ bytes.limit
  free : bytes.free ≤ bytes.limit
  reserved : bytes.reserved ≤ bytes.limit
  sum : add (add bytes.used bytes.free) bytes.reserved = bytes.limit

/-- The exact numbers of bytes that a filesystem with these numbers of blocks has. -/
structure Exact (bytes : FilesystemBytes)
    (fragmentSize blocks blocksFree blocksAvailable : UInt64) : Prop where
  limit : bytes.limit.toNat = blocks.toNat * fragmentSize.toNat
  used : bytes.used.toNat = (blocks.toNat - blocksFree.toNat) * fragmentSize.toNat
  free : bytes.free.toNat = blocksAvailable.toNat * fragmentSize.toNat
  reserved : bytes.reserved.toNat =
    (blocksFree.toNat - blocksAvailable.toNat) * fragmentSize.toNat
  sum : bytes.used.toNat + bytes.free.toNat + bytes.reserved.toNat = bytes.limit.toNat

end FilesystemBytes

section Space

variable (fragmentSize : UInt64) {blocks blocksFree blocksAvailable : UInt64}

/-- The bytes of what is free are those of what is available and of what is reserved. -/
theorem bytes_of_free (available : blocksAvailable ≤ blocksFree) :
    blocksAvailable.toNat * fragmentSize.toNat +
        (blocksFree.toNat - blocksAvailable.toNat) * fragmentSize.toNat =
      blocksFree.toNat * fragmentSize.toNat := by
  rw [UInt64.le_iff_toNat_le] at available
  rw [← Nat.add_mul, Nat.add_sub_cancel' available]

/-- The bytes of all are those of what is used and of what is free. -/
theorem bytes_of_all (free : blocksFree ≤ blocks) :
    (blocks.toNat - blocksFree.toNat) * fragmentSize.toNat +
        blocksFree.toNat * fragmentSize.toNat = blocks.toNat * fragmentSize.toNat := by
  rw [UInt64.le_iff_toNat_le] at free
  rw [← Nat.add_mul, Nat.sub_add_cancel free]

/-- **The space of a filesystem is partitioned**, whatever products saturate; and exactly so when
the space as a whole does not. -/
theorem filesystem_space_partition (available : blocksAvailable ≤ blocksFree)
    (free : blocksFree ≤ blocks) :
    let bytes := filesystemBytesFromBlocks fragmentSize blocks blocksFree blocksAvailable
    bytes.Partition ∧
      (blocks.toNat * fragmentSize.toNat < 2 ^ 64 →
        bytes.Exact fragmentSize blocks blocksFree blocksAvailable) := by
  intro bytes
  have freeIs := bytes_of_free fragmentSize available
  have allIs := bytes_of_all fragmentSize free
  have limit : bytes.limit.toNat = min (blocks.toNat * fragmentSize.toNat) (2 ^ 64 - 1) :=
    toNat_mul _ _
  have freeBytes : bytes.free.toNat =
      min (blocksAvailable.toNat * fragmentSize.toNat) (2 ^ 64 - 1) :=
    toNat_mul _ _
  have used : bytes.used.toNat = min (blocks.toNat * fragmentSize.toNat) (2 ^ 64 - 1) -
      min (blocksFree.toNat * fragmentSize.toNat) (2 ^ 64 - 1) := by
    simp only [bytes, filesystemBytesFromBlocks, toNat_sub, toNat_mul]
  have reserved : bytes.reserved.toNat =
      min ((blocksFree.toNat - blocksAvailable.toNat) * fragmentSize.toNat) (2 ^ 64 - 1) := by
    simp only [bytes, filesystemBytesFromBlocks, toNat_sub, toNat_mul]
  constructor
  · constructor
    · rw [UInt64.le_iff_toNat_le]
      omega
    · rw [UInt64.le_iff_toNat_le]
      omega
    · rw [UInt64.le_iff_toNat_le]
      omega
    · rw [← UInt64.toNat_inj, toNat_add, toNat_add]
      omega
  · intro fits
    constructor <;> omega

end Space

/-- No product of the first filesystem fits. -/
theorem filesystem_space_partition_saturated :
    (filesystemBytes ⟨4096, 0xffffffffffffffff, 0x8000000000000000, 0x4000000000000000⟩).Partition ∧
      (filesystemBytes ⟨4096, 100, 20, 15⟩).Exact 4096 100 20 15 :=
  ⟨(filesystem_space_partition 4096 (by decide) (by decide)).1,
    (filesystem_space_partition 4096 (by decide) (by decide)).2 (by decide)⟩

end Talia
