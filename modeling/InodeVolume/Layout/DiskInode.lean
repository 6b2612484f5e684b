import InodeVolume.Layout.IndexBlock

/-!
# Inodes on disk

An inode fills a sector: length, magic number, directory flag, 123 direct entries, and the
sectors of one index block and of one outer index block. `byteToSector` finds the sector of a
byte of the file by the tiers of its block map.
-/

namespace InodeVolume

/-- The word that tells inodes from other sectors. -/
def inodeMagic : UInt32 := 0x494e4f44

/-- An inode as it is stored. Any words can be read back, so the flag is a word: zero for a
file and anything else for a directory. -/
structure DiskInode where
  length : UInt32
  magic : UInt32
  dirFlag : UInt32
  direct : Vector SectorId directCount
  indirect : SectorId
  doubleIndirect : SectorId
deriving DecidableEq

namespace DiskInode

variable {σ : Type}

/-- An inode of length 0 that maps nothing. -/
def empty (isDir : Bool) : DiskInode where
  length := 0
  magic := inodeMagic
  dirFlag := if isDir then 1 else 0
  direct := Vector.replicate directCount .unmapped
  indirect := .unmapped
  doubleIndirect := .unmapped

instance : Inhabited DiskInode := ⟨empty false⟩

/-- Whether the magic number is right. -/
def isValid (inode : DiskInode) : Bool := inode.magic == inodeMagic

/-- Whether the inode is a directory's. -/
def isDir (inode : DiskInode) : Bool := inode.dirFlag != 0

/-- Bytes in the file. -/
def size (inode : DiskInode) : Nat := inode.length.toNat

/-! ## The stored form -/

/-- The place of a direct entry among the words of the sector. -/
def directWord (i : Fin directCount) : Fin indexCount :=
  ⟨3 + i.val, by
    have := i.isLt
    simp only [directCount, indexCount] at *
    omega⟩

/-- The inode that 128 words describe. -/
def ofWords (words : Words) : DiskInode where
  length := words.get ⟨0, by decide⟩
  magic := words.get ⟨1, by decide⟩
  dirFlag := words.get ⟨2, by decide⟩
  direct := Vector.ofFn fun i => ⟨words.get (directWord i)⟩
  indirect := ⟨words.get ⟨126, by decide⟩⟩
  doubleIndirect := ⟨words.get ⟨127, by decide⟩⟩

/-- The words of an inode, in the order of its fields. -/
def toWords (inode : DiskInode) : Words :=
  Vector.ofFn fun i =>
    if i.val = 0 then inode.length
    else if i.val = 1 then inode.magic
    else if i.val = 2 then inode.dirFlag
    else if inside : i.val - 3 < directCount then inode.direct[i.val - 3].raw
    else if i.val = 126 then inode.indirect.raw
    else inode.doubleIndirect.raw

/-- The inode that a sector holds. -/
def decode (sector : Sector) : DiskInode := ofWords (Words.decode sector)

/-- The contents of a sector that holds the inode. -/
def encode (inode : DiskInode) : Sector := Words.encode inode.toWords

/-- Reads an inode, whatever the sector holds. -/
def load (sector : SectorId) : SectorM σ DiskInode :=
  return decode (← SectorM.readAt sector 0 sectorSize)

/-- Writes an inode. -/
def store (inode : DiskInode) (sector : SectorId) : SectorM σ Unit :=
  SectorM.writeAt sector 0 inode.encode.bytes

/-! ## Looking sectors up -/

/-- The sector at a place of the block map, whatever the length of the file. -/
def lookup (inode : DiskInode) : Location → SectorM σ SectorId
  | .direct index =>
    if inside : index < directCount then pure inode.direct[index]
    else SectorM.fault .outOfBounds
  | .indirect index =>
    if inode.indirect.isAllocated then IndexBlock.entry inode.indirect index
    else pure .unmapped
  | .doubleIndirect outer inner => do
    if inode.doubleIndirect.isAllocated then
      let block ← IndexBlock.entry inode.doubleIndirect outer
      if block.isAllocated then IndexBlock.entry block inner else pure .unmapped
    else pure .unmapped
  | .outOfRange => pure .unmapped

/-- The sector of byte `offset`; none past the end of the file. -/
def byteToSector (inode : DiskInode) (offset : Nat) : SectorM σ SectorId :=
  if offset < inode.size then inode.lookup (locate offset) else pure .unmapped

end DiskInode

end InodeVolume
