import InodeVolume.Layout.DiskInode

/-!
# The bytes of a file

Reading and writing walk over the sectors of a range, one piece after the other. A piece ends
with the range, with its sector or with the file, whichever comes first; the walk ends at the end
of the range or of the file, or at the first sector that is not mapped. Neither changes the
length.
-/

namespace InodeVolume

/-- Bytes that can be moved at once from `offset` on: no more than are asked for, than are left
in the sector, and than are left in a file of `size` bytes. -/
def pieceLength (size offset wanted : Nat) : Nat :=
  min (min wanted (sectorSize - offset % sectorSize)) (size - offset)

theorem pieceLength_pos {size offset wanted : Nat} (some_wanted : wanted ≠ 0)
    (inside : offset < size) : 0 < pieceLength size offset wanted := by
  have := Nat.mod_lt offset (show 0 < sectorSize by decide)
  simp only [pieceLength]
  omega

namespace DiskInode

variable {σ : Type}

/-- Appends to `taken` the bytes of the file from `offset` on, `wanted` of them as far as they
are there. -/
def readFrom (inode : DiskInode) (taken : Bytes) (offset wanted : Nat) : SectorM σ Bytes :=
  if _ : wanted = 0 then pure taken
  else if _ : offset < inode.size then do
    let sector ← inode.lookup (locate offset)
    if sector.isAllocated then
      let length := pieceLength inode.size offset wanted
      let piece ← SectorM.readAt sector (offset % sectorSize) length
      inode.readFrom (taken ++ piece.bytes) (offset + length) (wanted - length)
    else pure taken
  else pure taken
termination_by wanted
decreasing_by
  have := pieceLength_pos ‹¬wanted = 0› ‹offset < inode.size›
  omega

/-- The bytes of the file from `offset` on, `wanted` of them as far as they are there. -/
def read (inode : DiskInode) (offset wanted : Nat) : SectorM σ Bytes :=
  inode.readFrom .empty offset wanted

/-- Reads from `offset` on into a buffer, from its front on, and gives how many bytes were there.
The rest of the buffer stays as it was. -/
def readInto (inode : DiskInode) (buffer : Bytes) (offset : Nat) : SectorM σ (Nat × Bytes) := do
  let bytes ← inode.read offset buffer.size
  return (bytes.size, Bytes.splice buffer 0 bytes)

/-- Writes the bytes of `source` from `done` on to the file from `offset` on, as far as the file
reaches, and gives how many bytes of `source` are then written. -/
def writeFrom (inode : DiskInode) (source : Bytes) (done offset : Nat) : SectorM σ Nat :=
  if _ : source.size ≤ done then pure done
  else if _ : offset < inode.size then do
    let sector ← inode.lookup (locate offset)
    if sector.isAllocated then
      let length := pieceLength inode.size offset (source.size - done)
      SectorM.writeAt sector (offset % sectorSize) (Bytes.slice source done length)
      inode.writeFrom source (done + length) (offset + length)
    else pure done
  else pure done
termination_by source.size - done
decreasing_by
  have := pieceLength_pos (show source.size - done ≠ 0 by omega) ‹offset < inode.size›
  omega

/-- Writes `source` to the file from `offset` on, as far as the file reaches, and gives the
number of bytes written. -/
def write (inode : DiskInode) (source : Bytes) (offset : Nat) : SectorM σ Nat :=
  inode.writeFrom source 0 offset

end DiskInode

end InodeVolume
