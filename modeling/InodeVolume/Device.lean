import InodeVolume.Action

/-!
# Block devices

A block device holds sectors numbered from 0 and moves them one at a time. Reads and writes
name the length of the caller's buffer, because devices differ in what they do with a buffer
that is not a sector.
-/

namespace InodeVolume

/-- Devices that are read and written by sector. -/
class BlockDevice (D : Type) where
  /-- How many sectors the device has. -/
  sectorCount : D → Nat
  /-- Reads sector `index` into a buffer of `length` bytes. -/
  readSector (index length : Nat) : Action D (Block length)
  /-- Writes a buffer to sector `index`. -/
  writeSector (index : Nat) (bytes : Bytes) : Action D Unit

end InodeVolume
