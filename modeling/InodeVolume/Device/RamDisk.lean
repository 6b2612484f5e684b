import InodeVolume.Device

/-!
# Devices in memory

A `RamDisk` is an array of sectors that counts how often the driver read and wrote it. A
request is counted before its sector is looked up, so one past the end counts as well.
-/

namespace InodeVolume

/-- A device in memory, with the number of reads and writes so far. -/
structure RamDisk where
  sectors : Array Sector
  reads : Nat
  writes : Nat

namespace RamDisk

/-- A device of `count` sectors, all zero. -/
def zeroed (count : Nat) : RamDisk := ⟨Array.replicate count Block.zero, 0, 0⟩

/-- Reads a sector into a buffer that must be one sector long. -/
def readSector (index length : Nat) : Action RamDisk (Block length) := do
  if whole : length = sectorSize then
    modify fun disk => { disk with reads := disk.reads + 1 }
    match (← get).sectors[index]? with
    | some sector => return whole ▸ sector
    | none => Action.fault .outOfBounds
  else Action.fault (.broken .wholeSector)

/-- Writes a sector from a buffer that must be one sector long. -/
def writeSector (index : Nat) (bytes : Bytes) : Action RamDisk Unit := do
  match Block.ofBytes? bytes with
  | some sector =>
    modify fun disk => { disk with writes := disk.writes + 1 }
    if index < (← get).sectors.size then
      modify fun disk => { disk with sectors := disk.sectors.setIfInBounds index sector }
    else Action.fault .outOfBounds
  | none => Action.fault (.broken .wholeSector)

instance : BlockDevice RamDisk where
  sectorCount disk := disk.sectors.size
  readSector := readSector
  writeSector := writeSector

/-- A copy of a sector, taken past the driver and not counted. -/
def snapshot (index : Nat) : Action RamDisk Sector := do
  match (← get).sectors[index]? with
  | some sector => return sector
  | none => Action.fault .outOfBounds

/-- A device of `count` sectors that starts with the leading sectors of another. Each sector
that is carried over counts as one write. -/
def resized (disk : RamDisk) (count : Nat) : RamDisk :=
  let kept := disk.sectors.extract 0 count
  ⟨kept ++ Array.replicate (count - kept.size) Block.zero, 0, kept.size⟩

end RamDisk

end InodeVolume
