import InodeVolume.Device.RamDisk
import InodeVolume.Device.ImageFile

/-!
# Devices of either kind

A `Disk` is a device in memory or in a file, for programs that work with both.
-/

namespace InodeVolume

/-- A device in memory or in a file. -/
inductive Disk where
  | ram (disk : RamDisk)
  | image (disk : ImageFile)

namespace Disk

variable {α : Type}

instance : Inhabited Disk := ⟨ram (.zeroed 0)⟩

/-- Does the one or the other, by the kind of the device. -/
def byKind (onRam : Action RamDisk α) (onImage : Action ImageFile α) : Action Disk α
  | ⟨.ram disk, log⟩ =>
    match onRam ⟨disk, log⟩ with
    | .ok a ⟨disk, log⟩ => .ok a ⟨.ram disk, log⟩
    | .error failure ⟨disk, log⟩ => .error failure ⟨.ram disk, log⟩
  | ⟨.image disk, log⟩ =>
    match onImage ⟨disk, log⟩ with
    | .ok a ⟨disk, log⟩ => .ok a ⟨.image disk, log⟩
    | .error failure ⟨disk, log⟩ => .error failure ⟨.image disk, log⟩

instance : BlockDevice Disk where
  sectorCount
    | .ram disk => BlockDevice.sectorCount disk
    | .image disk => BlockDevice.sectorCount disk
  readSector index length :=
    byKind (BlockDevice.readSector index length) (BlockDevice.readSector index length)
  writeSector index bytes :=
    byKind (BlockDevice.writeSector index bytes) (BlockDevice.writeSector index bytes)

/-- Bytes in the device: what is past the last whole sector of a file counts as well. -/
def size : Disk → Nat
  | .ram disk => disk.sectors.size * sectorSize
  | .image disk => disk.file.length

/-- The sectors that do not hold zeros alone, with their numbers and bytes. The last one of a file
may be short. -/
def liveSectors : Disk → List (Nat × Bytes)
  | .ram disk => disk.sectors.toList.zipIdx.filterMap fun (sector, number) =>
    if sector.isZero then none else some (number, sector.bytes)
  | .image disk => disk.file.livePages

end Disk

end InodeVolume
