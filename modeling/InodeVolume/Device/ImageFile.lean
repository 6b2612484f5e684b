import InodeVolume.Device
import InodeVolume.Device.HostFile

/-!
# Devices in a file

An `ImageFile` keeps sector `i` in the bytes of a host file from `512 * i` on. The number of
sectors is settled when the device is made: a last sector that is not whole does not count, and
writing past the end lengthens the file without adding sectors. Reads and writes move whatever
length they are asked for; a read that does not find so many bytes is refused by the host.
-/

namespace InodeVolume

/-- A device over a host file. -/
structure ImageFile where
  file : HostFile
  sectors : Nat

namespace ImageFile

/-- The device over a host file. -/
def ofFile (file : HostFile) : ImageFile := ⟨file, file.length / sectorSize⟩

/-- The last place in the file that can be moved to: the end of the longest file that there can
be. -/
def reach (image : ImageFile) : Nat := max image.file.length HostFile.lengthLimit

/-- Where sector `index` starts in the file. -/
def seek (index : Nat) : Action ImageFile Nat := do
  let start ← Action.checkedMul index sectorSize
  if start ≤ (← get).reach then return start
  else Action.fault (.host (.move .invalidArgument))

/-- Reads `length` bytes from the start of a sector on. -/
def readSector (index length : Nat) : Action ImageFile (Block length) := do
  let start ← seek index
  let image ← get
  if length = 0 || start + length ≤ image.file.length then
    return image.file.range start length
  else Action.fault (.host .transfer)

/-- Writes bytes from the start of a sector on, as far as the file can reach. -/
def writeSector (index : Nat) (bytes : Bytes) : Action ImageFile Unit := do
  let start ← seek index
  let room := (← get).reach - start
  modify fun ⟨file, sectors⟩ => ⟨file.overwrite start (Bytes.slice bytes 0 room), sectors⟩
  if room < bytes.size then Action.fault (.host .transfer)

instance : BlockDevice ImageFile where
  sectorCount image := image.sectors
  readSector := readSector
  writeSector := writeSector

end ImageFile

end InodeVolume
