import InodeVolume.Files

/-!
# Volumes

A volume joins the files on a device to a free map. The free map is stored as a file of its own,
whose inode is on sector 0; the root directory's inode is on sector 1. The length of the stored
map is settled when the volume is laid out, so storing it later takes no sectors.

* `layOut` and `restore` begin a new volume and take up an existing one.
* `create`, `remove`, `sync` and `shutdown` work on a volume in use.
-/

namespace InodeVolume

/-- The sector of the free map's inode. -/
def freeMapSector : SectorId := ⟨0⟩

/-- The sector of the root directory's inode. -/
def rootSector : SectorId := ⟨1⟩

/-- Slots of a cache where nothing else is asked for. -/
def defaultCapacity : Nat := 64

/-- The files of a volume and its free map. -/
abbrev Volume := Files FreeMap

namespace Volume

/-- The volume of a device of `sectors` sectors before anything is known of it. -/
def blank (sectors : Nat) : Volume := Files.start (FreeMap.clear sectors)

/-- Sectors that are free. -/
def freeSectors (volume : Volume) : Nat := volume.space.freeCount

/-- Writes the free map to its file. -/
def storeFreeMap : SectorM Volume Unit := do
  let ref ← Files.openAt freeMapSector
  let bytes := (← get).space.toBlock.bytes
  let written ← Files.write ref bytes 0
  Files.close ref
  SectorM.require (written = bytes.size) .sameLength

/-- Stores the free map, and makes permanent what was written. -/
def sync : SectorM Volume Unit := do
  storeFreeMap
  SectorM.syncStore

/-- Stores the free map and gives the store up. -/
def shutdown : SectorM Volume Unit := do
  storeFreeMap
  let inodes := (← get).table.openCount
  if inodes > 0 then SectorM.emit (.shutDownWhileOpen inodes)
  SectorM.shutdownStore
  SectorM.emit .shutDown

/-! ## Beginning -/

/-- Lays out an empty volume: the file of the free map and an empty root directory. -/
def layOut : SectorM Volume Unit := do
  SectorM.perform (Files.onSpace (FreeMap.reserve freeMapSector))
  SectorM.perform (Files.onSpace (FreeMap.reserve rootSector))
  let length := (← get).space.byteLength
  Files.inSpace (DiskInode.create freeMapSector length false)
  Files.inSpace (DiskInode.create rootSector 0 true)
  sync
  SectorM.emit (.formatted (← get).freeSectors)

/-- Takes up the volume on the store: its free map is read back. -/
def restore : SectorM Volume Unit := do
  let ref ← Files.openAt freeMapSector
  let needed := (← get).space.byteLength
  let bytes ← Files.read ref 0 needed
  Files.close ref
  if bytes.size ≠ needed then
    SectorM.emit (.freeMapTooShort bytes.size needed)
    SectorM.report (.badMagic freeMapSector)
  SectorM.perform (Files.onSpace (FreeMap.load bytes))
  SectorM.emit (.mounted (← get).freeSectors)

/-! ## Files of a volume -/

/-- Makes a file of `length` zeros and gives the sector of its inode. If that fails the sector
is free again; data sectors that the inode had got are not. -/
def create (length : Nat) (isDir : Bool) : SectorM Volume SectorId := do
  match ← SectorM.perform (Files.onSpace (FreeMap.allocate 1)) with
  | none => SectorM.report .noSpace
  | some sector =>
    match ← (Files.inSpace (DiskInode.create sector length isDir)).attempt with
    | .ok () => return sector
    | .error error =>
      SectorM.perform (Files.onSpace (FreeMap.release sector 1))
      SectorM.report error

/-- Opens the root directory. -/
def openRoot : SectorM Volume InodeRef := Files.openAt rootSector

/-- Removes the file on a sector, at once or when the last who has it open closes it. -/
def remove (sector : SectorId) : SectorM Volume Unit := do
  let ref ← Files.openAt sector
  SectorM.perform (Files.onTable (InodeTable.remove ref))
  Files.close ref

end Volume

end InodeVolume
