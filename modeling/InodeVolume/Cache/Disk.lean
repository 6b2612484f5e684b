import InodeVolume.Cache
import InodeVolume.Device

/-!
# A device behind a cache

All reads and writes of sectors go through the slots of a cache: bytes are copied only while
their sector sits in a slot. A sector that is not there is loaded into an empty slot, or into the
slot that second chance gives up, whose copy is written back first if it is dirty.

A failing operation leaves the cache usable: a victim is flushed before the load that may fail,
the slot stays empty when it does, and a range that does not fit the caller's buffer is noticed
after the load and before anything is copied or marked.
-/

namespace InodeVolume

/-- A device and a cache of `n` slots in front of it. -/
structure CachedDisk (D : Type) (n : Nat) where
  device : D
  cache : Cache n

namespace CachedDisk

variable {D : Type} {n : Nat} {α : Type}

/-- An action on the device. -/
def onDevice (act : Action D α) : Action (CachedDisk D n) α :=
  act.within fun ⟨device, cache⟩ => (device, fun device => ⟨device, cache⟩)

/-- An action on the slots. -/
def onCache (act : Action (Cache n) α) : Action (CachedDisk D n) α :=
  act.within fun ⟨device, cache⟩ => (cache, fun cache => ⟨device, cache⟩)

/-- What a slot holds. -/
def slot (i : Fin n) : Action (CachedDisk D n) Slot := return getElem (← get).cache.slots i i.isLt

/-- Faults unless a range lies within one sector. -/
def requireWithin (offset length : Nat) : Action (CachedDisk D n) Unit := do
  let finish ← Action.checkedAdd offset length
  Action.require (finish ≤ sectorSize) .withinSector

/-- Faults unless a range lies within a buffer of `size` bytes. -/
def requireInside (start length size : Nat) : Action (CachedDisk D n) Unit := do
  let finish ← Action.checkedAdd start length
  if finish ≤ size then pure () else Action.fault .outOfBounds

variable [BlockDevice D]

/-- Writes a slot back if it is dirty, then empties it. -/
def flush (i : Fin n) : Action (CachedDisk D n) Unit := do
  if let some entry ← slot i then
    if entry.dirty then
      onDevice (BlockDevice.writeSector entry.sector.index entry.data.bytes)
  onCache (modify (·.clear i))

/-- An empty slot, made by giving up the victim if there is none. -/
def makeRoom (newcomer : SectorId) : Action (CachedDisk D n) (Fin n) := do
  match (← get).cache.vacant? with
  | some i => return i
  | none =>
    let i ← onCache (modifyGet Cache.victim)
    let given ← slot i
    Action.emit (.cacheEvict (given.map (·.sector)) (given.any (·.dirty)) newcomer)
    flush i
    return i

/-- The slot that holds a sector, loaded if need be, with what it holds. -/
def resident (sector : SectorId) : Action (CachedDisk D n) (Fin n × Entry) := do
  match (← get).cache.find? sector with
  | some (i, entry) =>
    Action.emit (.cacheHit sector i)
    return (i, entry)
  | none =>
    Action.emit (.cacheMiss sector)
    let i ← makeRoom sector
    let data ← onDevice (BlockDevice.readSector sector.index sectorSize)
    let entry := ⟨sector, data, false, false⟩
    onCache (modify (·.put i entry))
    return (i, entry)

/-- Copies `length` bytes of a sector, from `offset` on, into `buffer` at `start`. -/
def readInto (sector : SectorId) (buffer : Bytes) (start length offset : Nat) :
    Action (CachedDisk D n) Bytes := do
  requireWithin offset length
  let (i, entry) ← resident sector
  requireInside start length buffer.size
  onCache (modify (·.put i { entry with accessed := true }))
  return Bytes.splice buffer start (Bytes.slice entry.data.bytes offset length)

/-- Copies `length` bytes of `buffer`, from `start` on, into a sector at `offset`. -/
def writeFrom (sector : SectorId) (buffer : Bytes) (start length offset : Nat) :
    Action (CachedDisk D n) Unit := do
  requireWithin offset length
  let (i, entry) ← resident sector
  requireInside start length buffer.size
  let patch := Bytes.slice buffer start length
  if fits : offset + patch.size ≤ sectorSize then
    let data := entry.data.splice offset patch fits
    onCache (modify (·.put i { entry with data, dirty := true, accessed := true }))
  else Action.fault (.broken .withinSector)

/-- Writes a slot back if it is dirty, and keeps its copy. -/
def clean (i : Fin n) : Action (CachedDisk D n) Unit := do
  if let some entry ← slot i then
    if entry.dirty then
      onDevice (BlockDevice.writeSector entry.sector.index entry.data.bytes)
      onCache (modify (·.put i { entry with dirty := false }))

/-- Writes back every dirty slot. -/
def sync : Action (CachedDisk D n) Unit := (List.finRange n).forM clean

/-- Writes back every dirty slot and empties the cache. -/
def shutdown : Action (CachedDisk D n) Unit := do
  (List.finRange n).forM flush
  onCache (modify fun cache =>
    { cache with hand := ⟨0, Nat.lt_of_le_of_lt (Nat.zero_le _) cache.hand.isLt⟩ })

end CachedDisk

end InodeVolume
