import InodeVolume.Cache.Disk

/-!
# Stores of sectors

What lies above the cache reads and writes ranges of sectors and does not see where they are
kept. A `SectorStore` is any such keeper; two are given here.

* `CachedDisk`, a device behind a cache.
* `SectorArray`, the sectors themselves: the plain meaning of a store.
-/

namespace InodeVolume

/-- Keepers of sectors. -/
class SectorStore (S : Type) where
  /-- Reads `length` bytes of a sector from `offset` on. -/
  read (sector : SectorId) (offset length : Nat) : Action S (Block length)
  /-- Writes bytes into a sector at `offset`. -/
  write (sector : SectorId) (offset : Nat) (bytes : Bytes) : Action S Unit
  /-- Makes what was written permanent. -/
  sync : Action S Unit
  /-- Makes what was written permanent and gives up all copies. -/
  shutdown : Action S Unit

/-! ## The cached store -/

namespace CachedDisk

variable {D : Type} {n : Nat} [BlockDevice D]

/-- Reads a range of a sector into a buffer of its own. -/
def read (sector : SectorId) (offset length : Nat) : Action (CachedDisk D n) (Block length) := do
  let bytes ← readInto sector (Bytes.fill 0 length) 0 length offset
  match Block.ofBytes? bytes with
  | some block => return block
  | none => Action.fault .outOfBounds

/-- Writes a whole buffer into a sector. -/
def write (sector : SectorId) (offset : Nat) (bytes : Bytes) : Action (CachedDisk D n) Unit :=
  writeFrom sector bytes 0 bytes.size offset

instance : SectorStore (CachedDisk D n) where
  read := read
  write := write
  sync := sync
  shutdown := shutdown

end CachedDisk

/-! ## The plain store -/

/-- A plain array of sectors. -/
structure SectorArray where
  sectors : Array Sector

namespace SectorArray

/-- Reads a range of a sector. -/
def read (sector : SectorId) (offset length : Nat) : Action SectorArray (Block length) := do
  if fits : offset + length ≤ sectorSize then
    match (← get).sectors[sector.index]? with
    | some data => return data.slice offset length fits
    | none => Action.fault .outOfBounds
  else if offset + length < wordLimit then Action.fault (.broken .withinSector)
  else Action.fault .overflow

/-- Writes a range of a sector. -/
def write (sector : SectorId) (offset : Nat) (bytes : Bytes) : Action SectorArray Unit := do
  if fits : offset + bytes.size ≤ sectorSize then
    match (← get).sectors[sector.index]? with
    | some data =>
      modify fun array =>
        ⟨array.sectors.setIfInBounds sector.index (data.splice offset bytes fits)⟩
    | none => Action.fault .outOfBounds
  else if offset + bytes.size < wordLimit then Action.fault (.broken .withinSector)
  else Action.fault .overflow

instance : SectorStore SectorArray where
  read := read
  write := write
  sync := pure ()
  shutdown := pure ()

end SectorArray

end InodeVolume
