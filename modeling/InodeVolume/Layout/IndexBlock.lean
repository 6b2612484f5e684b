import InodeVolume.SectorM
import InodeVolume.Layout.Words

/-!
# Index blocks

An index block fills a sector with the numbers of 128 others. Whole blocks are loaded and stored
when the block map changes; looking a sector up reads the one word it needs.
-/

namespace InodeVolume

/-- A sector full of sector numbers. -/
abbrev IndexBlock := Vector SectorId indexCount

namespace IndexBlock

variable {σ : Type}

/-- The block with no sector in it. -/
def empty : IndexBlock := Vector.replicate indexCount .unmapped

/-- The block that a sector holds. -/
def decode (sector : Sector) : IndexBlock := (Words.decode sector).map SectorId.mk

/-- The contents of a sector that holds the block. -/
def encode (block : IndexBlock) : Sector := Words.encode (block.map SectorId.raw)

/-- Reads a block. -/
def load (sector : SectorId) : SectorM σ IndexBlock :=
  return decode (← SectorM.readAt sector 0 sectorSize)

/-- Writes a block. -/
def store (block : IndexBlock) (sector : SectorId) : SectorM σ Unit :=
  SectorM.writeAt sector 0 block.encode.bytes

/-- Reads entry `index` of the block in a sector, and nothing else of it. -/
def entry (sector : SectorId) (index : Nat) : SectorM σ SectorId := do
  let offset ← SectorM.perform (Action.checkedMul index Words.wordSize)
  return ⟨Words.ofBytes (← SectorM.readAt sector offset Words.wordSize)⟩

/-- Entry `index`; a fault past the end of the block. -/
def fetch (block : IndexBlock) (index : Nat) : Except Failure SectorId :=
  if inside : index < indexCount then .ok block[index] else .error (.fault .outOfBounds)

/-- The block with entry `index` replaced; a fault past the end of the block. -/
def replace (block : IndexBlock) (index : Nat) (sector : SectorId) : Except Failure IndexBlock :=
  if inside : index < indexCount then .ok (block.set index sector)
  else .error (.fault .outOfBounds)

/-- The sectors before the first entry that holds none. -/
def allocated (block : IndexBlock) : List SectorId := block.toList.takeWhile (·.isAllocated)

end IndexBlock

end InodeVolume
