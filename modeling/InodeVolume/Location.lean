import InodeVolume.Failure

/-!
# Places in a block map

A file's bytes lie in logical sectors 0, 1, 2, …; the block map of its inode gives each of them
a place on one of three tiers: directly in the inode, in one index block, or in an index block
named by an outer index block.

* `locate` finds the place of a byte offset and `sectorIndex?` the logical sector of a place.
* `dataSectors` and `totalSectors` count what a file of a given length needs.
-/

namespace InodeVolume

/-- Entries an inode holds directly, as many as make it fill one sector. -/
def directCount : Nat := 123

/-- Entries of an index block. -/
def indexCount : Nat := 128

/-- Logical sectors reachable without the outer index block. -/
def singleLimit : Nat := directCount + indexCount

/-- The most logical sectors a file can have. -/
def maxFileSectors : Nat := singleLimit + indexCount * indexCount

/-- A place in a block map. -/
inductive Location where
  | direct (index : Nat)
  | indirect (index : Nat)
  | doubleIndirect (outer inner : Nat)
  | outOfRange
deriving DecidableEq, Inhabited

/-- The place of the logical sector numbered `index`. -/
def Location.ofSectorIndex (index : Nat) : Location :=
  if index < directCount then .direct index
  else if index < singleLimit then .indirect (index - directCount)
  else if index < maxFileSectors then
    .doubleIndirect ((index - singleLimit) / indexCount) ((index - singleLimit) % indexCount)
  else .outOfRange

/-- The place of the logical sector that holds byte `offset` of a file. -/
def locate (offset : Nat) : Location := .ofSectorIndex (offset / sectorSize)

namespace Location

/-- The logical sector of a place, whatever the size of its indices. -/
def sectorIndex? : Location → Option Nat
  | direct index => some index
  | indirect index => some (directCount + index)
  | doubleIndirect outer inner => some (singleLimit + outer * indexCount + inner)
  | outOfRange => none

/-- The logical sector of a place, a fault where its number needs more than 64 bits. -/
def sectorIndex (place : Location) : Except Failure (Option Nat) :=
  match place.sectorIndex? with
  | some index => if index < wordLimit then .ok (some index) else .error (.fault .overflow)
  | none => .ok none

/-- How a place is written in messages. -/
def text : Location → String
  | direct index => s!"Direct({index})"
  | indirect index => s!"Indirect({index})"
  | doubleIndirect outer inner => s!"DoubleIndirect({outer}, {inner})"
  | outOfRange => "OutOfRange"

end Location

/-! ## Space needed by a file -/

/-- Data sectors of a file of `length` bytes. -/
def dataSectors (length : Nat) : Nat := (length + (sectorSize - 1)) / sectorSize

/-- Data sectors and index blocks of a file of `length` bytes. -/
def totalSectors (length : Nat) : Nat :=
  let data := dataSectors length
  let single := if data > directCount then 1 else 0
  let double :=
    if data > singleLimit then 1 + (data - singleLimit + (indexCount - 1)) / indexCount else 0
  data + single + double

end InodeVolume
