import InodeVolume.HostError
import InodeVolume.Sector

/-!
# Failures

An operation fails in one of two ways.

* It *reports* an `Error`, a condition that callers are expected to meet: no space, a length
  beyond the block map, a sector that holds no inode. Callers may go on after it.
* It hits a `Fault`: a caller broke a rule, or a sector number points past the device. Nothing
  catches a fault; what was changed before it stays changed.
-/

namespace InodeVolume

/-- Conditions that operations report. -/
inductive Error where
  /-- No free sector is left. -/
  | noSpace
  /-- The length is beyond what a block map can address. -/
  | outOfRange
  /-- The sector holds no inode. -/
  | badMagic (sector : SectorId)
deriving DecidableEq, Inhabited

/-- Rules that callers must keep, each with what breaks it. -/
inductive Rule where
  /-- Devices move whole sectors only. -/
  | wholeSector
  /-- A cache has at least one slot. -/
  | someSlot
  /-- A range of bytes lies within one sector. -/
  | withinSector
  /-- Only a free sector is reserved. -/
  | reservedOnce (sector : SectorId)
  /-- Only allocated sectors are released. -/
  | releasedAllocated (bit : Nat)
  /-- Runs of sectors are not empty. -/
  | nonemptyRun
  /-- A stored free map is as long as the map in memory. -/
  | sameLength
  /-- An inode is closed as often as it was opened. -/
  | closedOnce (sector : SectorId)
  /-- The sector of an open inode keeps holding an inode. -/
  | keptMagic (sector : SectorId)
  /-- Only what was denied is allowed again. -/
  | someDenial
  /-- There are no more denials than openers. -/
  | denialsCovered
deriving DecidableEq, Inhabited

/-- What a host does not do with a file. -/
inductive HostRefusal where
  /-- It does not move to the place that was asked for. -/
  | move (error : HostError)
  /-- It does not read or write all the bytes that were asked for. -/
  | transfer
deriving DecidableEq, Inhabited

/-- Why an operation could not go on. -/
inductive Fault where
  | broken (rule : Rule)
  /-- A place past the end of a table, a byte string or a device. -/
  | outOfBounds
  /-- Arithmetic past 64 bits. -/
  | overflow
  /-- The host refused to work on its file. -/
  | host (refusal : HostRefusal)
  /-- The host has not so much memory. -/
  | memory
deriving DecidableEq, Inhabited

/-- A reported error or a fault. -/
inductive Failure where
  | reported (error : Error)
  | fault (fault : Fault)
deriving DecidableEq, Inhabited

namespace Error

/-- The text of an error. -/
def text : Error → String
  | noSpace => "NoSpace"
  | outOfRange => "OutOfRange"
  | badMagic sector => s!"BadMagic({sector.text})"

end Error

namespace HostRefusal

/-- The text of a refusal, where it is told. -/
def text? : HostRefusal → Option String
  | move error => some ("seeking error: " ++ error.text)
  | transfer => none

end HostRefusal

namespace Rule

/-- The text that names a broken rule. -/
def text : Rule → String
  | wholeSector => "not a complete sector!"
  | someSlot => "buffer cache needs at least one slot"
  | withinSector => "sector_offset + length <= SECTOR_SIZE"
  | reservedOnce sector => s!"{sector.text} is already allocated"
  | releasedAllocated bit => s!"sector {bit} is not allocated"
  | nonemptyRun => "count > 0"
  | sameLength => "\x60left == right\x60 failed"
  | closedOnce sector => s!"closing {sector.text} too many times"
  | keptMagic sector => s!"{sector.text} lost its magic"
  | someDenial => "state.deny_write_count > 0"
  | denialsCovered => "state.deny_write_count <= state.open_count"

end Rule

end InodeVolume
