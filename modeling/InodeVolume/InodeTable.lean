import InodeVolume.SectorM
import InodeVolume.Layout.DiskInode

/-!
# Open inodes

All who open one sector share one inode in memory. An `InodeTable` keeps those inodes by number
and lists, per sector, the one that is open there. Closing counts down; the last close takes the
inode off the list. Its number stays good for whoever still holds it, so a stale handle reaches
its own inode and never a later one on the same sector.

Openers and denials are counted in 32 bits. One more than these can tell is a fault, and the count
stays as it was.
-/

namespace InodeVolume

/-- An inode in memory: how many have it open, how many of them deny writing, and whether it is
to be removed at the last close. -/
structure OpenInode where
  sector : SectorId
  opens : UInt32
  denials : UInt32
  removed : Bool
deriving DecidableEq, Inhabited

/-- How many have an inode open. -/
def OpenInode.openCount (inode : OpenInode) : Nat := inode.opens.toNat

/-- How many deny writing to an inode. -/
def OpenInode.denyCount (inode : OpenInode) : Nat := inode.denials.toNat

/-- The number of an inode in memory. -/
structure InodeRef where
  index : Nat
deriving DecidableEq, Inhabited

/-- The inodes in memory, and which of them is open on which sector. -/
structure InodeTable where
  inodes : Array OpenInode
  listed : List (SectorId × InodeRef)
deriving Inhabited

namespace InodeTable

/-- No inode is open. -/
def empty : InodeTable := ⟨#[], []⟩

/-- How many inodes are listed. -/
def openCount (table : InodeTable) : Nat := table.listed.length

/-- The inode that is open on a sector. -/
def find? (table : InodeTable) (sector : SectorId) : Option InodeRef := table.listed.lookup sector

/-- The inode of a number. A number that was never given out stands for an inode that nobody
has open. -/
def inode (table : InodeTable) (ref : InodeRef) : OpenInode :=
  table.inodes[ref.index]?.getD default

/-- The table with one inode changed. -/
def update (ref : InodeRef) (f : OpenInode → OpenInode) (table : InodeTable) : InodeTable :=
  { table with inodes := table.inodes.modify ref.index f }

/-- Lists a new inode on a sector, opened once. -/
def insert (sector : SectorId) (table : InodeTable) : InodeRef × InodeTable :=
  let ref := ⟨table.inodes.size⟩
  (ref, ⟨table.inodes.push ⟨sector, 1, 0, false⟩, (sector, ref) :: table.listed⟩)

/-- Takes the inode on a sector off the list. -/
def erase (sector : SectorId) (table : InodeTable) : InodeTable :=
  { table with listed := table.listed.filter (·.1 != sector) }

/-! ## Opening and closing -/

/-- Opens an inode once more. -/
def reopen (ref : InodeRef) : Action InodeTable Unit := do
  let opens ← Action.checkedNext ((← get).inode ref).opens
  modify (update ref fun inode => { inode with opens })

/-- Opens the inode on a sector, which must hold one unless it is open already. -/
def openAt (sector : SectorId) : SectorM InodeTable InodeRef := do
  match (← get).find? sector with
  | some ref =>
    SectorM.perform (reopen ref)
    return ref
  | none =>
    if (← DiskInode.load sector).isValid then
      let ref ← modifyGet (insert sector)
      SectorM.emit (.opened sector)
      return ref
    else
      SectorM.emit (.notAnInode sector)
      SectorM.report (.badMagic sector)

/-- Counts an inode closed, and gives it if nobody has it open any more. -/
def leave (ref : InodeRef) : Action InodeTable (Option OpenInode) := do
  let inode := (← get).inode ref
  Action.require (inode.openCount > 0) (.closedOnce inode.sector)
  modify (update ref fun inode => { inode with opens := inode.opens - 1 })
  return if inode.openCount > 1 then none else some inode

/-- Takes the inode on a sector off the list at its last close. -/
def withdraw (sector : SectorId) : Action InodeTable Unit := do
  modify (erase sector)
  Action.emit (.closed sector)

/-! ## Marks on an open inode -/

/-- Marks an inode for removal at its last close. -/
def remove (ref : InodeRef) : Action InodeTable Unit :=
  modify (update ref fun inode => { inode with removed := true })

/-- Denies writing. Every opener may do so once. -/
def denyWrite (ref : InodeRef) : Action InodeTable Unit := do
  let denials ← Action.checkedNext ((← get).inode ref).denials
  modify (update ref fun inode => { inode with denials })
  let inode := (← get).inode ref
  Action.require (inode.denyCount ≤ inode.openCount) .denialsCovered

/-- Takes a denial back, before its opener closes. -/
def allowWrite (ref : InodeRef) : Action InodeTable Unit := do
  let inode := (← get).inode ref
  Action.require (inode.denyCount > 0) .someDenial
  Action.require (inode.denyCount ≤ inode.openCount) .denialsCovered
  modify (update ref fun inode => { inode with denials := inode.denials - 1 })

end InodeTable

end InodeVolume
