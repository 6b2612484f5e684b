import InodeVolume.Space
import InodeVolume.Layout.DiskInode

/-!
# Growing and freeing a block map

A `Draft` is an inode in memory together with the allocator that its sectors come from. Growing
works on a draft, so what a growth that stops half-way has already entered stays entered.

* `register` enters a sector at a place, making the index blocks on the way.
* `grow` gives every logical sector of a longer file a sector of zeros, from the first missing
  one on. Only growth that reaches its end changes the length.
* `freeSectors` gives back all sectors of a map, each level up to its first empty entry. Files
  grow in order, so nothing lies behind an empty entry.
-/

namespace InodeVolume

/-- An inode that is being changed, and the allocator for its sectors. -/
structure Draft (A : Type) where
  inode : DiskInode
  space : A

/-- A sector of zeros. -/
def zeroSector : Sector := Block.zero

namespace Draft

variable {A α : Type}

/-- An action on the allocator of a draft. -/
def onSpace (act : Action A α) : Action (Draft A) α :=
  act.within fun ⟨inode, space⟩ => (space, fun space => ⟨inode, space⟩)

/-- Changes the inode of a draft. -/
def change (f : DiskInode → DiskInode) : SectorM (Draft A) Unit :=
  modify fun ⟨inode, space⟩ => ⟨f inode, space⟩

variable [Allocator A]

/-- Asks for one sector. -/
def request : SectorM (Draft A) (Option SectorId) :=
  SectorM.perform (onSpace (Allocator.allocate 1))

/-- Asks for one sector and reports an error if there is none. -/
def take : SectorM (Draft A) SectorId := do
  match ← request with
  | some sector => return sector
  | none => SectorM.report .noSpace

/-- Gives a sector back. -/
def giveBack (sector : SectorId) : SectorM (Draft A) Unit :=
  SectorM.perform (onSpace (Allocator.release sector 1))

/-! ## Entering a sector -/

/-- Enters a sector in the inode itself. -/
def registerDirect (sector : SectorId) (index : Nat) : SectorM (Draft A) Unit :=
  if inside : index < directCount then
    change fun inode => { inode with direct := inode.direct.set index sector }
  else SectorM.fault .outOfBounds

/-- Enters a sector in the index block. -/
def registerIndirect (sector : SectorId) (index : Nat) : SectorM (Draft A) Unit := do
  let inode := (← get).inode
  let block ←
    if inode.indirect.isAllocated then IndexBlock.load inode.indirect
    else
      let fresh ← take
      change fun inode => { inode with indirect := fresh }
      pure IndexBlock.empty
  let block ← SectorM.perform (Action.ofExcept (block.replace index sector))
  block.store (← get).inode.indirect

/-- The outer index block. A new one is stored empty before anything is entered in it. -/
def outerBlock : SectorM (Draft A) IndexBlock := do
  let inode := (← get).inode
  if inode.doubleIndirect.isAllocated then IndexBlock.load inode.doubleIndirect
  else
    let fresh ← take
    change fun inode => { inode with doubleIndirect := fresh }
    IndexBlock.empty.store fresh
    return IndexBlock.empty

/-- Enters a sector in an index block named by the outer one. -/
def registerDouble (sector : SectorId) (outerIndex innerIndex : Nat) :
    SectorM (Draft A) Unit := do
  let outer ← outerBlock
  let held ← SectorM.perform (Action.ofExcept (outer.fetch outerIndex))
  let (outer, innerSector, inner) ←
    if held.isAllocated then
      let inner ← IndexBlock.load held
      pure (outer, held, inner)
    else
      let fresh ← take
      let outer ← SectorM.perform (Action.ofExcept (outer.replace outerIndex fresh))
      pure (outer, fresh, IndexBlock.empty)
  let inner ← SectorM.perform (Action.ofExcept (inner.replace innerIndex sector))
  outer.store (← get).inode.doubleIndirect
  inner.store innerSector

/-- Enters a sector at a place of the block map. -/
def register (sector : SectorId) : Location → SectorM (Draft A) Unit
  | .direct index => registerDirect sector index
  | .indirect index => registerIndirect sector index
  | .doubleIndirect outer inner => registerDouble sector outer inner
  | .outOfRange => SectorM.report .outOfRange

/-! ## Growing -/

/-- Gives logical sector `index` a sector of zeros, unless it has one. A sector that cannot be
entered is given back at once, since nothing would lead to it. -/
def extend (old new index : Nat) : SectorM (Draft A) Unit := do
  let place := locate (index * sectorSize)
  if (← (← get).inode.lookup place).isAllocated then return
  match ← request with
  | none =>
    SectorM.emit (.growthOutOfSectors old new)
    SectorM.report .noSpace
  | some sector =>
    match ← (register sector place).attempt with
    | .ok () => SectorM.writeAt sector 0 zeroSector.bytes
    | .error error =>
      giveBack sector
      SectorM.emit (.growthUnregistered sector place error)
      SectorM.report error

/-- Lengthens the file to `new` bytes. -/
def grow (new : Nat) : SectorM (Draft A) Unit := do
  let old := (← get).inode.size
  if new ≤ old then return
  if dataSectors new > maxFileSectors then
    SectorM.emit (.growthUnaddressable new)
    SectorM.report .outOfRange
  (List.range' (dataSectors old) (dataSectors new - dataSectors old)).forM (extend old new)
  SectorM.emit (.grew old new)
  change fun inode => { inode with length := UInt32.ofNat new }

/-- Works on a draft of an inode, and gives the inode as it is then beside the result. -/
def edit (inode : DiskInode) : SectorM (Draft A) α → SectorM A (α × DiskInode)
  | .done a => .done (a, inode)
  | .act (β := β) step next =>
    .act (fun ⟨space, log⟩ =>
      match step ⟨⟨inode, space⟩, log⟩ with
      | .ok b ⟨draft, log⟩ => .ok (b, draft.inode) ⟨draft.space, log⟩
      | .error failure ⟨draft, log⟩ => .error failure ⟨draft.space, log⟩ : Action A (β × DiskInode))
      fun (b, inode) => edit inode (next b)
  | .read sector offset length next => .read sector offset length fun b => edit inode (next b)
  | .write sector offset bytes next => .write sector offset bytes fun u => edit inode (next u)
  | .sync next => .sync fun u => edit inode (next u)
  | .shutdown next => .shutdown fun u => edit inode (next u)

end Draft

/-! ## Freeing -/

namespace DiskInode

variable {A : Type} [Allocator A]

/-- Gives one sector back. -/
def releaseOne (sector : SectorId) : SectorM A Unit :=
  SectorM.perform (Allocator.release sector 1)

/-- Gives back the sectors in an index block, then the block. -/
def freeBlock (sector : SectorId) : SectorM A Unit := do
  let block ← IndexBlock.load sector
  block.allocated.forM releaseOne
  releaseOne sector

/-- Gives back every sector of the block map: data first, then the index blocks above it. -/
def freeSectors (inode : DiskInode) : SectorM A Unit := do
  (inode.direct.toList.takeWhile (·.isAllocated)).forM releaseOne
  if inode.indirect.isAllocated then freeBlock inode.indirect
  if inode.doubleIndirect.isAllocated then
    let outer ← IndexBlock.load inode.doubleIndirect
    outer.allocated.forM freeBlock
    releaseOne inode.doubleIndirect

end DiskInode

end InodeVolume
