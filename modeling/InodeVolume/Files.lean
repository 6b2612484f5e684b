import InodeVolume.BlockMap
import InodeVolume.Contents
import InodeVolume.InodeTable

/-!
# Files

A file is an inode on a sector with the bytes its block map leads to. `Files A` joins the table
of open inodes to the allocator that files take their sectors from.

* `create` makes a file, `write` lengthens one when it must, and the last `close` of a removed
  file gives all its sectors back.
* A growth that fails keeps what it had entered: the inode is stored either way, so no sector is
  lost.
-/

namespace InodeVolume

/-- The open inodes, and the allocator for the sectors of files. -/
structure Files (A : Type) where
  table : InodeTable
  space : A

/-- What a file is. -/
inductive FileKind where
  | dir
  | file
deriving DecidableEq, Inhabited

namespace FileKind

/-- The bit that stands for the kind in a file mode. -/
def flag : FileKind → Nat
  | dir => 0o040000
  | file => 0o100000

/-- How the kind is written. -/
def text : FileKind → String
  | dir => "DIR"
  | file => "FILE"

end FileKind

/-- What is told of a file: `sectors` counts data and index blocks for its length. -/
structure Stat where
  sector : SectorId
  kind : FileKind
  length : Nat
  sectors : Nat
deriving DecidableEq

/-! ## One inode on a sector -/

namespace DiskInode

variable {σ : Type}

/-- The inode of an open file, which its sector must still hold. -/
def ofOpen (sector : SectorId) : SectorM σ DiskInode := do
  let inode ← load sector
  SectorM.require inode.isValid (.keptMagic sector)
  return inode

/-- What is told of the file on a sector. -/
def stat (inode : DiskInode) (sector : SectorId) : Stat where
  sector := sector
  kind := if inode.isDir then .dir else .file
  length := inode.size
  sectors := totalSectors inode.size

variable {A : Type} [Allocator A]

/-- Makes a new inode on a sector, its file `length` zeros long. -/
def create (sector : SectorId) (length : Nat) (isDir : Bool) : SectorM A Unit := do
  let (result, inode) ← Draft.edit (empty isDir) (Draft.grow length).attempt
  inode.store sector
  match result with
  | .ok () => SectorM.emit (.created sector length isDir none)
  | .error error =>
    SectorM.emit (.created sector length isDir (some error))
    SectorM.report error

/-- Lengthens the file on a sector if it can, and stores the inode either way. -/
def lengthen (inode : DiskInode) (sector : SectorId) (length : Nat) : SectorM A DiskInode := do
  let (result, inode) ← Draft.edit inode (Draft.grow length).attempt
  if let .error error := result then
    SectorM.emit (.writeNotGrown sector length error)
  inode.store sector
  return inode

/-- Gives back all sectors of the file on a sector, and the sector. -/
def reclaim (sector : SectorId) : SectorM A Unit := do
  let inode ← ofOpen sector
  inode.freeSectors
  releaseOne sector
  SectorM.emit (.reclaimed sector inode.size)

end DiskInode

/-! ## Open files -/

namespace Files

variable {A α : Type}

/-- No file is open. -/
def start (space : A) : Files A := ⟨.empty, space⟩

/-- An action on the table. -/
def onTable (act : Action InodeTable α) : Action (Files A) α :=
  act.within fun ⟨table, space⟩ => (table, fun table => ⟨table, space⟩)

/-- An action on the allocator. -/
def onSpace (act : Action A α) : Action (Files A) α :=
  act.within fun ⟨table, space⟩ => (space, fun space => ⟨table, space⟩)

/-- A computation on the table. -/
def inTable (computation : SectorM InodeTable α) : SectorM (Files A) α := computation.hoist onTable

/-- A computation on the allocator. -/
def inSpace (computation : SectorM A α) : SectorM (Files A) α := computation.hoist onSpace

/-- An open inode. -/
def inode (ref : InodeRef) : SectorM (Files A) OpenInode := return (← get).table.inode ref

/-- Opens the file on a sector. -/
def openAt (sector : SectorId) : SectorM (Files A) InodeRef := inTable (InodeTable.openAt sector)

/-- Opens a file once more. -/
def reopen (ref : InodeRef) : SectorM (Files A) Unit :=
  SectorM.perform (onTable (InodeTable.reopen ref))

/-- The bytes of an open file from `offset` on, `wanted` of them as far as they are there. -/
def read (ref : InodeRef) (offset wanted : Nat) : SectorM (Files A) Bytes := do
  let inode ← DiskInode.ofOpen (← inode ref).sector
  inode.read offset wanted

/-- Reads an open file from `offset` on into a buffer, and gives how many bytes were there. -/
def readInto (ref : InodeRef) (buffer : Bytes) (offset : Nat) :
    SectorM (Files A) (Nat × Bytes) := do
  let inode ← DiskInode.ofOpen (← inode ref).sector
  inode.readInto buffer offset

/-- Bytes in an open file. -/
def length (ref : InodeRef) : SectorM (Files A) Nat := do
  return (← DiskInode.ofOpen (← inode ref).sector).size

/-- Whether an open file is a directory. -/
def isDir (ref : InodeRef) : SectorM (Files A) Bool := do
  return (← DiskInode.ofOpen (← inode ref).sector).isDir

/-- What is told of an open file. -/
def stat (ref : InodeRef) : SectorM (Files A) Stat := do
  let sector := (← inode ref).sector
  return (← DiskInode.ofOpen sector).stat sector

variable [Allocator A]

/-- Writes to an open file and gives the number of bytes written: none while writing is denied,
and only what lies within the file where it cannot be lengthened. -/
def write (ref : InodeRef) (source : Bytes) (offset : Nat) : SectorM (Files A) Nat := do
  let opened ← inode ref
  if opened.denyCount > 0 || source.size = 0 then return 0
  let finish := offset + source.size
  if wordLimit ≤ finish then
    SectorM.emit (.offsetOverflow offset)
    return 0
  let inode ← DiskInode.ofOpen opened.sector
  let inode ←
    if finish > inode.size then inSpace (inode.lengthen opened.sector finish) else pure inode
  inode.write source offset

/-- Closes a file. The last to close a removed file gives its sectors back. -/
def close (ref : InodeRef) : SectorM (Files A) Unit := do
  let last ← SectorM.perform (onTable (InodeTable.leave ref))
  if let some inode := last then
    SectorM.perform (onTable (InodeTable.withdraw inode.sector))
    if inode.removed then inSpace (DiskInode.reclaim inode.sector)

end Files

end InodeVolume
