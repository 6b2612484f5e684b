import InodeVolume.Device.HostFile
import InodeVolume.HostError

/-!
# The host's files by name

A `Directory` says what stands at each `Place`. A path leads to a place as a host reads it: part
by part from a folder to what has a name in it, where `.` stays and `..` goes up. So every part
but the last must be a folder that is there, also one that the next part leaves again.

`node?` is the view: `node?_insert_self` and `node?_insert_of_ne` say what inserting does to it.
-/

namespace InodeVolume.Packer

/-- The files that a host makes up as they are used: they stay as they are whatever is written to
them. -/
inductive Special where
  /-- Nothing is in it, and it takes everything. -/
  | null
  /-- Zeros without end, and it takes everything. -/
  | zero
  /-- Zeros without end, and it takes nothing. -/
  | full
  /-- What is given to the run to read, and it takes everything. -/
  | input (contents : HostFile)
  /-- Nothing is in it, and what is written to it is printed. -/
  | output
  /-- It cannot be opened. -/
  | terminal

/-- What stands at a place. -/
inductive Node where
  | folder
  | file (file : HostFile)
  | special (special : Special)

/-- A place by the names that lead to it, from the working folder or, after a first `/`, from the
root of all folders. -/
abbrev Place := List String

namespace Place

/-- Where the names of a path begin. -/
def start (path : String) : Place := if path.startsWith "/" then ["/"] else []

/-- Whether a place is the working folder or a folder above it. -/
def isAncestor (place : Place) : Bool := place.all (· == "..")

/-- The folder that a place is in. The root of all folders is in itself. -/
def parent (place : Place) : Place :=
  if place.isAncestor then place ++ [".."]
  else if place == ["/"] then place
  else place.dropLast

/-- The place that one more name leads to. -/
def next (place : Place) : (name : String) → Place
  | "." => place
  | ".." => place.parent
  | name => place ++ [name]

end Place

/-- The names of a path. Slashes in a row divide as one does. -/
def namesOf (path : String) : List String := (path.splitOn "/").filter (· != "")

/-- Bytes in a path are fewer. -/
def pathLimit : Nat := 4096

/-- Bytes in a name are no more. -/
def nameLimit : Nat := 255

/-- What stands at which place; of two nodes for one place the first counts. -/
structure Directory where
  nodes : List (Place × Node)

namespace Directory

/-- The folders where a run finds its open files by their numbers. -/
def openFileFolders : List Place := [["/", "dev", "fd"], ["/", "proc", "self", "fd"]]

/-- The folders that every host has. -/
def hostFolders : List Place :=
  ["bin", "boot", "dev", "etc", "home", "lib", "media", "mnt", "opt", "proc", "root", "run",
    "sbin", "srv", "sys", "tmp", "usr", "var"].map (["/", ·]) ++
  [["/", "dev", "pts"], ["/", "dev", "shm"], ["/", "proc", "self"]] ++ openFileFolders

/-- The special files that every host has: its devices, and what a run reads and prints. Nothing
is kept of what is written to the output for errors. -/
def hostSpecials : List (Place × Special) :=
  [("null", .null), ("zero", .zero), ("random", .zero), ("urandom", .zero), ("full", .full),
    ("stdin", .input default), ("stdout", .output), ("stderr", .null), ("tty", .terminal)].map
      (fun (name, special) => (["/", "dev", name], special)) ++
  openFileFolders.flatMap fun folder =>
    [(folder ++ ["0"], .input default), (folder ++ ["1"], .output), (folder ++ ["2"], .null)]

/-- Nothing in the working folder, and elsewhere what every host has. -/
def fresh : Directory :=
  ⟨hostSpecials.map (fun (place, special) => (place, .special special)) ++
    hostFolders.map fun place => (place, .folder)⟩

/-- What stands at a place. -/
def node? (directory : Directory) (place : Place) : Option Node :=
  if place.isAncestor || place == ["/"] then some .folder else directory.nodes.lookup place

/-- The file at a place, unless it is a special one. -/
def file? (directory : Directory) (place : Place) : Option HostFile :=
  match directory.node? place with
  | some (.file file) => some file
  | _ => none

/-- The special file at a place. -/
def special? (directory : Directory) (place : Place) : Option Special :=
  match directory.node? place with
  | some (.special special) => some special
  | _ => none

/-- Puts a node in place of what was there. -/
def insert (directory : Directory) (place : Place) (node : Node) : Directory :=
  ⟨(place, node) :: directory.nodes.filter (·.1 != place)⟩

/-- Gives the file at a place these contents; a special file stays as it is. -/
def store (directory : Directory) (place : Place) (file : HostFile) : Directory :=
  if (directory.special? place).isSome then directory else directory.insert place (.file file)

theorem node?_insert_self (directory : Directory) {place : Place} (node : Node)
    (below : (place.isAncestor || place == ["/"]) = false) :
    (directory.insert place node).node? place = some node := by
  simp [node?, insert, below]

/-- An insertion changes what stands at its place alone. -/
theorem node?_insert_of_ne (directory : Directory) {place other : Place} (node : Node)
    (apart : other ≠ place) : (directory.insert place node).node? other = directory.node? other := by
  have differ : (other == place) = false := beq_false_of_ne apart
  have kept : ∀ nodes : List (Place × Node),
      (nodes.filter (·.1 != place)).lookup other = nodes.lookup other := by
    intro nodes
    induction nodes with
    | nil => rfl
    | cons first rest ih =>
      obtain ⟨here, standing⟩ := first
      by_cases covered : here = place
      · simp [covered, List.lookup_cons, differ, ih]
      · simp [covered, List.lookup_cons, ih]
  simp [node?, insert, List.lookup_cons, differ, kept]

/-! ## Following a path -/

/-- Refuses a name that no place can have. -/
def checkName (name : String) : Except HostError Unit :=
  if nameLimit < name.utf8ByteSize then .error .nameTooLong else .ok ()

/-- Goes on from a folder to the folder that has a name in it. -/
def enter (directory : Directory) (folder : Place) (name : String) : Except HostError Place := do
  checkName name
  let place := folder.next name
  match directory.node? place with
  | some .folder => return place
  | some _ => throw .notDirectory
  | none => throw .notFound

/-- The place of the file that a path leads to. When it may be created it need not be there. A
slash at the end asks for a folder. -/
def resolve (directory : Directory) (path : String) (creating : Bool) :
    Except HostError Place := do
  if path.isEmpty then throw .notFound
  if pathLimit ≤ path.utf8ByteSize then throw .nameTooLong
  let names := namesOf path
  let folder ← names.dropLast.foldlM directory.enter (.start path)
  let name := names.getLastD "."
  let place := folder.next name
  if name == "." || name == ".." then throw .isDirectory
  let slashed := path.endsWith "/"
  if creating && slashed then throw .isDirectory
  checkName name
  match directory.node? place with
  | some .folder => throw .isDirectory
  | some node =>
    if slashed then throw .notDirectory
    if node matches .special .terminal then throw .noDevice
    return place
  | none => if creating then return place else throw .notFound

/-- The node that a path leads to, which is not a folder, with its place. -/
def find (directory : Directory) (path : String) : Except HostError (Place × Node) := do
  let place ← directory.resolve path false
  match directory.node? place with
  | some node => return (place, node)
  | none => throw .notFound

/-- Where a path leads by its names alone, whatever stands there. -/
def placeOf (path : String) : Place := (namesOf path).foldl Place.next (.start path)

end Directory

end InodeVolume.Packer
