import InodeVolume.Mount
import InodeVolume.Device.ImageFile
import InodeVolume.Packer.Arguments
import InodeVolume.Packer.Directory
import InodeVolume.Text.Decoded
import InodeVolume.Text.Quoted

/-!
# A run of the packer

One run mounts the volume in an image, or lays out a new one, carries out one command, prints how
many sectors are free and shuts the volume down. A run that stops early gives the volume up
without shutting it down: what its cache holds is written back, and the free map is not stored.

`run` takes arguments and a directory to what is printed, the exit code and the directory
afterwards. It takes the memory of the host too, which bounds the cache and the files that are
read whole.
-/

namespace InodeVolume.Packer

/-- Errors that end a run. -/
inductive Complaint where
  | volume (error : Error)
  | host (error : HostError)
  | fixedInode (sector : SectorId)
  | imageTooLong
  | fileTooLong
deriving DecidableEq, Inhabited

namespace Complaint

/-- The text of an error that carries a text of its own. -/
def custom (kind error : String) : String :=
  "Custom \x7b kind: " ++ kind ++ ", error: " ++ error ++ " \x7d"

/-- The text of an error. -/
def text : Complaint → String
  | volume error => custom "Other" (Text.Quoted.quote error.text)
  | host error => error.text
  | fixedInode sector =>
    custom "InvalidInput" (Text.Quoted.quote (sector.text ++ " belongs to the volume itself"))
  | imageTooLong => custom "InvalidInput" "TryFromIntError(())"
  | fileTooLong => "Kind(OutOfMemory)"

end Complaint

/-- How a run ends: the exit code, what was printed, and the line that tells of an error. -/
structure Exit where
  code : Nat
  out : Bytes
  complaint : Option String
deriving Inhabited

namespace Exit

/-- What was printed, read as text. -/
def text (ending : Exit) : String := Text.decode ending.out

/-- Exit code of a run that stopped with an error. -/
def failed : Nat := 1

/-- Exit code for arguments that are refused. -/
def misused : Nat := 2

/-- Exit code of a run that hit a fault. -/
def faulted : Nat := 101

/-- Exit code of a run that the host ended: it had not the memory that was asked for, or what was
left to write back after a fault could not be written. -/
def aborted : Nat := 134

/-- The end of a run that hit a fault before it could print anything. -/
def ofFault : Fault → Exit
  | .memory => ⟨aborted, .empty, none⟩
  | _ => ⟨faulted, .empty, none⟩

/-- The end of a run with an error. -/
def complain (out : Bytes) (complaint : Complaint) : Exit :=
  ⟨failed, out, some ("Error: " ++ complaint.text)⟩

end Exit

/-- A run under way, on a host with so much memory. The image is listed in the directory as it was
when it was mounted; what it holds now is in the device. -/
structure Work where
  memory : Nat
  image : Place
  device : ImageFile
  mount : Mount FreeMap
  directory : Directory
  out : Bytes

/-- Part of a run. -/
abbrev Job := ExceptT Complaint (Action Work)

namespace Work

/-- The directory with the image as it is now. -/
def leave (work : Work) : Directory := work.directory.store work.image work.device.file

/-- Whether the cache holds something that the image does not. -/
def isDirty (work : Work) : Bool := work.mount.cache.slots.any (·.any (·.dirty))

/-- An action on the device and the mount. -/
def onMount {α : Type} (act : Action (ImageFile × Mount FreeMap) α) : Action Work α :=
  act.within fun ⟨memory, image, device, mount, directory, out⟩ =>
    ((device, mount), fun (device, mount) => ⟨memory, image, device, mount, directory, out⟩)

end Work

namespace Job

variable {α : Type}

/-- An action on the work of a run. -/
def perform (act : Action Work α) : Job α := ExceptT.lift act

/-- A computation on the volume. -/
def onVolume (computation : SectorM Volume α) : Job α :=
  perform (Work.onMount (Mount.run computation))

/-- Goes on with what the host answers, or stops with what it says against it. -/
def ofHost : Except HostError α → Job α
  | .ok a => pure a
  | .error error => throw (.host error)

/-- Prints bytes. -/
def write (bytes : Bytes) : Job Unit :=
  perform (modify fun work => { work with out := work.out ++ bytes })

/-- Prints a line. -/
def print (line : String) : Job Unit := write (line ++ "\n").toUTF8

/-- The bytes of a host file, which may be the image. -/
def readHost (path : String) : Job Bytes := do
  let work ← perform get
  let (place, node) ← ofHost (work.directory.find path)
  let file ← match node with
    | .file file => pure (if place == work.image then work.device.file else file)
    | .special (.input contents) => pure contents
    | .special .zero | .special .full => throw .fileTooLong
    | .special .null | .special .output | .special .terminal | .folder => pure (.zeros 0)
  if ¬Affords work.memory file.length then throw .fileTooLong
  return file.toBytes

/-- Writes a host file, which may be the image. -/
def writeHost (path : String) (bytes : Bytes) : Job Unit := do
  let work ← perform get
  let place ← ofHost (work.directory.resolve path true)
  match work.directory.special? place with
  | some .output => write bytes
  | some .full => if bytes.size ≠ 0 then throw (.host .storageFull)
  | some _ => pure ()
  | none =>
    let file := HostFile.ofBytes bytes
    perform (modify fun work =>
      if place == work.image then { work with device := { work.device with file } }
      else { work with directory := work.directory.store place file })

/-! ## Commands -/

/-- Copies a host file into a new file of the volume. -/
def put (source : String) : Job Unit := do
  let data ← readHost source
  let sector ← onVolume (Volume.create 0 false)
  let ref ← onVolume (Files.openAt sector)
  let _ ← onVolume (Files.write ref data 0)
  onVolume (Files.close ref)
  print (Text.Quoted.quote source ++ s!" -> sector {sector.index}")

/-- Copies a file of the volume to a host file. -/
def fetch (sector : SectorId) (target : String) : Job Unit := do
  let ref ← onVolume (Files.openAt sector)
  let length ← onVolume (Files.length ref)
  let data ← onVolume (Files.read ref 0 length)
  onVolume (Files.close ref)
  writeHost target data

/-- Prints what is told of a file. -/
def stat (sector : SectorId) : Job Unit := do
  let ref ← onVolume (Files.openAt sector)
  let stat ← onVolume (Files.stat ref)
  onVolume (Files.close ref)
  print s!"sector={stat.sector.index} kind={stat.kind.text} length={stat.length} sectors={stat.sectors}"

/-- Removes a file, but neither of the two that make the volume. -/
def remove (sector : SectorId) : Job Unit := do
  if sector = freeMapSector || sector = rootSector then throw (.fixedInode sector)
  onVolume (Volume.remove sector)

/-- Carries out a command on a mounted volume. -/
def command : Command → Job Unit
  | .format _ => pure ()
  | .put source => put source
  | .get sector target => fetch sector target
  | .stat sector => stat sector
  | .remove sector => remove sector

/-- A command, then the count of free sectors, then the end of the volume. -/
def whole (request : Command) : Job Unit := do
  command request
  let free := Volume.freeSectors (← perform get).mount.files
  print s!"free sectors: {free}"
  onVolume Volume.shutdown

end Job

/-! ## Whole runs -/

/-- The end of a run that goes no further: the volume is given up, and the image is written back
to the directory. -/
def abandon (world : Traced Work) (ending : Bytes → Exit) : Exit × Directory :=
  match Work.onMount Mount.flush world with
  | .ok () ⟨work, _⟩ | .error _ ⟨work, _⟩ => (ending work.out, work.leave)

/-- Carries out a command on a volume that has been mounted. -/
def runMounted (request : Command) (work : Work) : Exit × Directory :=
  match (Job.whole request).run ⟨work, #[]⟩ with
  | .ok (.ok ()) ⟨work, _⟩ => (⟨0, work.out, none⟩, work.leave)
  | .ok (.error complaint) world => abandon world fun out => .complain out complaint
  | .error (.reported error) world => abandon world fun out => .complain out (.volume error)
  | .error (.fault (.host _)) ⟨work, _⟩ =>
    (⟨if work.isDirty then Exit.aborted else Exit.faulted, work.out, none⟩, work.leave)
  | .error (.fault _) world => abandon world fun out => ⟨Exit.faulted, out, none⟩

/-- Carries out a command on the volume that an action makes on an image. -/
def runOn (memory : Nat) (directory : Directory) (image : Place) (device : ImageFile)
    (make : Action ImageFile (Mount FreeMap)) (request : Command) : Exit × Directory :=
  match make ⟨device, #[]⟩ with
  | .ok mount ⟨device, _⟩ => runMounted request ⟨memory, image, device, mount, directory, .empty⟩
  | .error (.reported error) ⟨device, _⟩ =>
    (.complain .empty (.volume error), directory.store image device.file)
  | .error (.fault fault) ⟨device, _⟩ => (.ofFault fault, directory.store image device.file)

/-- Lays out a volume in a new image, or in an old one that is emptied first. -/
def runFormat (memory : Nat) (request : Request) (sectors : Nat) (directory : Directory) :
    Exit × Directory :=
  match directory.resolve request.image true with
  | .error error => (.complain .empty (.host error), directory)
  | .ok image =>
    let length := sectors * sectorSize
    let emptied := directory.store image (.zeros 0)
    if wordLimit ≤ length then (.ofFault .overflow, emptied)
    else if requestLimit ≤ length then (.complain .empty .imageTooLong, emptied)
    else if (directory.special? image).isSome then
      (.complain .empty (.host .invalidArgument), emptied)
    else if HostFile.lengthLimit < length then (.complain .empty (.host .fileTooLarge), emptied)
    else runOn memory emptied image (.ofFile (.zeros length)) (Volume.format request.slots memory)
      request.command

/-- The device over what stands at a place. A special file has no length and so no sectors, but
the first sector can be read from those that hold zeros without end. -/
def deviceOf : Node → ImageFile
  | .file file => .ofFile file
  | .special .zero | .special .full => ⟨.zeros sectorSize, 0⟩
  | .special _ | .folder => .ofFile (.zeros 0)

/-- Carries out a request. -/
def runRequest (memory : Nat) (request : Request) (directory : Directory) : Exit × Directory :=
  match request.command with
  | .format sectors => runFormat memory request sectors directory
  | _ =>
    match directory.find request.image with
    | .error error => (.complain .empty (.host error), directory)
    | .ok (image, node) =>
      runOn memory directory image (deviceOf node) (Volume.mount request.slots memory)
        request.command

/-- A run of the packer in a directory. -/
def run (arguments : List String) (directory : Directory) (memory : Nat := hostMemory) :
    Exit × Directory :=
  match parse arguments with
  | .request request => runRequest memory request directory
  | .help subcommand => (⟨0, (helpOn subcommand).toUTF8, none⟩, directory)
  | .refused => (⟨Exit.misused, .empty, none⟩, directory)

end InodeVolume.Packer
