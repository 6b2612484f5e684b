import InodeVolume.Packer.Run

/-!
# The packer on a host

Loads the files that the arguments name, carries the run out on them, and writes back those that
it changed.
-/

namespace InodeVolume.Packer

/-- The paths that a request names. -/
def Request.paths (request : Request) : List String :=
  match request.command with
  | .put source => [request.image, source]
  | .get _ target => [request.image, target]
  | _ => [request.image]

/-- The places that a path leads through, in their order. -/
def placesAlong (path : String) : List Place :=
  let names := namesOf path
  (List.range names.length).map fun n => (names.take (n + 1)).foldl Place.next (.start path)

/-- A path that leads to a place. -/
def pathTo (place : Place) : String := "/".intercalate place

/-- Adds what the host has at a place to a directory, and what there is to read where the place
is that of the input. -/
def loadPlace (directory : Directory) (place : Place) : IO Directory := do
  match directory.node? place with
  | some (.special (.input _)) =>
    let bytes ← (← IO.getStdin).readBinToEnd
    return directory.insert place (.special (.input (.ofBytes bytes)))
  | some _ => return directory
  | none =>
    match ← (IO.FS.readBinFile (pathTo place)).toBaseIO with
    | .ok bytes => return directory.insert place (.file (.ofBytes bytes))
    | .error (.noFileOrDirectory ..) => return directory
    | .error _ => return directory.insert place .folder

/-- The part of the host's files that a request can touch. -/
def loadDirectory (request : Request) : IO Directory :=
  request.paths.foldlM (fun directory path => (placesAlong path).foldlM loadPlace directory)
    Directory.fresh

/-- Writes the files of a directory that are not as they were. -/
def storeDirectory (before after : Directory) : IO Unit :=
  after.nodes.forM fun
    | (place, .file file) => do
      let bytes := file.toBytes
      unless (before.file? place).any (·.toBytes == bytes) do
        IO.FS.writeBinFile (pathTo place) bytes
    | _ => pure ()

/-- Loads, runs, stores and prints. -/
def runOnHost (arguments : List String) : IO UInt32 := do
  let before ← match parse arguments with
    | .request request => loadDirectory request
    | _ => pure Directory.fresh
  let (ending, after) := run arguments before
  storeDirectory before after
  let output ← IO.getStdout
  output.write ending.out
  output.flush
  if let some complaint := ending.complaint then IO.eprintln complaint
  return UInt32.ofNat ending.code

end InodeVolume.Packer

/-- The packer's command line. -/
def main (arguments : List String) : IO UInt32 := InodeVolume.Packer.runOnHost arguments
