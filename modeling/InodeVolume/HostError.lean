/-!
# What a host says

A host that refuses a request gives a number, the name of a kind and a message. The texts of the
errors are those of a report: all three between braces.
-/

namespace InodeVolume

/-- What a host says when it refuses. -/
inductive HostError where
  | notFound
  | noDevice
  | notDirectory
  | isDirectory
  | invalidArgument
  | fileTooLarge
  | storageFull
  | nameTooLong
deriving DecidableEq, Inhabited

namespace HostError

/-- The host's number for an error, the name of its kind, and its message. -/
def terms : HostError → Nat × String × String
  | notFound => (2, "NotFound", "No such file or directory")
  | noDevice => (6, "Uncategorized", "No such device or address")
  | notDirectory => (20, "NotADirectory", "Not a directory")
  | isDirectory => (21, "IsADirectory", "Is a directory")
  | invalidArgument => (22, "InvalidInput", "Invalid argument")
  | fileTooLarge => (27, "FileTooLarge", "File too large")
  | storageFull => (28, "StorageFull", "No space left on device")
  | nameTooLong => (36, "InvalidFilename", "File name too long")

/-- The text of an error. -/
def text (error : HostError) : String :=
  let (number, kind, message) := error.terms
  "Os \x7b code: " ++ toString number ++ ", kind: " ++ kind ++ ", message: \"" ++ message ++
    "\" \x7d"

end HostError

end InodeVolume
