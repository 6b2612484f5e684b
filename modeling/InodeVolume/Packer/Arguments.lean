import InodeVolume.Volume
import InodeVolume.Packer.Level.Scan
import InodeVolume.Packer.Level.Help

/-!
# The arguments of the packer

`--image PATH` names the image and `--cache SLOTS` the size of the cache; a subcommand with
arguments of its own follows. The two levels are given as data, and what is read of them amounts
to a request, to a question for help, or to nothing that the packer can carry out.
-/

namespace InodeVolume.Packer

/-- What the packer is asked to do. -/
inductive Command where
  | format (sectors : Nat)
  | put (source : String)
  | get (sector : SectorId) (target : String)
  | stat (sector : SectorId)
  | remove (sector : SectorId)
deriving DecidableEq, Inhabited

/-- A command on an image, through a cache of so many slots. -/
structure Request where
  image : String
  slots : Nat
  command : Command
deriving DecidableEq, Inhabited

/-- What arguments amount to. Help is asked for on a subcommand or on the packer. -/
inductive Parsed where
  | request (request : Request)
  | help (subcommand : Option String)
  | refused
deriving DecidableEq, Inhabited

/-! ## Values -/

/-- The number that decimal digits stand for. -/
def digits? (digits : List Char) : Option Nat :=
  if digits.isEmpty || !digits.all Char.isDigit then none
  else some (digits.foldl (fun n c => 10 * n + (c.toNat - '0'.toNat)) 0)

/-- A count: digits, after a plus sign or not, below the limit of words. -/
def count? (text : String) : Option Nat :=
  let digits := match text.toList with
    | '+' :: rest => rest
    | rest => rest
  (digits? digits).filter (· < wordLimit)

/-- A sector number: digits after any sign, from 0 up to the largest number of a sector. -/
def sector? (text : String) : Option SectorId :=
  let value := match text.toList with
    | '+' :: rest => digits? rest
    | '-' :: rest => (digits? rest).filter (· == 0)
    | rest => digits? rest
  (value.filter (· < 0x100000000)).map .ofNat

/-- A path is any text but the empty one. -/
def path? (text : String) : Option String := if text.isEmpty then none else some text

/-! ## The packer's levels -/

/-- Where a value is read by `read?`, it is accepted if it can be read. -/
def takes {α : Type} (read? : String → Option α) (text : String) : Bool := (read? text).isSome

/-- Sectors of an image for which no number is given. -/
def defaultSectors : Nat := 32768

/-- Image and cache, then a subcommand. -/
def packerLevel : Level where
  words := ["sector-fs-packer"]
  about := none
  options := [
    { letter := some 'i', name := "image", shown := "<IMAGE>", about := "Image file"
      required := true, otherwise := none, accepts := takes path? },
    { letter := none, name := "cache", shown := "<CACHE>", about := "Buffer cache slots"
      required := false, otherwise := some (toString defaultCapacity), accepts := takes count? }]
  operands := []
  subcommands := [
    ("format", "Create (or truncate) the image and lay out an empty volume"),
    ("put", "Copy a host file into a new inode and print its sector"),
    ("get", "Copy an inode's contents out to a host file"),
    ("stat", "Show an inode's kind, length and sector usage"),
    ("rm", "Remove an inode and free its sectors"),
    ("help", "Print this message or the help of the given subcommand(s)")]
  helps := true

/-- The operand that names an inode. -/
def sectorOperand : OperandShape := ⟨"<SECTOR>", "Inode sector", takes sector?⟩

/-- The options of a subcommand. -/
def commandOptions : String → List OptionShape
  | "format" => [
    { letter := some 's', name := "sectors", shown := "<SECTORS>", about := "Image size in sectors"
      required := false, otherwise := some (toString defaultSectors), accepts := takes count? }]
  | "get" => [
    { letter := some 'O', name := "out", shown := "<OUT>", about := "Host file"
      required := true, otherwise := none, accepts := takes path? }]
  | _ => []

/-- The operands of a subcommand. -/
def commandOperands : String → List OperandShape
  | "put" => [⟨"<SOURCE>", "Host file", takes path?⟩]
  | "get" | "stat" | "rm" => [sectorOperand]
  | "help" => [⟨"[COMMAND]...", "Print help for the subcommand(s)", packerLevel.hasSubcommand⟩]
  | _ => []

/-- The arguments of a subcommand. -/
def commandLevel (name : String) : Level where
  words := packerLevel.words ++ packerLevel.requiredWords ++ [name]
  about := packerLevel.subcommands.lookup name
  options := commandOptions name
  operands := commandOperands name
  subcommands := []
  helps := name != "help"

/-- The help on a subcommand, or on the packer. -/
def helpOn : Option String → String
  | some name => (commandLevel name).help
  | none => packerLevel.help

/-! ## What arguments ask for -/

/-- The command of a subcommand's arguments. -/
def commandOf? (name : String) (found : Found) : Option Command := do
  match name with
  | "format" =>
    match found.options.lookup "sectors" with
    | some text => return .format (← count? text)
    | none => return .format defaultSectors
  | "put" => return .put (← found.operands[0]?)
  | "get" => return .get (← sector? (← found.operands[0]?)) (← found.options.lookup "out")
  | "stat" => return .stat (← sector? (← found.operands[0]?))
  | "rm" => return .remove (← sector? (← found.operands[0]?))
  | _ => none

/-- The request of the arguments of both levels. -/
def requestOf? (outer : Found) (name : String) (inner : Found) : Option Request := do
  let outer ← outer.settle
  let command ← commandOf? name inner
  let image ← outer.options.lookup "image"
  let slots ← match outer.options.lookup "cache" with
    | some text => count? text
    | none => some defaultCapacity
  return ⟨image, slots, command⟩

/-- What the arguments after the subcommand for help amount to: at most one subcommand is named. -/
def parseHelp : List String → Parsed
  | [] => .help none
  | [name] => if packerLevel.hasSubcommand name then .help (some name) else .refused
  | _ => .refused

/-- What the packer's arguments amount to. -/
def parse (arguments : List String) : Parsed :=
  match packerLevel.scan .nothing arguments with
  | .help => .help none
  | .refused | .done _ => .refused
  | .subcommand _ "help" rest => parseHelp rest
  | .subcommand outer name rest =>
    match (commandLevel name).scan .nothing rest with
    | .help => .help (some name)
    | .refused | .subcommand .. => .refused
    | .done inner =>
      match requestOf? outer name inner with
      | some request => .request request
      | none => .refused

end InodeVolume.Packer
