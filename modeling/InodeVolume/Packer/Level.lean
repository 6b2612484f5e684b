/-!
# Levels of arguments

The arguments of a program come in levels: first those of the program, then those of the
subcommand that they end with. A `Level` says what one of them consists of, for those who read
arguments (`InodeVolume.Packer.Level.Scan`) and for those who ask what may be given
(`InodeVolume.Packer.Level.Help`).
-/

namespace InodeVolume.Packer

/-- An option that takes one value: its letter and its name, how the value is shown, the value
that is taken when none is given, and which values it accepts. -/
structure OptionShape where
  letter : Option Char
  name : String
  shown : String
  about : String
  required : Bool
  otherwise : Option String
  accepts : String → Bool

/-- An argument that is told by its place: how it is shown, and which values it accepts. -/
structure OperandShape where
  shown : String
  about : String
  accepts : String → Bool

/-- What a level of arguments consists of. `words` are those that come before it, and `helps` tells
whether help can be asked for by `-h` and `--help`. -/
structure Level where
  words : List String
  about : Option String
  options : List OptionShape
  operands : List OperandShape
  subcommands : List (String × String)
  helps : Bool

namespace Level

/-- Whether a level has a subcommand of this name. -/
def hasSubcommand (level : Level) (name : String) : Bool :=
  (level.subcommands.lookup name).isSome

/-- How the options that must be given are shown. -/
def requiredWords (level : Level) : List String :=
  (level.options.filter (·.required)).map fun option => "--" ++ option.name ++ " " ++ option.shown

end Level

end InodeVolume.Packer
