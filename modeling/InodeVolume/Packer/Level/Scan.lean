import InodeVolume.Packer.Level

/-!
# Reading a level of arguments

`scan` reads one level: options take one value, either the next argument or the rest of the same
one, no option is given twice, and `--` ends the options.

A value that is an argument of its own waits until the next option or operand of its level, or the
end of all arguments, before it is looked at. So help that is asked for in the meantime, from a
subcommand, is given whatever the value is.
-/

namespace InodeVolume.Packer

/-- A value that has been read and not looked at, and what it was given for. -/
inductive Waiting where
  | option (shape : OptionShape) (value : String)
  | operand (shape : OperandShape) (value : String)

/-- What has been read of a level. -/
structure Found where
  options : List (String × String)
  operands : List String
  waiting : Option Waiting

namespace Found

/-- Nothing has been read. -/
def nothing : Found := ⟨[], [], none⟩

/-- Looks at the value that waits. None where it is not accepted, or where its option was given
before. -/
def settle (found : Found) : Option Found :=
  match found.waiting with
  | none => some found
  | some (.option shape value) =>
    if (found.options.lookup shape.name).isNone && shape.accepts value then
      some ⟨(shape.name, value) :: found.options, found.operands, none⟩
    else none
  | some (.operand shape value) =>
    if shape.accepts value then some ⟨found.options, found.operands ++ [value], none⟩ else none

/-- Lets a value wait where none does. -/
def await (found : Found) (waiting : Waiting) : Found := { found with waiting := some waiting }

end Found

/-- How reading a level ends: at the end of all arguments, or before those of a subcommand, where
a value may still wait. -/
inductive Scan where
  | done (found : Found)
  | subcommand (found : Found) (name : String) (rest : List String)
  | help
  | refused

namespace Level

/-- How an argument that is not an operand reads. -/
inductive Flag where
  | help
  | option (shape : OptionShape) (value : Option String)
  | unknown

/-- The option that begins with two dashes: a name, and a value after an equals sign. -/
def longFlag (level : Level) (body : List Char) : Flag :=
  let name := String.ofList (body.takeWhile (· != '='))
  let value := match body.dropWhile (· != '=') with
    | _ :: value => some (String.ofList value)
    | [] => none
  if level.helps && name == "help" then if value.isNone then .help else .unknown
  else match level.options.find? (·.name == name) with
    | some option => .option option value
    | none => .unknown

/-- The option that begins with one dash: a letter, and a value right after it or after an equals
sign. Help is given whatever comes after its letter. -/
def shortFlag (level : Level) : List Char → Flag
  | [] => .unknown
  | letter :: rest =>
    let value := match rest with
      | [] => none
      | '=' :: value => some (String.ofList value)
      | value => some (String.ofList value)
    if level.helps && letter == 'h' then .help
    else match level.options.find? (·.letter == some letter) with
      | some option => .option option value
      | none => .unknown

/-- How an argument reads; none for an operand. A dash alone is an operand. -/
def flag? (level : Level) (argument : String) : Option Flag :=
  match argument.toList with
  | '-' :: '-' :: body => some (level.longFlag body)
  | '-' :: letter :: rest => some (level.shortFlag (letter :: rest))
  | _ => none

/-- Lets an operand wait, if there is a place for it and what waited before is accepted. -/
def awaitOperand (level : Level) (found : Found) (value : String) : Option Found := do
  let found ← found.settle
  let shape ← level.operands[found.operands.length]?
  return found.await (.operand shape value)

/-- The end of all arguments. -/
def finish (found : Found) : Scan :=
  match found.settle with
  | some found => .done found
  | none => .refused

/-- Reads operands to the end. -/
def scanOperands (level : Level) (found : Found) : List String → Scan
  | [] => finish found
  | argument :: rest =>
    match level.awaitOperand found argument with
    | some found => level.scanOperands found rest
    | none => .refused

/-- Reads a level of arguments. -/
def scan (level : Level) (found : Found) : List String → Scan
  | [] => finish found
  | argument :: rest =>
    if level.hasSubcommand argument then .subcommand found argument rest
    else if argument == "--" then level.scanOperands found rest
    else match level.flag? argument, found.settle with
      | none, _ =>
        match level.awaitOperand found argument with
        | some found => level.scan found rest
        | none => .refused
      | some .unknown, _ | some _, none => .refused
      | some .help, some _ => .help
      | some (.option shape (some value)), some found =>
        match (found.await (.option shape value)).settle with
        | some found => level.scan found rest
        | none => .refused
      | some (.option shape none), some found =>
        match rest with
        | [] => .refused
        | value :: rest =>
          if (level.flag? value).isSome then .refused
          else level.scan (found.await (.option shape value)) rest

end Level

end InodeVolume.Packer
