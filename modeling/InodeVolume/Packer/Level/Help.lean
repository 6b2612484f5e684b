import InodeVolume.Packer.Level

/-!
# Help on a level of arguments

The help on a level says what it is for, gives its usage in one line, and lists subcommands,
operands and options, each list in two columns.
-/

namespace InodeVolume.Packer.Level

/-- The line that shows how the arguments of a level are put together. -/
def usage (level : Level) : String :=
  " ".intercalate (["Usage:"] ++ level.words ++
    (if level.options.all (·.required) then [] else ["[OPTIONS]"]) ++ level.requiredWords ++
    level.operands.map (·.shown) ++ (if level.subcommands.isEmpty then [] else ["<COMMAND>"]))

/-- A list in two columns under a title, or nothing where there is nothing to list. The second
column begins two places after the longest entry of the first. -/
def table (title : String) (rows : List (String × String)) : String :=
  let width := (rows.map (·.1.length)).foldl max 0
  let line : String × String → String := fun (left, right) =>
    "  " ++ left ++ String.ofList (List.replicate (width - left.length) ' ') ++ "  " ++ right ++ "\n"
  if rows.isEmpty then "" else "\n" ++ title ++ ":\n" ++ String.join (rows.map line)

/-- How an option is listed. Names stand under one another, also where there is no letter. -/
def optionRow (option : OptionShape) : String × String :=
  let letter := match option.letter with
    | some letter => String.ofList ['-', letter, ',', ' ']
    | none => "    "
  let otherwise := match option.otherwise with
    | some value => " [default: " ++ value ++ "]"
    | none => ""
  (letter ++ "--" ++ option.name ++ " " ++ option.shown, option.about ++ otherwise)

/-- The help on a level. -/
def help (level : Level) : String :=
  let about := match level.about with
    | some about => about ++ "\n\n"
    | none => ""
  about ++ level.usage ++ "\n" ++ table "Commands" level.subcommands ++
    table "Arguments" (level.operands.map fun operand => (operand.shown, operand.about)) ++
    table "Options" (level.options.map optionRow ++
      if level.helps then [("-h, --help", "Print help")] else [])

end InodeVolume.Packer.Level
