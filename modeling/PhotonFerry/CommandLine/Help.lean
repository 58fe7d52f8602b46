import PhotonFerry.CommandLine.Grammar
/-!
# Help pages

The help of a command says what it does and how it is called, and lists its
commands, operand and options in columns.
-/

namespace PhotonFerry.CommandLine

/-- The names of an option in the help; long names without a short one line up
with the others. -/
def OptionSpec.column (option : OptionSpec) : String :=
  let short :=
    match option.short with
    | some letter => String.ofList ['-', letter, ',', ' ']
    | none => "    "
  let value :=
    match option.kind with
    | .value _ name => " <" ++ name ++ ">"
    | _ => ""
  short ++ "--" ++ option.long ++ value

/-- Rows of two columns below a title; no rows make no section. -/
def helpSection (title : String) (rows : List (String × String)) : List String :=
  if rows.isEmpty then []
  else
    let width := (rows.map fun (name, _) => name.length).foldl max 0
    let line (row : String × String) : String :=
      "  " ++ row.1 ++ String.ofList (List.replicate (width + 2 - row.1.length) ' ') ++ row.2
    [String.intercalate "\n" ((title ++ ":") :: rows.map line)]

/-- The help page of a command. -/
def CommandSpec.helpText (spec : CommandSpec) : String :=
  let operand := spec.operand.toList.map fun operand => (operand.name, operand.help)
  let options := spec.options.map fun option => (option.column, option.help)
  String.intercalate "\n\n"
    ([spec.about, "Usage: " ++ spec.call ++ " " ++ spec.usage]
      ++ helpSection "Commands" spec.commands ++ helpSection "Arguments" operand
      ++ helpSection "Options" options) ++ "\n"

end PhotonFerry.CommandLine
