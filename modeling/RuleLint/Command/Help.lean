import RuleLint.Command.Spec
import RuleLint.Text.Padded

/-!
# Help

What the program and its commands tell of themselves: what they are for, how they are used, and tables
of commands, operands and options.
-/

namespace RuleLint.Command

/-- A table of terms and what they mean. The second column starts two blanks behind the longest
term. -/
def helpTable (title : String) (rows : List (String × String)) : String :=
  let width := (rows.map fun r => r.1.length).foldl max 0
  title ++ ":\n" ++ String.join (rows.map fun r => "  " ++ Text.padEnd width r.1 ++ "  " ++ r.2 ++ "\n")

/-- An option in a table: `-f, --format <FORMAT>`. -/
def OptionSpec.term (o : OptionSpec) : String :=
  (match o.short with
    | some c => "-" ++ String.singleton c ++ ", "
    | none => "    ") ++ o.usage

def OptionSpec.meaning (o : OptionSpec) : String :=
  let default := (o.value.bind (·.default)).map fun d => "[default: " ++ d ++ "]"
  " ".intercalate ((if o.help = "" then [] else [o.help]) ++ default.toList)

def optionTable (options : List OptionSpec) : String :=
  helpTable "Options" (options.map fun o => (o.term, o.meaning))

def CommandSpec.usage (program : String) (c : CommandSpec) : String :=
  "Usage: " ++ program ++ " " ++ c.name ++ " [OPTIONS]" ++
    (c.operands.map fun o => " " ++ o.usage).getD ""

def ProgramSpec.usage (p : ProgramSpec) : String := "Usage: " ++ p.name ++ " <COMMAND>"

def CommandSpec.help (program : String) (c : CommandSpec) : String :=
  c.about ++ "\n\n" ++ c.usage program ++ "\n\n" ++
    (c.operands.map fun o => helpTable "Arguments" [(o.usage, o.help)] ++ "\n").getD "" ++
    optionTable (c.options ++ [helpOption])

def helpCommand : String × String :=
  ("help", "Print this message or the help of the given subcommand(s)")

def ProgramSpec.help (p : ProgramSpec) : String :=
  p.about ++ "\n\n" ++ p.usage ++ "\n\n" ++
    helpTable "Commands" (p.commands.map (fun c => (c.name, c.about)) ++ [helpCommand]) ++ "\n" ++
    optionTable [helpOption, versionOption]

def ProgramSpec.helpOnHelp (p : ProgramSpec) : String :=
  helpCommand.2 ++ "\n\nUsage: " ++ p.name ++ " " ++ helpCommand.1 ++ " [COMMAND]...\n\n" ++
    helpTable "Arguments" [("[COMMAND]...", "Print help for the subcommand(s)")]

def ProgramSpec.versionText (p : ProgramSpec) : String := p.name ++ " " ++ p.version ++ "\n"

end RuleLint.Command
