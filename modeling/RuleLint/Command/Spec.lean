import RuleLint.Config

/-!
# Commands and their options

What the program can be told on its command line: its commands, and for each its operands and options.
-/

namespace RuleLint.Command

/-- The value of an option or operand: its name, the value that it has if it is not given, and whether
it is a path, which must not be empty. -/
structure ValueSpec where
  name : String
  default : Option String
  isPath : Bool
  deriving DecidableEq, Repr

/-- An option. One without a value is a flag. -/
structure OptionSpec where
  long : String
  short : Option Char
  value : Option ValueSpec
  help : String
  deriving DecidableEq, Repr

structure OperandSpec where
  value : ValueSpec
  help : String
  deriving DecidableEq, Repr

structure CommandSpec where
  name : String
  about : String
  operands : Option OperandSpec
  options : List OptionSpec
  deriving DecidableEq, Repr

structure ProgramSpec where
  name : String
  version : String
  about : String
  commands : List CommandSpec
  deriving DecidableEq, Repr

/-! ## How they are written -/

/-- An option as it is given: `--format <FORMAT>`. -/
def OptionSpec.usage (o : OptionSpec) : String :=
  "--" ++ o.long ++ (o.value.map fun v => " <" ++ v.name ++ ">").getD ""

/-- Operands as they are given: `[RULES]...`. -/
def OperandSpec.usage (o : OperandSpec) : String := "[" ++ o.value.name ++ "]..."

def helpOption : OptionSpec := ⟨"help", some 'h', none, "Print help"⟩

def versionOption : OptionSpec := ⟨"version", some 'V', none, "Print version"⟩

/-! ## The program -/

def rulesOperand : OperandSpec := ⟨⟨"RULES", none, true⟩, "Rule-set documents (*.rules.json)"⟩

def autoOption : OptionSpec :=
  ⟨"auto", none, none, "Also load every rule set in the domains directory"⟩

def baseOption (help : String) : OptionSpec :=
  ⟨"base", some 'b', some ⟨"BASE", some ".", true⟩, help⟩

def configOption (help : String) : OptionSpec :=
  ⟨"config", some 'c', some ⟨"CONFIG", none, true⟩, help⟩

def formatOption (default help : String) : OptionSpec :=
  ⟨"format", some 'f', some ⟨"FORMAT", some default, false⟩, help⟩

def lintSpec : CommandSpec where
  name := "lint"
  about := "Lint source files with one or more rule sets"
  operands := some rulesOperand
  options := [autoOption, baseOption "Directory that file patterns are relative to",
    configOption "Config file path", formatOption "text" "Output format (text, json, sarif)",
    ⟨"severity", some 's', some ⟨"SEVERITY", none, false⟩,
      "Hide results below this severity (GUIDANCE, SHOULD, MUST, NEVER)"⟩,
    ⟨"output", some 'o', some ⟨"OUTPUT", none, true⟩, "Write output to file instead of stdout"⟩,
    ⟨"no-color", none, none, "Disable colored output (also honors NO_COLOR)"⟩]

def listRulesSpec : CommandSpec where
  name := "list-rules"
  about := "List the rules of one or more rule sets"
  operands := some rulesOperand
  options := [autoOption, baseOption "", configOption "",
    formatOption "table" "Output format (table, json)"]

def initSpec : CommandSpec where
  name := "init"
  about := "Generate a starter " ++ Config.fileName.text ++ " and the domains directory"
  operands := none
  options := [⟨"force", none, none, "Overwrite existing config file"⟩]

def programSpec : ProgramSpec where
  name := "flight-lint"
  version := "0.3.0"
  about := "Rule-based static analysis over tree-sitter syntax trees"
  commands := [lintSpec, listRulesSpec, initSpec]

end RuleLint.Command
