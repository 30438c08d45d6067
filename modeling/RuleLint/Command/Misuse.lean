import RuleLint.Command.Help

/-!
# Misuse

What can be wrong with a command line, and what the program says then.
-/

namespace RuleLint.Command

inductive Misuse where
  /-- No command with this name; `similar` are names that may have been meant. -/
  | unknownCommand (name : String) (similar : List String)
  /-- Nothing is known by this argument; `hint` is what to do instead. -/
  | unknownArgument (argument : String) (hint : Option String)
  | missingValue (argument : String)
  | unexpectedValue (argument value : String)
  | repeated (argument : String)
  deriving DecidableEq, Repr

namespace Misuse

def quoted (names : List String) : String := ", ".intercalate (names.map fun n => "'" ++ n ++ "'")

def message : Misuse → String
  | unknownCommand name _ => "unrecognized subcommand '" ++ name ++ "'"
  | unknownArgument argument _ => "unexpected argument '" ++ argument ++ "' found"
  | missingValue argument => "a value is required for '" ++ argument ++ "' but none was supplied"
  | unexpectedValue argument value =>
    "unexpected value '" ++ value ++ "' for '" ++ argument ++ "' found; no more were expected"
  | repeated argument => "the argument '" ++ argument ++ "' cannot be used multiple times"

def hint? : Misuse → Option String
  | unknownCommand _ [] => none
  | unknownCommand _ [s] => some ("a similar subcommand exists: " ++ quoted [s])
  | unknownCommand _ similar => some ("some similar subcommands exist: " ++ quoted similar)
  | unknownArgument _ hint => hint
  | _ => none

def text (m : Misuse) (usage : String) : String :=
  "error: " ++ m.message ++ "\n" ++ (m.hint?.map fun h => "\n  tip: " ++ h ++ "\n").getD "" ++
    (match m with
      | missingValue _ => ""
      | _ => "\n" ++ usage ++ "\n") ++
    "\nFor more information, try '--help'.\n"

end Misuse

end RuleLint.Command
