import RuleLint.FileTree.Basic
import RuleLint.Rule.Document

/-!
# Errors

What can keep a run from starting, or a rule from running. Every error ends the program with the
same exit code.
-/

namespace RuleLint

inductive QueryFault where
  | refused (message : String)
  | noViolation
  deriving DecidableEq, Repr

def violationCapture : String := "violation"

def QueryFault.message : QueryFault → String
  | refused m => m
  | noViolation => "query has no @" ++ violationCapture ++ " capture"

inductive LintError where
  | document (path : FilePath) (fault : DocumentFault)
  | ruleSetNotFound (path : FilePath)
  | unsupportedLanguage (requested : String) (supported : List String)
  | query (rule : String) (fault : QueryFault)
  | config (message : String)
  | file (error : FileError)
  | json (message : String)
  | toml (message : String)

namespace LintError

def message : LintError → String
  | document path fault => "Invalid rule set " ++ path.text ++ ": " ++ fault.message
  | ruleSetNotFound path => "Rule set not found: " ++ path.text
  | unsupportedLanguage requested supported =>
    "Unsupported language '" ++ requested ++ "' (supported: " ++ ", ".intercalate supported ++ ")"
  | query rule fault => "Invalid query in rule " ++ rule ++ ": " ++ fault.message
  | config message => "Configuration error: " ++ message
  | file error => "IO error: " ++ error.message
  | json message => "JSON error: " ++ message
  | toml message => "TOML parse error: " ++ message

def exitCode : Nat := 2

end LintError

end RuleLint
