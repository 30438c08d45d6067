import RuleLint.Regex.Parser
import RuleLint.Regex.Search
import RuleLint.Regex.Size

/-!
# Regular expressions

A regular expression is its text with the program compiled from it. Two kinds are compiled: those of
rules, in which `^` and `$` also match at line ends, and those of query predicates.
-/

namespace RuleLint

structure Regex where
  text : String
  program : Regex.Program

namespace Regex

def compileWith (flags : Flags) (mode : Mode) (text : String) : Except Error Regex := do
  let ast ← (parse text).mapError .malformed
  let (expr, _) ← (ast.meaning mode flags).mapError .malformed
  if expr.tooBig then throw (.tooBig sizeLimit)
  return ⟨text, expr.program⟩

/-- The pattern of a rule: `^` and `$` match at line ends. -/
def compile (text : String) : Except Error Regex :=
  compileWith { multiLine := true } ⟨true⟩ text

/-- The pattern of a predicate, which may speak of single bytes. -/
def compileForBytes (text : String) : Except Error Regex := compileWith {} ⟨false⟩ text

def findAll (r : Regex) (text : List Char) : List Program.Found := r.program.matches_ text

def isMatch (r : Regex) (text : String) : Bool := r.program.isMatch none text.toList

end Regex

end RuleLint
