import RuleLint.Grep
import RuleLint.Query.Basic
import RuleLint.Registry
import RuleLint.Rule.Basic

/-!
# Linting one text

The findings of rules in one text, rule after rule. The text is read into a tree at most once, when
the first rule needs it. The first rule that cannot run ends the linting.
-/

namespace RuleLint

def Finding.ofMatch (file : FilePath) (rule : Rule) (m : Match) : Finding where
  file
  line := m.line
  column := m.column
  ruleId := rule.id
  severity := rule.severity
  message := rule.message
  snippet := m.text

def Registry.languageNamed (r : Registry) (name : String) : Except LintError Language := do
  let some language := Language.ofName? name | throw (r.unsupported name)
  let _ ← r.grammarOf language
  return language

def Detector.ofRule (id : String) (g : Grammar) (query : String) : Except LintError Detector :=
  (Detector.compile g query).mapError (.query id)

namespace Linting

/-- The matches of a rule with a query in a text, and the tree of the text if it is known then. A file
of another language than the rule is for has none, and a blank query finds nothing. -/
def runQuery (r : Registry) (id language query : String) (file : Option Language) (source : String)
    (tree : Option Tree) : Except LintError (List Match × Option Tree) := do
  let declared ← r.languageNamed language
  match file with
  | none => return ([], tree)
  | some file =>
    if !declared.accepts file || Text.isBlankText query then return ([], tree)
    let g ← r.grammarOf file
    let d ← Detector.ofRule id g query
    let t := tree.getD (Syntax.parse g source.toList)
    return (d.run source t, some t)

/-- The matches of a rule in a text, and the tree of the text if it is known then. -/
def runRule (r : Registry) (rule : Rule) (file : Option Language) (source : String)
    (tree : Option Tree) : Except LintError (List Match × Option Tree) :=
  match rule.check with
  | .grep pattern => .ok (pattern.matchesIn source, tree)
  | .ast language query => runQuery r rule.id language query file source tree

def runRules (r : Registry) (file : FilePath) (source : String) :
    Option Tree → List Rule → Except LintError (List Finding)
  | _, [] => .ok []
  | tree, rule :: rules => do
    let (found, tree) ← runRule r rule (Language.ofPath? file) source tree
    let rest ← runRules r file source tree rules
    return found.map (.ofMatch file rule) ++ rest

def source (r : Registry) (rules : List Rule) (file : FilePath) (source : String) :
    Except LintError (List Finding) := runRules r file source none rules

end Linting

end RuleLint
