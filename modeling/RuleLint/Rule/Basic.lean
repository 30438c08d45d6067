import RuleLint.Provenance
import RuleLint.Regex.Basic
import RuleLint.Severity
import RuleLint.FilePath

/-!
# Rules

A rule is either a query over syntax trees or a pattern over the text of a file. A rule set is a
named list of rules for a domain, with the files that it is meant for.
-/

namespace RuleLint

inductive RuleCheck where
  /-- A query, for files of a language given by name. -/
  | ast (language query : String)
  /-- A pattern, for every file. -/
  | grep (pattern : Regex)

def RuleCheck.kind : RuleCheck → String
  | ast _ _ => "ast"
  | grep _ => "grep"

structure Rule where
  id : String
  title : String
  severity : Severity
  check : RuleCheck
  message : String
  provenance : Option RuleProvenance

def Rule.language? (r : Rule) : Option String :=
  match r.check with
  | .ast language _ => some language
  | .grep _ => none

/-- The query of a rule that has one, unless it is blank. -/
def Rule.query? (r : Rule) : Option String :=
  match r.check with
  | .ast _ query => if Text.isBlankText query then none else some query
  | .grep _ => none

structure RuleSet where
  domain : String
  version : String
  language : Option String
  filePatterns : List String
  excludePatterns : List String
  rules : List Rule
  provenance : Option DomainProvenance
  source : FilePath

def RuleSet.rule? (s : RuleSet) (id : String) : Option Rule := s.rules.find? fun r => r.id = id

/-- The identifiers of the rules past their date of verification. -/
def RuleSet.staleRules (s : RuleSet) (today : Date) : List String :=
  (s.rules.filter fun r => r.provenance.any (·.isStale today)).map (·.id)

def RuleSet.auditOverdue (s : RuleSet) (today : Date) : Bool :=
  s.provenance.any (·.auditOverdue today)

end RuleLint
