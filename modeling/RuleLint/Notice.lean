import RuleLint.FilePath

/-!
# Notices

What a run has to say besides its findings: things that were left out because they could not be
used, and rules whose verification is due.
-/

namespace RuleLint

inductive Notice where
  | unresolvedBase (base : FilePath)
  | badFilePattern (pattern : String)
  | badExclude (pattern : String)
  | badIgnoreFile (path : FilePath)
  | unreadable (file : FilePath)
  | unparsable (file : FilePath)
  | emptyQuery (rule : String)
  | skippedRule (domain rule : String)
  | stale (domain rule : String)
  | auditOverdue (domain : String)
  deriving DecidableEq, Repr

namespace Notice

def isError : Notice → Bool
  | skippedRule _ _ => true
  | _ => false

def message : Notice → String
  | unresolvedBase _ => "cannot resolve base path"
  | badFilePattern _ => "invalid file pattern, skipping"
  | badExclude _ => "invalid exclude pattern, ignoring"
  | badIgnoreFile _ => "problem reading .gitignore"
  | unreadable _ => "cannot read file, skipping"
  | unparsable _ => "cannot parse file, running grep rules only"
  | emptyQuery _ => "ast rule has an empty query, skipping"
  | skippedRule _ _ => "rule skipped"
  | stale _ _ => "rule is past its re-verification date"
  | auditOverdue _ => "domain audit is overdue"

def fields : Notice → List (String × String)
  | unresolvedBase base => [("base", base.text)]
  | badFilePattern pattern => [("pattern", pattern)]
  | badExclude pattern => [("pattern", pattern)]
  | badIgnoreFile path => [("path", path.text)]
  | unreadable file => [("file", file.text)]
  | unparsable file => [("file", file.text)]
  | emptyQuery rule => [("rule", rule)]
  | skippedRule domain rule => [("domain", domain), ("rule", rule)]
  | stale domain rule => [("domain", domain), ("rule", rule)]
  | auditOverdue domain => [("domain", domain)]

end Notice

abbrev Noted (α : Type) := α × List Notice

end RuleLint
