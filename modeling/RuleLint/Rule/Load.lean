import RuleLint.Error
import RuleLint.Notice

/-!
# Loading rule sets

A rule set is loaded from the file of a tree that holds its document. Loading tells which of its
rules are past their date of verification. Of several documents the first that cannot be loaded ends
the loading.
-/

namespace RuleLint.RuleSet

def dueNotices (today : Date) (s : RuleSet) : List Notice :=
  (s.staleRules today).map (.stale s.domain) ++
    (if s.auditOverdue today then [.auditOverdue s.domain] else [])

def read (t : FileTree) (path : FilePath) : Except LintError RuleSet := do
  if !t.isFile path then throw (.ruleSetNotFound path)
  let text ← (t.readText path).mapError .file
  (parse path text).mapError (.document path)

/-- The rule set whose document is in a file, with what there is to say about it. -/
def load (t : FileTree) (today : Date) (path : FilePath) : Noted (Except LintError RuleSet) :=
  match read t path with
  | .ok s => (.ok s, s.dueNotices today)
  | .error e => (.error e, [])

def loadAll (t : FileTree) (today : Date) :
    List FilePath → Noted (Except LintError (List RuleSet))
  | [] => (.ok [], [])
  | path :: r =>
    match load t today path with
    | (.error e, notices) => (.error e, notices)
    | (.ok s, notices) =>
      let (sets, more) := loadAll t today r
      (sets.map (s :: ·), notices ++ more)

end RuleLint.RuleSet
