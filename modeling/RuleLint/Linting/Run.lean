import RuleLint.Config
import RuleLint.Linting.Files
import RuleLint.Report.Format
import RuleLint.Rule.Load

/-!
# Runs

A run loads its configuration and its rule sets, finds the files of each rule set and lints them. The
policy decides which findings count. Rule sets are given by paths, each of which must be a file, or are
those kept below the base directory, less those that a path before leads to.
-/

namespace RuleLint.Linting

structure RunOptions where
  rulePaths : List FilePath
  auto : Bool
  base : FilePath
  configPath : Option FilePath
  /-- The floor of severities, if it is not to be that of the policy. -/
  floor : Option Severity

/-- What a run found. There is a summary for each rule set, in order, of the findings that count. -/
structure Report where
  ruleSets : List RuleSet
  summaries : List Summary
  verdict : Verdict

namespace Report

def ruleErrors (r : Report) : List (String × RuleError) :=
  r.summaries.flatMap fun s => s.errors.map fun e => (s.domain, e)

/-- 2 if some rule could not run, 1 if the verdict is against the files, else 0. -/
def exitCode (r : Report) : Nat :=
  if r.summaries.any fun s => !s.errors.isEmpty then 2
  else if !r.verdict.pass then 1
  else 0

def render (r : Report) (format : ReportFormat) (guid : String) (color : Bool) : String :=
  renderReport format guid color r.summaries r.ruleSets r.verdict

end Report

/-! ## Setup -/

/-- The configuration of a run: that of the file given, or of the one in the base directory. -/
def loadConfig (t : FileTree) (o : RunOptions) : Except LintError Config :=
  Config.load t (o.configPath.getD (o.base.join Config.fileName))

def sameFile (t : FileTree) (p q : FilePath) : Bool :=
  match t.canonicalNames p, t.canonicalNames q with
  | .ok a, .ok b => a == b
  | _, _ => p.same q

/-- Adds paths that lead to no file of the list. -/
def addPaths (t : FileTree) (paths : List FilePath) : List FilePath → List FilePath
  | [] => paths
  | p :: r =>
    addPaths t (if paths.any fun q => sameFile t q p then paths else paths ++ [p]) r

/-- The rule documents of a run: those given, then those found. -/
def ruleSetPaths (t : FileTree) (o : RunOptions) (c : Config) : Except LintError (List FilePath) :=
  if o.rulePaths.isEmpty && !o.auto then
    .error (.config "no rule sets given; pass rule-set paths or use --auto")
  else match o.rulePaths.find? fun p => !t.isFile p with
    | some p => .error (.ruleSetNotFound p)
    | none =>
      let found := if o.auto then Discovery.ruleSetsIn t (o.base.join c.domainsDir) else []
      .ok (addPaths t o.rulePaths found)

/-! ## Linting -/

def ruleSetSummary (r : Registry) (t : FileTree) (c : Config) (base : FilePath) (s : RuleSet) :
    Noted Summary :=
  let (paths, notices) := Discovery.files t s.filePatterns s.excludePatterns base
    { extraExcludes := c.exclude, respectIgnoreFile := c.respectIgnoreFile }
  let (summary, more) := files r t s.domain s.rules paths
  (summary, notices ++ more)

def applyPolicy (p : Policy) (s : Summary) : Summary :=
  { s with findings := p.apply s.domain s.findings }

def reportOn (r : Registry) (t : FileTree) (c : Config) (base : FilePath) (sets : List RuleSet) :
    Noted Report :=
  let noted := sets.map (ruleSetSummary r t c base)
  let total := (noted.flatMap fun n => n.1.findings).length
  let summaries := noted.map fun n => applyPolicy c.policy n.1
  ({ ruleSets := sets
     summaries
     verdict := c.policy.evaluate total (summaries.flatMap (·.findings)) },
   noted.flatMap (·.2))

def withFloor (c : Config) (floor : Option Severity) : Config :=
  { c with policy := { c.policy with floor := floor.getD c.policy.floor } }

def setup (t : FileTree) (today : Date) (o : RunOptions) :
    Noted (Except LintError (Config × List RuleSet)) :=
  match loadConfig t o with
  | .error e => (.error e, [])
  | .ok c =>
    match ruleSetPaths t o c with
    | .error e => (.error e, [])
    | .ok paths =>
      let (sets, notices) := RuleSet.loadAll t today paths
      (sets.map fun sets => (withFloor c o.floor, sets), notices)

def run (t : FileTree) (today : Date) (o : RunOptions) : Noted (Except LintError Report) :=
  match setup t today o with
  | (.error e, notices) => (.error e, notices)
  | (.ok (c, sets), notices) =>
    let (report, more) := reportOn .full t c o.base sets
    (.ok report, notices ++ more)

end RuleLint.Linting
