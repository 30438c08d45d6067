import RuleLint.Policy
import RuleLint.Report.Style
import RuleLint.Text.Padded

/-!
# The report for people

The summaries one after another, the findings of each grouped by file in order of paths, then the
number of findings at each level and the verdict.
-/

namespace RuleLint.Console

def plain (text : String) : Span := ⟨.plain, text⟩

def countText (n : Nat) : String := toString n

def sortByFile (findings : List Finding) : List Finding :=
  findings.mergeSort fun f g => f.file.le g.file

def findingLine (f : Finding) : List Span :=
  [plain ("      " ++ Text.padEnd 9 (countText f.line ++ ":" ++ countText f.column) ++ " "),
   ⟨.mark f.severity.level, Text.padEnd 8 f.severity.name⟩,
   plain ("  " ++ f.message ++ "  "), ⟨.faint, f.ruleId⟩, plain "\n"]

/-- The lines of findings, a header before those of each file; `current` is the file before. -/
def findingLines (current : Option FilePath) : List Finding → List Span
  | [] => []
  | f :: r =>
    let header :=
      if current.any (·.same f.file) then []
      else [plain "\n    ", ⟨.strong, f.file.text⟩, plain "\n"]
    header ++ findingLine f ++ findingLines (some f.file) r

def errorLine (e : RuleError) : List Span :=
  [plain "    ", ⟨.mark .error, "RULE ERROR"⟩,
   plain (" rule " ++ e.ruleId ++ " skipped: " ++ e.message ++ "\n")]

def summaryLines (s : Summary) : List Span :=
  [plain "\n  ", ⟨.strong, s.domain⟩,
   plain (" (" ++ countText s.filesLinted ++ " file(s) linted)\n")] ++
    s.errors.flatMap errorLine ++
    (if s.findings.isEmpty then [plain "    No violations found.\n"]
     else findingLines none (sortByFile s.findings))

def countLevel (level : Level) (findings : List Finding) : Nat :=
  (findings.filter fun f => f.severity.level = level).length

def footer (findings : List Finding) : List Span :=
  let count := fun level => countText (countLevel level findings)
  if findings.isEmpty then []
  else [plain ("  " ++ countText findings.length ++ " problem(s) (" ++ count .error ++ " error(s), " ++
    count .warning ++ " warning(s), " ++ count .note ++ " note(s))\n")]

def verdictLine (v : Verdict) : List Span :=
  [plain "  Result: ",
   if v.pass then ⟨.mark .note, "PASS"⟩ else ⟨.mark .error, "FAIL"⟩,
   plain (" (highest: " ++ (v.highest.map Severity.name).getD "none" ++ ")\n\n")]

def spans (summaries : List Summary) (verdict : Verdict) : List Span :=
  summaries.flatMap summaryLines ++ [plain "\n"] ++ footer (summaries.flatMap (·.findings)) ++
    verdictLine verdict

def render (summaries : List Summary) (verdict : Verdict) (color : Bool) : String :=
  renderSpans color (spans summaries verdict)

end RuleLint.Console
