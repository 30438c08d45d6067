import RuleLint.Json.Decode
import RuleLint.FilePath
import RuleLint.Severity

/-!
# Findings

What linting reports: places that break a rule, rules that could not run, and the summary of one
rule set over a list of files.
-/

namespace RuleLint

/-- A place found in a text: line and column from 1 and the text there. -/
structure Match where
  line : Nat
  column : Nat
  text : String
  deriving DecidableEq, Repr

structure Finding where
  file : FilePath
  line : Nat
  column : Nat
  ruleId : String
  severity : Severity
  message : String
  snippet : String
  deriving DecidableEq, Repr

structure RuleError where
  ruleId : String
  message : String
  deriving DecidableEq, Repr

structure Summary where
  domain : String
  filesLinted : Nat
  findings : List Finding
  errors : List RuleError
  deriving DecidableEq, Repr

/-! ## Writing -/

/-- A finding as reports give it, without the text found. -/
def Finding.toJson (f : Finding) : Json :=
  .obj [("file", .str f.file.text), ("line", .nat f.line), ("column", .nat f.column),
    ("rule_id", .str f.ruleId), ("severity", .str f.severity.name), ("message", .str f.message)]

def RuleError.toJson (e : RuleError) : Json :=
  .obj [("rule_id", .str e.ruleId), ("message", .str e.message)]

/-- A summary; errors are left out when there are none. -/
def Summary.toJson (s : Summary) : Json :=
  .obj <| [("domain", .str s.domain), ("files_linted", .nat s.filesLinted),
    ("results", .arr (s.findings.map Finding.toJson))] ++
    (if s.errors.isEmpty then [] else [("errors", .arr (s.errors.map RuleError.toJson))])

/-! ## Reading -/

namespace Schema

def severity : Schema := .variant (Severity.all.map Severity.name)

def finding : Schema :=
  .record "LintResult"
    [("file", .required, .path), ("line", .required, .count), ("column", .required, .count),
     ("rule_id", .required, .text), ("severity", .required, severity),
     ("message", .required, .text)]

def ruleError : Schema :=
  .record "RuleError" [("rule_id", .required, .text), ("message", .required, .text)]

def summary : Schema :=
  .record "LintSummary"
    [("domain", .required, .text), ("files_linted", .required, .count),
     ("results", .required, .list finding), ("errors", .default (.arr []), .list ruleError)]

end Schema

def textOf (v : Json) (key : String) : String := ((v.get? key).bind Json.str?).getD ""

def countOf (v : Json) (key : String) : Nat :=
  match v.get? key with
  | some (.num (.natural n)) => n
  | _ => 0

def itemsOf (v : Json) (key : String) : List Json := ((v.get? key).bind Json.arr?).getD []

def Severity.ofMember (v : Json) (key : String) : Severity :=
  (Severity.ofName? (textOf v key)).getD .guidance

def Finding.ofJson (v : Json) : Finding where
  file := ⟨textOf v "file"⟩
  line := countOf v "line"
  column := countOf v "column"
  ruleId := textOf v "rule_id"
  severity := .ofMember v "severity"
  message := textOf v "message"
  snippet := ""

def RuleError.ofJson (v : Json) : RuleError := ⟨textOf v "rule_id", textOf v "message"⟩

def Summary.ofJson (v : Json) : Summary where
  domain := textOf v "domain"
  filesLinted := countOf v "files_linted"
  findings := (itemsOf v "results").map .ofJson
  errors := (itemsOf v "errors").map .ofJson

def Finding.decode (v : Json) : Except Mismatch Finding := return .ofJson (← Schema.finding.decode v)

def Summary.decode (v : Json) : Except Mismatch Summary := return .ofJson (← Schema.summary.decode v)

def Summary.parseAll (text : String) : Except String (List Summary) := do
  match ← Json.parseAs (.list Schema.summary) text with
  | .arr items => return items.map .ofJson
  | _ => return []

end RuleLint
