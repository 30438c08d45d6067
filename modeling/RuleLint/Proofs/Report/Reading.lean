import RuleLint.Linting.Run

/-!
# Reading reports

What a report tells, read from each of its three forms without regard to how it was made.
-/

namespace RuleLint

structure Told where
  domain : String
  file : String
  line : Nat
  column : Nat
  severity : String
  message : String
  ruleId : String
  deriving DecidableEq, Repr

def Finding.told (domain : String) (f : Finding) : Told where
  domain
  file := f.file.text
  line := f.line
  column := f.column
  severity := f.severity.name
  message := f.message
  ruleId := f.ruleId

/-- The result as the interchange format tells it: with a level instead of a severity, with a rule name
that holds the domain, and with an address instead of a path. -/
def Told.inSarif (r : Told) : Told where
  domain := r.domain
  file := String.ofList (r.file.toList.map fun c => if c = '\\' then '/' else c)
  line := r.line
  column := r.column
  severity := ((Severity.ofName? r.severity).map fun v => v.level.name).getD ""
  message := r.message
  ruleId := r.domain ++ "/" ++ r.ruleId

/-! ## The report for people -/

namespace Console

/-- The numbers that the digits of a text denote; `current` is the one that is being read. -/
def numbersFrom (current : Option Nat) : List Char → List Nat
  | [] => current.toList
  | c :: r =>
    if c.isDigit then numbersFrom (some (10 * current.getD 0 + (c.toNat - '0'.toNat))) r
    else current.toList ++ numbersFrom none r

def numbersIn (s : String) : List Nat := numbersFrom none s.toList

/-- Only plain text ends a line: the name of a file may hold a line break. -/
def endsLine (s : Span) : Bool := s.style = .plain && s.text.toList.getLast? = some '\n'

def linesFrom (line : List Span) : List Span → List (List Span)
  | [] => if line.isEmpty then [] else [line]
  | s :: r => if endsLine s then (line ++ [s]) :: linesFrom [] r else linesFrom (line ++ [s]) r

def lines (spans : List Span) : List (List Span) := linesFrom [] spans

def inner (s : String) : String := String.ofList (s.toList.drop 2).dropLast.dropLast

/-- The results that lines tell. The name of a domain stands further out than that of a file. -/
def toldInLines (domain file : String) : List (List Span) → List Told
  | [] => []
  | line :: rest =>
    match line with
    | [indent, ⟨.strong, name⟩, _] =>
      if indent.text = "\n  " then toldInLines name "" rest else toldInLines domain name rest
    | [place, ⟨.mark _, severity⟩, message, ⟨.faint, ruleId⟩, _] =>
      { domain, file, ruleId
        line := (numbersIn place.text)[0]?.getD 0
        column := (numbersIn place.text)[1]?.getD 0
        severity := Text.trim severity
        message := inner message.text } :: toldInLines domain file rest
    | _ => toldInLines domain file rest

def toldIn (spans : List Span) : List Told := toldInLines "" "" (lines spans)

def ruleErrorMark : Span := ⟨.mark .error, "RULE ERROR"⟩

def passMark : Span := ⟨.mark .note, "PASS"⟩

def footerText (spans : List Span) : String :=
  String.join (((lines spans).dropLast.getLast?.getD []).map Span.text)

/-- The number that the footer gives for a level, 0 if there is no footer. The first number is that of all
results. -/
def footerCount (level : Level) (spans : List Span) : Nat :=
  let place : Nat := match level with
    | .error => 1
    | .warning => 2
    | .note => 3
  (numbersIn (footerText spans))[place]?.getD 0

end Console

/-! ## Values -/

def memberOf (v : Json) (key : String) : Json := (v.get? key).getD .null

def firstOf (v : Json) (key : String) : Json := (itemsOf v key).headD .null

namespace Summary

def toldInResult (domain : String) (v : Json) : Told where
  domain
  file := textOf v "file"
  line := countOf v "line"
  column := countOf v "column"
  severity := textOf v "severity"
  message := textOf v "message"
  ruleId := textOf v "rule_id"

def toldInSummary (v : Json) : List Told := (itemsOf v "results").map (toldInResult (textOf v "domain"))

def toldIn (v : Json) : List Told := (v.arr?.getD []).flatMap toldInSummary

def errorsIn (v : Json) : List Json := (v.arr?.getD []).flatMap fun s => itemsOf s "errors"

end Summary

namespace Sarif

def resultsIn (v : Json) : List Json := itemsOf (firstOf v "runs") "results"

def toldInResult (v : Json) : Told :=
  let place := memberOf (firstOf v "locations") "physicalLocation"
  { domain := textOf (memberOf v "properties") "domain"
    file := textOf (memberOf place "artifactLocation") "uri"
    line := countOf (memberOf place "region") "startLine"
    column := countOf (memberOf place "region") "startColumn"
    severity := textOf v "level"
    message := textOf (memberOf v "message") "text"
    ruleId := textOf v "ruleId" }

def toldIn (v : Json) : List Told := (resultsIn v).map toldInResult

def levelCount (level : Level) (v : Json) : Nat :=
  (resultsIn v).countP fun result => textOf result "level" = level.name

def notificationsIn (v : Json) : List Json :=
  itemsOf (firstOf (firstOf v "runs") "invocations") "toolExecutionNotifications"

def rulesIn (v : Json) : List Json :=
  itemsOf (memberOf (memberOf (firstOf v "runs") "tool") "driver") "rules"

def RefersTo (v result d : Json) : Prop :=
  ∃ i, result.get? "ruleIndex" = some (.nat i) ∧ (rulesIn v)[i]? = some d

def isSuccessful? (v : Json) : Option Bool :=
  match (firstOf (firstOf v "runs") "invocations").get? "executionSuccessful" with
  | some (.bool b) => some b
  | _ => none

end Sarif

/-! ## Forms of a report -/

namespace Linting.Report

def results (r : Report) : List Told := r.summaries.flatMap fun s => s.findings.map (Finding.told s.domain)

def owned (r : Report) : List (String × Finding) :=
  r.summaries.flatMap fun s => s.findings.map fun f => (s.domain, f)

def spans (r : Report) : List Span := Console.spans r.summaries r.verdict

def json (r : Report) : Json := .arr (r.summaries.map Summary.toJson)

def sarif (r : Report) (guid : String) : Json := Sarif.toJson guid r.summaries r.ruleSets

theorem render_eq (r : Report) (format : ReportFormat) (guid : String) (color : Bool) :
    r.render format guid color = match format with
      | .text => renderSpans color r.spans
      | .json => r.json.pretty
      | .sarif => (r.sarif guid).pretty := by
  cases format <;> rfl

end Linting.Report

end RuleLint
