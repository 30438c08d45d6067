import RuleLint.Report.Console
import RuleLint.Report.Sarif

/-!
# Report formats

What a run found can be told to people, as the plain values, or in an interchange format.
-/

namespace RuleLint

inductive ReportFormat where
  | text
  | json
  | sarif
  deriving DecidableEq, Repr

namespace ReportFormat

/-- The format of a name, its case aside. -/
def ofText? (s : String) : Option ReportFormat :=
  match Text.small s with
  | "text" | "console" | "human" => some text
  | "json" => some json
  | "sarif" => some sarif
  | _ => none

end ReportFormat

def Summary.listText (summaries : List Summary) : String :=
  (Json.arr (summaries.map Summary.toJson)).pretty

/-- A report in a format. Only the one for people can have colours. -/
def renderReport (format : ReportFormat) (guid : String) (color : Bool) (summaries : List Summary)
    (sets : List RuleSet) (verdict : Verdict) : String :=
  match format with
  | .text => Console.render summaries verdict color
  | .json => Summary.listText summaries
  | .sarif => Sarif.render guid summaries sets

end RuleLint
