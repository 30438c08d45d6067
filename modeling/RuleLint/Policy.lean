import RuleLint.Finding

/-!
# Policies

A policy decides which findings count: rules may be ignored or given another severity, in every
domain or in one, and findings below a floor are dropped. A run passes when no finding that is left
blocks.
-/

namespace RuleLint

/-- Rules are named `N1` or, in one domain, `python/N1`. Both lists are sets and maps in order of
keys. -/
structure Policy where
  floor : Severity
  ignored : List String
  overrides : List (String × Severity)
  deriving DecidableEq, Repr

structure Verdict where
  pass : Bool
  total : Nat
  effective : Nat
  highest : Option Severity
  floor : Severity
  deriving DecidableEq, Repr

namespace Policy

def default : Policy := ⟨.guidance, [], []⟩

def qualified (domain id : String) : String := domain ++ "/" ++ id

def ignores (p : Policy) (domain id : String) : Bool :=
  p.ignored.contains id || p.ignored.contains (qualified domain id)

def override? (p : Policy) (key : String) : Option Severity :=
  (p.overrides.find? fun o => o.1 = key).map (·.2)

/-- The severity of a finding: as overridden in its domain, else as overridden, else its own. -/
def severityOf (p : Policy) (domain : String) (f : Finding) : Severity :=
  ((p.override? (qualified domain f.ruleId)).or (p.override? f.ruleId)).getD f.severity

/-- The findings of a domain that count, with the severities they count with. -/
def apply (p : Policy) (domain : String) (findings : List Finding) : List Finding :=
  ((findings.filter fun f => !p.ignores domain f.ruleId).map fun f =>
    { f with severity := p.severityOf domain f }).filter fun f => p.floor ≤ f.severity

def evaluate (p : Policy) (total : Nat) (effective : List Finding) : Verdict where
  pass := !effective.any fun f => f.severity.isBlocking
  total
  effective := effective.length
  highest := (effective.map (·.severity)).max?
  floor := p.floor

end Policy

/-! ## Reading and writing -/

namespace Schema

def policy : Schema :=
  .record "Policy"
    [("min_severity", .default (.str "GUIDANCE"), severity),
     ("ignore_rules", .default (.arr []), .list .text),
     ("overrides", .default (.obj []), .table severity)]

def verdict : Schema :=
  .record "PolicyVerdict"
    [("pass", .required, .flag), ("total_results", .required, .count),
     ("effective_results", .required, .count), ("highest_severity", .nullable, .optional severity),
     ("min_severity", .required, severity)]

end Schema

def severityMembers : Json → List (String × Severity)
  | .obj members => members.map fun m =>
    (m.1, (m.2.str?.bind Severity.ofName?).getD .guidance)
  | _ => []

def sortedTexts (l : List String) : List String :=
  (Json.sortMembers (l.map fun s => (s, .null))).map (·.1)

namespace Policy

def ofJson (v : Json) : Policy where
  floor := .ofMember v "min_severity"
  ignored := sortedTexts ((itemsOf v "ignore_rules").filterMap Json.str?)
  overrides := severityMembers ((v.get? "overrides").getD .null)

def decode (v : Json) : Except Mismatch Policy := return ofJson (← Schema.policy.decode v)

def toJson (p : Policy) : Json :=
  .obj [("min_severity", .str p.floor.name), ("ignore_rules", .strings p.ignored),
    ("overrides", .obj (p.overrides.map fun o => (o.1, .str o.2.name)))]

end Policy

namespace Verdict

def ofJson (v : Json) : Verdict where
  pass := v.get? "pass" matches some (.bool true)
  total := countOf v "total_results"
  effective := countOf v "effective_results"
  highest := ((v.get? "highest_severity").bind Json.str?).bind Severity.ofName?
  floor := .ofMember v "min_severity"

def decode (v : Json) : Except Mismatch Verdict := return ofJson (← Schema.verdict.decode v)

def toJson (v : Verdict) : Json :=
  .obj [("pass", .bool v.pass), ("total_results", .nat v.total),
    ("effective_results", .nat v.effective),
    ("highest_severity", .option (fun s => .str s.name) v.highest),
    ("min_severity", .str v.floor.name)]

end Verdict

end RuleLint
