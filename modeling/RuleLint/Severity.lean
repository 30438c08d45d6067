import RuleLint.Text.Blank
import RuleLint.Text.Case

/-!
# Severities

The four enforcement tiers of a rule, in order, and the three levels that reports show.
-/

namespace RuleLint

/-- Enforcement tiers, from the least to the most severe. -/
inductive Severity where
  | guidance
  | should
  | must
  | never
  deriving DecidableEq, Repr, Inhabited

/-- What a report calls a finding. -/
inductive Level where
  | error
  | warning
  | note
  deriving DecidableEq, Repr

namespace Severity

def rank : Severity → Nat
  | guidance => 0
  | should => 1
  | must => 2
  | never => 3

instance : LE Severity := ⟨fun a b => a.rank ≤ b.rank⟩

instance (a b : Severity) : Decidable (a ≤ b) := inferInstanceAs (Decidable (a.rank ≤ b.rank))

instance : Max Severity := ⟨fun a b => if a ≤ b then b else a⟩

def all : List Severity := [guidance, should, must, never]

def name : Severity → String
  | guidance => "GUIDANCE"
  | should => "SHOULD"
  | must => "MUST"
  | never => "NEVER"

def ofName? (s : String) : Option Severity := all.find? fun v => v.name = s

/-- The severity with this name, blanks around it and its case aside. -/
def ofText? (s : String) : Option Severity := ofName? (Text.capitals (Text.trim s))

/-- `NEVER` and `MUST` make a run fail. -/
def isBlocking : Severity → Bool
  | never | must => true
  | should | guidance => false

def level : Severity → Level
  | never | must => .error
  | should => .warning
  | guidance => .note

theorem ofName?_name (v : Severity) : ofName? v.name = some v := by
  cases v <;> decide

end Severity

def Level.name : Level → String
  | .error => "error"
  | .warning => "warning"
  | .note => "note"

end RuleLint
