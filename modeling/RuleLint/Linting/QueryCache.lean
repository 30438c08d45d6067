import RuleLint.Linting.Source
import Std.Data.HashMap
import Std.Data.TreeMap

/-!
# Queries during a run

What a run over files keeps of its rules, which are known by their places in the list: the languages
that they are for, their detectors by language, and why some cannot run any more. All rules of a run
share it. A query is compiled for a language at most once, and a rule that has failed stays that way
with its first error.
-/

namespace RuleLint

structure QueryCache where
  rules : List Rule
  /-- The languages that rules with a query to run are for. -/
  declared : Std.HashMap Nat Language
  detectors : Std.HashMap (Nat × Language) Detector
  /-- Why rules cannot run any more, in the order of the rules. -/
  broken : Std.TreeMap Nat RuleError
  /-- What queries have been compiled for, latest first, also in vain. -/
  compiled : List (Nat × Language)

namespace QueryCache

def fresh (rules : List Rule) : QueryCache := ⟨rules, ∅, ∅, ∅, []⟩

/-- Records why the rule at a place cannot run, unless that is known already. -/
def fail (c : QueryCache) (i : Nat) (rule : Rule) (e : LintError) : QueryCache :=
  { c with broken := c.broken.insertIfNew i ⟨rule.id, e.message⟩ }

def compile (r : Registry) (c : QueryCache) (i : Nat) (rule : Rule) (query : String)
    (language : Language) : Option Detector × QueryCache :=
  match r.grammarOf language with
  | .error e => (none, c.fail i rule e)
  | .ok g =>
    let c := { c with compiled := (i, language) :: c.compiled }
    match Detector.ofRule rule.id g query with
    | .ok d => (some d, { c with detectors := c.detectors.insert (i, language) d })
    | .error e => (none, c.fail i rule e)

/-- The detector of the rule at a place for a language, which is compiled at the first request. -/
def request (r : Registry) (c : QueryCache) (i : Nat) (language : Language) :
    Option Detector × QueryCache :=
  if c.broken.contains i then (none, c)
  else match c.detectors[(i, language)]? with
    | some d => (some d, c)
    | none =>
      match c.rules[i]? with
      | none => (none, c)
      | some rule =>
        match rule.check with
        | .grep _ => (none, c)
        | .ast _ query => c.compile r i rule query language

/-- Looks at the rule at a place before a run: its query is compiled for the language that it is
for. -/
def prepare (r : Registry) (c : QueryCache) (i : Nat) (rule : Rule) : QueryCache :=
  match rule.check with
  | .grep _ => c
  | .ast language query =>
    if Text.isBlankText query then c
    else match r.languageNamed language with
      | .error e => c.fail i rule e
      | .ok l => ({ c with declared := c.declared.insert i l }.request r i l).2

def start (r : Registry) (rules : List Rule) : QueryCache :=
  rules.zipIdx.foldl (fun c p => c.prepare r p.2 p.1) (fresh rules)

def applies (c : QueryCache) (file : Option Language) (i : Nat) : Bool :=
  !c.broken.contains i &&
    match c.rules[i]?.map Rule.check with
    | none => false
    | some (.grep _) => true
    | some (.ast _ _) =>
      match c.declared[i]?, file with
      | some declared, some file => declared.accepts file
      | _, _ => false

def applicable (c : QueryCache) (file : Option Language) : List Nat :=
  (List.range c.rules.length).filter (c.applies file)

def needsTree (c : QueryCache) (i : Nat) : Bool := (c.rules[i]?.bind Rule.language?).isSome

def find (r : Registry) (c : QueryCache) (file : FilePath) (source : String) (tree : Option Tree)
    (i : Nat) : Option (List Finding) × QueryCache :=
  match c.rules[i]? with
  | none => (none, c)
  | some rule =>
    match rule.check with
    | .grep pattern => (some ((pattern.matchesIn source).map (.ofMatch file rule)), c)
    | .ast _ _ =>
      match tree, Language.ofPath? file with
      | some tree, some language =>
        let (d, c) := c.request r i language
        (d.map fun d => (d.run source tree).map (.ofMatch file rule), c)
      | _, _ => (none, c)

def errors (c : QueryCache) : List RuleError := c.broken.toList.map (·.2)

end QueryCache

end RuleLint
