import RuleLint.Error
import RuleLint.Finding
import RuleLint.Query.Analysis
import RuleLint.Query.Condition
import RuleLint.Query.Reader
import RuleLint.Query.Search

/-!
# Queries

A query is compiled for a grammar. The nodes that its capture `violation` holds are what it reports, each
stretch of the text once, in the order in which they are found.
-/

namespace RuleLint

namespace Query

/-! ## Places of nodes -/

/-- A stretch of a text in bytes, and where it starts: line and column from 0, the column in bytes. -/
structure TextSpan where
  start : Nat
  stop : Nat
  line : Nat
  column : Nat
  deriving DecidableEq, Repr

def TextSpan.ofNode (source : List Char) (n : NodeRef) : TextSpan :=
  let before := source.take n.start
  let start := Text.byteSize before
  { start, stop := start + Text.byteSize ((source.take n.stop).drop n.start)
    line := before.count '\n', column := Text.byteSize (Text.lastLine before) }

/-- What is reported for a stretch: line and column from 1, the column in characters. -/
def TextSpan.toMatch (source : List Char) (s : TextSpan) : Match :=
  let column := match Text.slice? source (s.start - s.column) s.start with
    | some before => before.length
    | none => s.column
  ⟨s.line + 1, column + 1, String.ofList ((Text.slice? source s.start s.stop).getD [])⟩

/-! ## Reporting -/

def firsts (seen : List TextSpan) : List TextSpan → List TextSpan
  | [] => []
  | s :: r =>
    if seen.any fun t => t.start = s.start ∧ t.stop = s.stop then firsts seen r
    else s :: firsts (s :: seen) r

def held (capture : Nat) (found : List QueryMatch) : List NodeRef :=
  found.flatMap fun m => (m.captures.filter fun c => c.index = capture).map (·.node)

def report (capture : Nat) (source : List Char) (found : List QueryMatch) : List Match :=
  (firsts [] ((held capture found).map (.ofNode source))).map (·.toMatch source)

end Query

/-! ## Compiled queries -/

structure Query where
  plan : Query.Plan
  captures : List String
  tests : List (List Query.Test)

namespace Query

def compile (g : Grammar) (text : String) : Except QueryError Query := do
  let o ← outline g text
  let steps ← o.analyse g
  let tests ← o.patterns.mapM (Pattern.tests text o.captures)
  return ⟨⟨steps, .ofPatterns steps o.patterns⟩, o.captures, tests⟩

def accepts (q : Query) (source : List Char) (m : QueryMatch) : Bool :=
  let texts := fun (i : Nat) =>
    (m.captures.filter fun c => c.index = i).map fun c =>
      String.ofList ((source.take c.node.stop).drop c.node.start)
  (q.tests.getD m.pattern []).all (·.passes texts)

def matchesIn (q : Query) (source : List Char) (t : Tree) : List QueryMatch :=
  (q.plan.search t).filter (q.accepts source)

end Query

structure Detector where
  query : Query
  capture : Nat

namespace Detector

def compile (g : Grammar) (text : String) : Except QueryFault Detector := do
  let query ← (Query.compile g text).mapError fun e => .refused (e.message text)
  match query.captures.findIdx? (· = violationCapture) with
  | some capture => return ⟨query, capture⟩
  | none => throw .noViolation

def run (d : Detector) (source : String) (t : Tree) : List Match :=
  Query.report d.capture source.toList (d.query.matchesIn source.toList t)

end Detector

end RuleLint
