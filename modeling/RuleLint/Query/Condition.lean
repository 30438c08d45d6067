import RuleLint.Query.Error
import RuleLint.Query.Step
import RuleLint.Regex.Basic

/-!
# Conditions

A condition compares the texts of captured nodes with each other, with texts, or with a regular
expression. Conditions of other names are kept for others to read; of some of them the arguments are
checked.
-/

namespace RuleLint.Query

inductive Demand where
  /-- The text of each is that of the node of another capture at the same place. -/
  | sameAs (other : Nat)
  | equals (text : String)
  | fits (regex : Regex)
  | oneOf (texts : List String)

/-- A demand on a capture. `holds` tells whether it has to be met or missed, and `all` whether by every
node or by one. -/
structure Test where
  capture : Nat
  demand : Demand
  holds : Bool
  all : Bool

/-! ## Arguments -/

namespace Condition

def captureName (captures : List String) (i : Nat) : String := captures.getD i ""

def wrongCount (called : String) (expected : String) (args : List Argument) : String :=
  "Wrong number of arguments to " ++ called ++ " predicate. Expected " ++ expected ++ ", got " ++
    toString args.length ++ "."

def firstIsText (called text : String) : String :=
  "First argument to " ++ called ++ " predicate must be a capture name. Got literal \"" ++ text ++
    "\"."

/-- Checks the arguments of a condition that sets or asks for a property: a name, perhaps a value, and
perhaps a capture. -/
def checkProperty (captures : List String) (called : String) (args : List Argument) :
    Except String Unit := do
  if args.isEmpty ∨ 3 < args.length then throw (wrongCount called "1 to 3" args)
  let invalid := "Invalid arguments to " ++ called ++ " predicate. "
  let rec go (captured : Bool) (texts : Nat) : List Argument → Except String Nat
    | [] => return texts
    | .capture i :: r =>
      if captured then throw (invalid ++ "Unexpected second capture name @" ++ captureName captures i)
      else go true texts r
    | .text s :: r =>
      if texts < 2 then go captured (texts + 1) r
      else throw (invalid ++ "Unexpected third argument @" ++ s)
  if (← go false 0 args) = 0 then throw (invalid ++ "Missing key argument")

def textsOf (captures : List String) (called : String) : List Argument → Except String (List String)
  | [] => return []
  | .text s :: r => return s :: (← textsOf captures called r)
  | .capture i :: _ =>
    throw ("Arguments to " ++ called ++ " predicate must be literals. Got capture @" ++
      captureName captures i ++ ".")

def comparison (called : String) (args : List Argument) : Except String (Nat × Argument) :=
  match args with
  | [.capture i, arg] => return (i, arg)
  | [.text s, _] => throw (firstIsText called s)
  | args => throw (wrongCount called "2" args)

def fitsOf (captures : List String) : Argument → Except String Demand
  | .capture i =>
    throw ("Second argument to #match? predicate must be a literal. Got capture @" ++
      captureName captures i ++ ".")
  | .text s =>
    match Regex.compileForBytes s with
    | .ok r => return .fits r
    | .error _ => throw ("Invalid regex '" ++ s ++ "'")

/-- The test that a condition stands for, if it compares texts. -/
def test? (captures : List String) (c : Condition) : Except String (Option Test) := do
  let equality (holds all : Bool) : Except String (Option Test) := do
    let (i, arg) ← comparison "#eq?" c.args
    let demand := match arg with
      | .capture j => .sameAs j
      | .text s => .equals s
    return some ⟨i, demand, holds, all⟩
  let fitting (holds all : Bool) : Except String (Option Test) := do
    let (i, arg) ← comparison "#match?" c.args
    return some ⟨i, ← fitsOf captures arg, holds, all⟩
  let membership (holds : Bool) : Except String (Option Test) := do
    match c.args with
    | [] => throw (wrongCount "#any-of?" "at least 1" [])
    | .text s :: _ => throw (firstIsText "#any-of?" s)
    | .capture i :: r => return some ⟨i, .oneOf (← textsOf captures "#any-of?" r), holds, true⟩
  match c.name with
  | "eq?" => equality true true
  | "not-eq?" => equality false true
  | "any-eq?" => equality true false
  | "any-not-eq?" => equality false false
  | "match?" => fitting true true
  | "not-match?" => fitting false true
  | "any-match?" => fitting true false
  | "any-not-match?" => fitting false false
  | "any-of?" => membership true
  | "not-any-of?" => membership false
  | "set!" | "is?" | "is-not?" => do
    checkProperty captures c.name c.args
    return none
  | _ => return none

end Condition

def lineAt (text : String) (offset : Nat) : Nat :=
  (((Text.cutAt? text.toList offset).map (·.1)).getD []).count '\n'

def Pattern.tests (text : String) (captures : List String) (p : Pattern) :
    Except QueryError (List Test) :=
  (p.conditions.mapM (Condition.test? captures)).mapError (.condition (lineAt text p.offset))
    |>.map fun l => l.filterMap id

/-! ## Testing -/

namespace Test

/-- Whether the nodes of a capture meet a demand, all of them or at least one; of no nodes, all do. -/
def decide (holds all : Bool) (meets : List Bool) : Bool :=
  if all then meets.all (· = holds) else true

/-- Whether two lists of texts agree, place by place; one of them may not be longer than the other
unless a single agreement is enough. -/
def agree (holds all : Bool) : List String → List String → Bool
  | [], [] => true
  | a :: as, b :: bs =>
    if ((a == b) != holds) && all then false
    else if ((a == b) == holds) && !all then true
    else agree holds all as bs
  | _, _ => false

def passes (texts : Nat → List String) (t : Test) : Bool :=
  match t.demand with
  | .sameAs j => agree t.holds t.all (texts t.capture) (texts j)
  | .equals s => decide t.holds t.all ((texts t.capture).map (· == s))
  | .fits r => decide t.holds t.all ((texts t.capture).map r.isMatch)
  | .oneOf values => decide t.holds t.all ((texts t.capture).map values.contains)

end Test

end RuleLint.Query
