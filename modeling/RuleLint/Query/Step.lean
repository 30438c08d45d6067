import RuleLint.Query.Node

/-!
# Queries as steps

A query is a list of patterns over one array of steps. A step asks something of one node at its depth
below the node that the pattern starts with. Besides the next step, a step may name an alternative:
either instead of the step itself, or, at a fork, in addition to going on, or, at a jump, in place of
going on.
-/

namespace RuleLint.Query

inductive Kind where
  | any
  | anyNamed
  | only (symbol : Symbol)
  deriving DecidableEq, Repr

inductive Role where
  | node
  /-- A choice between the alternative and the next step. -/
  | fork
  /-- The next step is the alternative. -/
  | jump
  | done
  deriving DecidableEq, Repr

structure Step where
  role : Role
  depth : Nat
  kind : Kind := .any
  cls : Option String := none
  field : Option String := none
  /-- The roles that none of the node's parts may play. -/
  absent : List String := []
  captures : List Nat := []
  /-- No named node may be passed over before the node. -/
  immediate : Bool := false
  /-- No named node may come after the node. -/
  last : Bool := false
  alternative : Option Nat := none
  capturesBelow : Bool := false
  /-- Whether matching the node around it leaves no doubt that this step matches. -/
  certain : Bool := false
  deriving DecidableEq, Repr

namespace Step

def isNode (s : Step) : Bool := s.role == .node
def isDone (s : Step) : Bool := s.role == .done

def finish : Step := { role := .done, depth := 0 }

/-- Whether the step asks nothing of the kind of a node but to be named. -/
def isWild (s : Step) : Bool :=
  match s.kind with
  | .only _ => false
  | _ => true

def maxCaptures : Nat := 3

def addCapture (s : Step) (c : Nat) : Step :=
  if s.captures.length < maxCaptures then { s with captures := s.captures ++ [c] } else s

end Step

inductive Argument where
  | capture (index : Nat)
  | text (s : String)
  deriving DecidableEq, Repr

structure Condition where
  name : String
  args : List Argument
  deriving DecidableEq, Repr

/-- A pattern: the steps from `first` to before `stop`, and where it is written. -/
structure Pattern where
  first : Nat
  stop : Nat
  /-- The number of bytes before it in the text of the query. -/
  offset : Nat
  conditions : List Condition
  deriving Repr

structure Outline where
  steps : Array Step
  /-- The places in the text, as bytes before them, at which steps are written. -/
  offsets : List (Nat × Nat)
  patterns : List Pattern
  captures : List String
  deriving Repr

end RuleLint.Query
