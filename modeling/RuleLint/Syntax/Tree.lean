/-!
# Syntax trees

A tree of a source text. A node that has a symbol can be seen; a node without one only groups its
parts. A part may play a role in its parent, named by a field, and stand where a class of symbols
was asked for. Places are numbers of characters before them.
-/

namespace RuleLint

/-- The kind of a node. The kinds of words and signs written in a grammar are not named. -/
structure Symbol where
  name : String
  named : Bool
  deriving DecidableEq, Repr, Inhabited, Hashable

namespace Symbol

/-- The kind of a stretch of text that fits no rule. -/
def error : Symbol := ⟨"ERROR", true⟩

end Symbol

/-- What is known of a node besides its parts. `classes` are the classes of symbols that it was asked
for, the narrowest first. -/
structure NodeLabel where
  symbol : Option Symbol
  start : Nat
  stop : Nat
  field : Option String := none
  classes : List String := []
  deriving DecidableEq, Repr, Inhabited

inductive Tree where
  | node (label : NodeLabel) (parts : List Tree)
  deriving Repr, Inhabited

namespace Tree

def label : Tree → NodeLabel
  | node l _ => l

def parts : Tree → List Tree
  | node _ ps => ps

def start (t : Tree) : Nat := t.label.start

def stop (t : Tree) : Nat := t.label.stop

def leaf (symbol : Option Symbol) (start stop : Nat) : Tree := node { symbol, start, stop } []

/-- A node over parts; one without parts stands at `place`. -/
def around (symbol : Option Symbol) (place : Nat) (parts : List Tree) : Tree :=
  match parts with
  | [] => leaf symbol place place
  | p :: r => node { symbol, start := p.start, stop := ((p :: r).getLast?.map stop).getD p.stop } parts

def withField (field : String) : Tree → Tree
  | node l ps => node { l with field := some field } ps

def withClasses (classes : List String) : Tree → Tree
  | node l ps => node { l with classes := classes } ps

def withSymbol (symbol : Symbol) : Tree → Tree
  | node l ps => node { l with symbol := some symbol } ps

/-- The name of the kind of a node; that of a node that cannot be seen is empty. -/
def kind (t : Tree) : String := (t.label.symbol.map Symbol.name).getD ""

def isKind (t : Tree) (name : String) : Bool := t.label.symbol == some ⟨name, true⟩

mutual

def hasError : Tree → Bool
  | node l ps => l.symbol == some .error || anyError ps

def anyError : List Tree → Bool
  | [] => false
  | t :: r => t.hasError || anyError r

end

mutual

def leafPlaces : Tree → List (Nat × Nat)
  | node l [] => [(l.start, l.stop)]
  | node _ (p :: r) => leafPlacesOf (p :: r)

def leafPlacesOf : List Tree → List (Nat × Nat)
  | [] => []
  | t :: r => t.leafPlaces ++ leafPlacesOf r

end

end Tree

end RuleLint
