import RuleLint.Syntax.Tree

/-!
# Nodes as queries see them

Only the nodes that have a symbol can be seen. What lies between such a node and the one around it
still tells of it: the role that it plays, the classes that it stands for, and whether something comes
after it. A walk over a tree enters every node before its parts and leaves it after them.
-/

namespace RuleLint.Query

inductive Following where
  | nothing
  | unnamed
  | named
  deriving DecidableEq, Repr

/-- A stretch of the text that a node stands for, with the number of the node in the walk. -/
structure NodeRef where
  id : Nat
  start : Nat
  stop : Nat
  deriving DecidableEq, Repr

structure Node where
  ref : NodeRef
  symbol : Symbol
  depth : Nat
  parent : Option NodeRef
  /-- Whether the node around it is text that fits no rule. -/
  inError : Bool
  field : Option String
  classes : List String
  following : Following
  /-- Whether a later part of the node around it may play the same role. -/
  fieldRecurs : Bool
  fields : List String
  deriving Repr

inductive Event where
  | enter (node : Node)
  | leave (depth : Nat)
  deriving Repr

/-! ## Parts that can be seen -/

mutual

/-- Whether a part can be seen or holds one that can. -/
def isSeen : Tree → Bool
  | .node l ps => l.symbol.isSome || anySeen ps

def anySeen : List Tree → Bool
  | [] => false
  | t :: r => isSeen t || anySeen r

end

mutual

/-- Whether a part is named or holds one that is, hidden nodes being looked into. -/
def isNamed : Tree → Bool
  | .node l ps =>
    match l.symbol with
    | some s => s.named
    | none => anyNamed ps

def anyNamed : List Tree → Bool
  | [] => false
  | t :: r => isNamed t || anyNamed r

end

mutual

def fieldsOf : Tree → List String
  | .node l ps =>
    (if isSeen (.node l ps) then l.field.toList else []) ++
      (if l.symbol.isSome then [] else fieldsOfAll ps)

def fieldsOfAll : List Tree → List String
  | [] => []
  | t :: r => fieldsOf t ++ fieldsOfAll r

end

def followingOf (later : List Tree) : Following :=
  if anyNamed later then .named else if anySeen later then .unnamed else .nothing

/-! ## The walk -/

structure Surroundings where
  depth : Nat
  parent : Option NodeRef
  inError : Bool
  field : Option String
  fieldRecurs : Bool
  classes : List String
  following : Following
  /-- The roles that later parts of the hidden nodes around it play. -/
  laterFields : List String

namespace Surroundings

def top : Surroundings := ⟨0, none, false, none, false, [], .nothing, []⟩

def inside (node : Node) : Surroundings :=
  { top with depth := node.depth + 1, parent := some node.ref, inError := node.symbol == .error }

/-- The surroundings of a part that `later` follow: a role and followers of its own count before those
of the hidden nodes around it. -/
def at_ (around : Surroundings) (l : NodeLabel) (later : List Tree) : Surroundings :=
  let laterFields := if l.field.isSome || l.symbol.isNone then
      fieldsOfAll later ++ around.laterFields
    else []
  { around with
    field := l.field.or around.field
    fieldRecurs := match l.field with
      | some f => laterFields.contains f
      | none => around.fieldRecurs
    classes := l.classes ++ around.classes
    following := match followingOf later with
      | .nothing => around.following
      | f => f
    laterFields }

end Surroundings

mutual

/-- The walk over a part. `id` is the next number; gives the events and the number after them. -/
def walk (around : Surroundings) (id : Nat) : Tree → List Event × Nat
  | .node l ps =>
    match l.symbol with
    | none => walkAll around id ps
    | some symbol =>
      let node : Node :=
        { ref := ⟨id, l.start, l.stop⟩, symbol, depth := around.depth, parent := around.parent
          inError := around.inError, field := around.field, classes := around.classes
          following := around.following, fieldRecurs := around.fieldRecurs
          fields := fieldsOfAll ps }
      let (events, next) := walkAll (.inside node) (id + 1) ps
      (.enter node :: events ++ [.leave around.depth], next)

def walkAll (around : Surroundings) (id : Nat) : List Tree → List Event × Nat
  | [] => ([], id)
  | .node l ps :: r =>
    let (events, next) := walk (around.at_ l r) id (.node l ps)
    let (more, last) := walkAll around next r
    (events ++ more, last)

end

def events (t : Tree) : List Event := (walk .top 0 t).1

end RuleLint.Query
