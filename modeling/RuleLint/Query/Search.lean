import RuleLint.Query.Step

/-!
# Searching a tree

A search follows a walk over a tree. At every node attempts begin at the patterns that can start there,
and the attempts under way are advanced: an attempt whose step takes the node goes on to the next step,
and one that might do better with a later node goes on waiting as well. Of two attempts at the same step
of a pattern, from the same depth, the one whose captures the other holds too is dropped. An attempt that
reaches the end of its pattern is a match as soon as no attempt under way can hold more.
-/

namespace RuleLint.Query

structure Capture where
  index : Nat
  node : NodeRef
  deriving DecidableEq, Repr

structure QueryMatch where
  pattern : Nat
  captures : List Capture
  deriving DecidableEq, Repr

/-! ## Where patterns start -/

/-- A step at which attempts at a pattern begin. -/
structure Root where
  pattern : Nat
  step : Nat
  /-- Whether the pattern is about one node and the nodes below it. -/
  single : Bool
  deriving DecidableEq, Repr

def staysBelow : List Step → Bool
  | [] => true
  | s :: r => s.role == .jump || ((s.isDone || s.depth ≠ 0) && staysBelow r)

/-- The steps from `first` on at which attempts at a pattern begin. A node of any kind with a part of a
certain kind is found by that part; `skipped` is the alternative of such a node. The first argument
bounds their number. -/
def rootsFrom (steps : Array Step) (index : Nat) (pattern : Pattern) :
    Nat → Nat → Option Nat → List Root
  | 0, _, _ => []
  | n + 1, first, skipped =>
    let s := steps.getD first .finish
    let second := steps.getD (first + 1) .finish
    let skips := s.isNode && s.isWild && s.depth = 0 && s.field.isNone &&
      second.isNode && !second.isWild && second.depth = 1 && !second.immediate
    let (first, s, skipped) := if skips then (first + 1, second, s.alternative) else (first, s, skipped)
    let rest := (steps.toList.take pattern.stop).drop (first + 1)
    let here := if s.isDone then [] else [⟨index, first, s.depth = 0 && staysBelow rest⟩]
    here ++ match s.alternative, skipped with
      | some j, skipped => rootsFrom steps index pattern n j skipped
      | none, some j => rootsFrom steps index pattern n j none
      | none, none => []

structure Roots where
  wild : List Root
  kinds : List (Symbol × Root)
  deriving Repr

def Step.symbol? (s : Step) : Option Symbol :=
  match s.kind with
  | .only symbol => some symbol
  | _ => none

def Roots.ofPatterns (steps : Array Step) (patterns : List Pattern) : Roots :=
  let roots := patterns.zipIdx.map fun (p, i) => rootsFrom steps i p (steps.size + 1) p.first none
  let symbol := fun (r : Root) => (steps.getD r.step .finish).symbol?
  { wild := roots.flatten.filter fun r => (symbol r).isNone
    kinds := (roots.flatMap List.reverse).filterMap fun r => (symbol r).map fun s => (s, r) }

/-! ## Attempts -/

structure Attempt where
  pattern : Nat
  step : Nat
  /-- The depth that the depths of steps are counted from. -/
  base : Nat
  captures : List Capture := []
  /-- The next step has to take the next node. -/
  seeking : Bool := true
  /-- Another attempt under way may come to hold more. -/
  contested : Bool := false
  /-- The node around the first one has still to be looked at. -/
  needsParent : Bool := false
  deriving DecidableEq, Repr

structure Plan where
  steps : Array Step
  roots : Roots

namespace Plan

def step (p : Plan) (i : Nat) : Step := p.steps.getD i .finish

/-- Whether an attempt that takes a node at a step may come to regret it: the parts of the node need
not match. -/
def isFallible (p : Plan) (i : Nat) : Bool :=
  let next := p.step (i + 1)
  !next.isDone && (p.step i).depth < next.depth && (!next.certain || (p.step i).isWild)

/-! ## Beginning -/

def begins (p : Plan) (node : Node) (r : Root) : Bool :=
  let s := p.step r.step
  (r.single || !node.inError) && (s.field.isNone || s.field == node.field) && s.depth ≤ node.depth

/-- Adds an attempt behind those from the same depth or above of patterns up to its own, unless there is
one at the same step; the attempts are given latest first. -/
def insert (a : Attempt) : List Attempt → List Attempt
  | [] => [a]
  | b :: r =>
    if b.base < a.base then a :: b :: r
    else if b.base = a.base ∧ b.pattern = a.pattern ∧ b.step = a.step then b :: r
    else if b.base = a.base ∧ b.pattern ≤ a.pattern then a :: b :: r
    else b :: insert a r

def begin_ (p : Plan) (node : Node) (attempts : List Attempt) (r : Root) : List Attempt :=
  let depth := (p.step r.step).depth
  let a : Attempt :=
    { pattern := r.pattern, step := r.step, base := node.depth - depth, needsParent := depth = 1 }
  if p.begins node r then (insert a attempts.reverse).reverse else attempts

def beginAll (p : Plan) (node : Node) (attempts : List Attempt) : List Attempt :=
  let wild := if node.symbol == .error then [] else p.roots.wild.filter fun r =>
    (p.step r.step).cls.isNone || !node.classes.isEmpty
  let kinds := p.roots.kinds.filterMap fun (s, r) => if s == node.symbol then some r else none
  (wild ++ kinds).foldl (p.begin_ node) attempts

/-! ## Advancing -/

def takes (s : Step) (node : Node) : Bool :=
  (match s.kind with
    | .only symbol => node.symbol == symbol
    | .anyNamed => node.symbol != .error && node.symbol.named
    | .any => node.symbol != .error) &&
  !(s.last && node.following == .named) &&
  s.cls.all node.classes.contains &&
  (s.field.isNone || s.field == node.field) &&
  !(s.absent.any node.fields.contains)

/-- Whether a later part of the same node may be taken in place of this one. -/
def mayTakeLater (s : Step) (a : Attempt) (node : Node) : Bool :=
  node.following != .nothing && !(s.immediate && node.symbol.named) && !a.seeking &&
    !(s.field.isSome && s.field == node.field && !node.fieldRecurs)

def skippedStep (p : Plan) : Nat → Step
  | 0 => p.step 0
  | i + 1 =>
    let s := p.step i
    if s.isNode && s.depth = 0 then s else skippedStep p i

def hold (s : Step) (node : NodeRef) (captures : List Capture) : List Capture :=
  s.captures.foldl (fun l i => ⟨i, node⟩ :: l) captures

/-- The captures after a step has taken a node, the node around it being captured first if need be. -/
def captured (p : Plan) (a : Attempt) (s : Step) (node : Node) : Option (List Capture) :=
  if a.needsParent then
    node.parent.map fun parent => hold s node.ref (hold (p.skippedStep a.step) parent a.captures)
  else some (hold s node.ref a.captures)

/-- The attempts that an attempt goes on as at its step: at forks and at steps with alternatives it
becomes several. The first argument bounds the recursion. -/
def branch (p : Plan) : Nat → Attempt → List Attempt
  | 0, a => [a]
  | n + 1, a =>
    let s := p.step a.step
    match s.alternative with
    | none => [a]
    | some j =>
      match s.role with
      | .jump => p.branch n { a with step := j }
      | .fork =>
        p.branch n { a with step := a.step + 1 } ++ p.branch n { a with step := j, seeking := true }
      | _ => a :: p.branch n { a with step := j }

def advance (p : Plan) (node : Node) (a : Attempt) : List Attempt :=
  let a := { a with contested := false }
  let s := p.step a.step
  if s.isDone || a.base + s.depth ≠ node.depth then [a]
  else
    let later := mayTakeLater s a node
    if takes s node then
      let waiting := if later && (s.capturesBelow || p.isFallible a.step) then [a] else []
      match p.captured a s node with
      | none => waiting
      | some captures =>
        p.branch (2 * p.steps.size + 2)
          { a with step := a.step + 1, captures, seeking := false, needsParent := false } ++ waiting
    else if later then [a] else []

/-! ## Comparing -/

/-- Whether a node comes before another: it starts earlier, or there and ends later. -/
def isBefore (a b : NodeRef) : Bool := a.start < b.start || (a.start = b.start && b.stop < a.stop)

/-- Whether the first list of captures holds all of the second, and the second all of the first. The
first argument bounds their lengths together. -/
def contain : Nat → List Capture → List Capture → Bool × Bool
  | 0, _, _ => (true, true)
  | _, [], [] => (true, true)
  | _, _ :: _, [] => (true, false)
  | _, [], _ :: _ => (false, true)
  | n + 1, a :: as, b :: bs =>
    if a.node.id = b.node.id && a.index = b.index then contain n as bs
    else if a.node.id ≠ b.node.id && isBefore a.node b.node then
      ((contain n as (b :: bs)).1, false)
    else if a.node.id ≠ b.node.id && isBefore b.node a.node then
      (false, (contain n (a :: as) bs).2)
    else (false, false)

def compare (a b : Attempt) : Bool × Bool :=
  contain (a.captures.length + b.captures.length + 1) a.captures.reverse b.captures.reverse

/-- Compares an attempt with those behind it. Gives the attempt unless it is dropped, and what is left
of the others. -/
def settle (a : Attempt) : List Attempt → Option Attempt × List Attempt
  | [] => (some a, [])
  | b :: r =>
    if b.base ≠ a.base ∨ b.pattern ≠ a.pattern then (some a, b :: r)
    else
      let (holdsOther, heldByOther) := compare a b
      let same := a.step = b.step
      if holdsOther && same then settle a r
      else
        let b := { b with contested := b.contested || holdsOther }
        if heldByOther && same then (none, b :: r)
        else
          let (a, r) := settle { a with contested := a.contested || heldByOther } r
          (a, b :: r)

/-- Compares all attempts; gives those that go on and the matches among them. The first argument bounds
their number. -/
def settleAll (p : Plan) : Nat → List Attempt → List Attempt × List Attempt
  | 0, l => (l, [])
  | _, [] => ([], [])
  | n + 1, a :: r =>
    let (a, r) := settle a r
    let (going, finished) := settleAll p n r
    match a with
    | none => (going, finished)
    | some a =>
      if (p.step a.step).isDone && !a.contested then (going, a :: finished)
      else (a :: going, finished)

/-! ## The search -/

def react (p : Plan) (attempts : List Attempt) : Event → List Attempt × List Attempt
  | .enter node =>
    let attempts := (p.beginAll node attempts).flatMap (p.advance node)
    p.settleAll attempts.length attempts
  | .leave depth =>
    let ends := fun (a : Attempt) => (p.step a.step).isDone && (depth < a.base || depth = 0)
    let fails := fun (a : Attempt) =>
      !(p.step a.step).isDone && depth < a.base + (p.step a.step).depth
    (attempts.filter fun a => !ends a && !fails a, attempts.filter ends)

def searchFrom (p : Plan) (attempts : List Attempt) : List Event → List Attempt
  | [] => []
  | e :: r =>
    let (attempts, finished) := p.react attempts e
    finished ++ p.searchFrom attempts r

def search (p : Plan) (t : Tree) : List QueryMatch :=
  (p.searchFrom [] (events t)).map fun a => ⟨a.pattern, a.captures.reverse⟩

end Plan

end RuleLint.Query
