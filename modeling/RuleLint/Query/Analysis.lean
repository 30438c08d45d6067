import RuleLint.Query.Error
import RuleLint.Query.Step
import RuleLint.Syntax.Grammar

/-!
# Which patterns can match

By a grammar the parts of a node come in certain orders. Following the grammar, a pattern's steps for
the parts of a node are advanced over all orders at once: a part that a step takes advances it. A pattern
whose steps reach the end in no order is impossible. A step at which some order leaves the pattern is not
certain.
-/

namespace RuleLint.Query

namespace Analysis

structure Part where
  symbol : Symbol
  field : Option String
  classes : List String

/-- The steps that have been reached, and whether the end of the pattern has. -/
structure Reached where
  steps : List Nat
  finished : Bool := false

namespace Reached

def merge (a b : Reached) : Reached :=
  ⟨a.steps ++ b.steps.filter fun i => !a.steps.contains i, a.finished || b.finished⟩

def bind (r : Reached) (f : Nat → Reached) : Reached :=
  r.steps.foldl (fun acc i => acc.merge (f i)) ⟨[], r.finished⟩

def mergeAll (l : List Reached) : Reached := l.foldl merge ⟨[], false⟩

end Reached

/-! ## Advancing over a part -/

def takes (s : Step) (p : Part) : Bool :=
  match s.kind with
  | .only symbol =>
    symbol == .error ||
      (symbol == p.symbol && (s.field.isNone || s.field == p.field) && s.cls.all p.classes.contains)
  | kind =>
    (kind == .any || p.symbol.named) && (s.field.isNone || s.field == p.field) &&
      s.cls.all p.classes.contains

def skipBelow (steps : Array Step) (depth : Nat) : Nat → Nat → Nat
  | 0, i => i
  | n + 1, i =>
    match steps[i]? with
    | none => i
    | some s => if s.isDone || s.depth ≤ depth then i else skipBelow steps depth n (i + 1)

/-- What is reached at a step and its alternatives further on, the step before being at a depth. -/
def arrive (steps : Array Step) (depth : Nat) : Nat → Nat → Reached
  | 0, _ => ⟨[], false⟩
  | n + 1, i =>
    let s := steps.getD i .finish
    if s.role == .fork then arrive steps depth n (i + 1)
    else
      let here : Reached :=
        if s.role == .jump then ⟨[], false⟩
        else if s.isDone || s.depth ≠ depth then ⟨[], true⟩
        else ⟨[i], false⟩
      match s.alternative with
      | some j => if i < j then here.merge (arrive steps depth n j) else here
      | none => here

def advanceOver (steps : Array Step) (p : Part) (i : Nat) : Reached :=
  let s := steps.getD i .finish
  if takes s p then
    arrive steps s.depth (steps.size + 1) (skipBelow steps s.depth steps.size (i + 1))
  else ⟨[i], false⟩

/-! ## Following a grammar -/

/-- Repeats a move until it reaches nothing new. The first argument bounds the repetitions. -/
def closure (f : Reached → Reached) : Nat → Reached → Reached
  | 0, r => r
  | n + 1, r =>
    let next := r.merge (f r)
    if next.steps.length = r.steps.length ∧ next.finished = r.finished then r
    else closure f n next

/-- What the parts of a node are known by from the elements around them. -/
structure Context where
  field : Option String := none
  classes : List String := []

def operandKinds (g : Grammar) (name : String) : List String :=
  g.rules.flatMap fun r => r.continuations.flatMap fun c =>
    let mentions := match c.item with
      | .rule n _ => n == name
      | .renamed _ (.rule n _) => n == name
      | _ => false
    if !mentions then []
    else if !c.from_.isEmpty then c.from_
    else match g.class? r.name with
      | some _ => g.members Grammar.classDepth r.name
      | none => (r.elements.flatMap Element.kinds)

def passExtras (g : Grammar) (steps : Array Step) (r : Reached) : Reached :=
  closure (fun r => .mergeAll (g.extras.map fun e =>
    r.bind (advanceOver steps ⟨⟨e, true⟩, none, []⟩))) (steps.size + 1) r

def pass (g : Grammar) (steps : Array Step) (ctx : Context) (symbol : Symbol) (r : Reached) : Reached :=
  (passExtras g steps r).bind (advanceOver steps ⟨symbol, ctx.field, ctx.classes⟩)

/-- A node of a class. The first argument bounds how deep classes are nested. -/
def passClass (g : Grammar) (steps : Array Step) : Nat → Context → String → Reached → Reached
  | 0, _, _, r => r
  | depth + 1, ctx, name, r =>
    match g.class? name with
    | none => pass g steps ctx ⟨name, true⟩ r
    | some members =>
      .mergeAll (members.map fun m =>
        passClass g steps depth { ctx with classes := name :: ctx.classes } m r)

mutual

/-- What an element of the rule `owner` leads to. The first argument bounds the recursion. -/
def follow (g : Grammar) (steps : Array Step) (owner : String) :
    Nat → Context → Element → Reached → Reached
  | 0, _, _, _ => ⟨[], false⟩
  | n + 1, ctx, e, r =>
    match e with
    | .literal text _ => pass g steps ctx ⟨text, false⟩ r
    | .pattern _ => r
    | .rule name _ =>
      if (g.class? name).isSome then passClass g steps (Grammar.classDepth + 1) ctx name r
      else
        match g.rule? name with
        | none => r
        | some (_, rule) =>
          if rule.isVisible g then pass g steps ctx ⟨name, true⟩ r
          else if rule.isToken then r
          else followAny g steps name n ctx rule.elements r
    | .operand (some name) => passClass g steps (Grammar.classDepth + 1) ctx name r
    | .operand none =>
      .mergeAll ((operandKinds g owner).map fun k => pass g steps ctx ⟨k, true⟩ r)
    | .seq items => followAll g steps owner n ctx items r
    | .choice options => followAny g steps owner n ctx options r
    | .many e => closure (follow g steps owner n ctx e) (steps.size + 1) r
    | .optional e => r.merge (follow g steps owner n ctx e r)
    | .field name e =>
      follow g steps owner n { ctx with field := ctx.field.or (some name) } e r
    | .renamed symbol _ => pass g steps ctx symbol r
    | .immediate e => follow g steps owner n ctx e r
    | .lines _ e => follow g steps owner n ctx e r
    | .indented e => follow g steps owner n ctx e r
    | .ahead _ _ => r
    | .layout _ => r

def followAll (g : Grammar) (steps : Array Step) (owner : String) :
    Nat → Context → List Element → Reached → Reached
  | 0, _, _, _ => ⟨[], false⟩
  | _, _, [], r => r
  | n + 1, ctx, e :: es, r => followAll g steps owner n ctx es (follow g steps owner n ctx e r)

def followAny (g : Grammar) (steps : Array Step) (owner : String) :
    Nat → Context → List Element → Reached → Reached
  | 0, _, _, _ => ⟨[], false⟩
  | _, _, [], _ => ⟨[], false⟩
  | n + 1, ctx, e :: es, r =>
    (follow g steps owner n ctx e r).merge (followAny g steps owner n ctx es r)

end

def followDepth : Nat := 60

def bodies (g : Grammar) (kind : String) : List (String × Element) :=
  let own := match g.rule? kind with
    | some (_, r) => if r.isVisible g && !r.isToken then [(r.name, r.base)] else []
    | none => []
  let renamed := g.rules.flatMap fun r => (r.elements.flatMap (·.renamings ⟨kind, true⟩)).flatMap fun
    | .rule name _ =>
      match g.rule? name with
      | some (_, r) => if r.isToken then [] else r.elements.map fun e => (name, e)
      | none => []
    | .pattern _ | .literal _ _ => []
    | e => [(r.name, e)]
  own ++ renamed

/-! ## Steps -/

def isBelow (depth : Nat) (s : Step) : Bool := !s.isDone && depth < s.depth

def countBelow (steps : Array Step) (i : Nat) : Nat :=
  let depth := (steps.getD i .finish).depth
  ((steps.toList.drop (i + 1)).takeWhile (isBelow depth)).length

def hasCaptures (steps : Array Step) (i : Nat) : Bool :=
  ((steps.toList.drop i).take (countBelow steps i + 1)).any fun s => !s.captures.isEmpty

def mapBelow (f : Step → Step) (steps : Array Step) (i : Nat) : Array Step :=
  (List.range (countBelow steps i)).foldl (fun steps k => steps.modify (i + 1 + k) f) steps

/-- The steps whose parts are looked into: those for nodes of a certain kind. -/
def parents (steps : Array Step) : List Nat :=
  (List.range steps.size).filter fun i =>
    let s := steps.getD i .finish
    s.isNode && !s.isWild && 0 < countBelow steps i

def mark (steps : Array Step) : Array Step :=
  let steps := (List.range steps.size).foldl (fun acc i =>
    acc.modify i fun s => { s with capturesBelow := !s.isDone && hasCaptures steps i }) steps
  (parents steps).foldl (fun steps i => mapBelow ({ · with certain := true }) steps i) steps

/-- The place of the first step from a step on that is written, or of the last. -/
def placeOf (offsets : List (Nat × Nat)) (i : Nat) : Nat :=
  match offsets.find? fun p => i ≤ p.1 with
  | some p => p.2
  | none => (offsets.getLast?.map (·.2)).getD 0

def check (g : Grammar) (offsets : List (Nat × Nat)) (steps : Array Step) (i : Nat) :
    Except QueryError (Array Step) :=
  let s := steps.getD i .finish
  match s.kind with
  | .only symbol =>
    if symbol == .error then .ok steps
    else
      match bodies g symbol.name with
      | [] => .error (.at_ .impossible (placeOf offsets (i + 1)))
      | l =>
        let reached := Reached.mergeAll (l.map fun (owner, e) =>
          follow g steps owner followDepth {} e ⟨[i + 1], false⟩)
        if reached.finished then
          .ok (reached.steps.foldl (fun steps j => steps.modify j fun t =>
            if isBelow s.depth t && t.role != .jump then { t with certain := false } else t) steps)
        else
          let last := reached.steps.foldl max i
          .error (.at_ .impossible (placeOf offsets last))
  | _ => .ok steps

end Analysis

/-- The steps of a query with what is known of them by a grammar, or why the query cannot match. -/
def Outline.analyse (g : Grammar) (o : Outline) : Except QueryError (Array Step) :=
  let steps := Analysis.mark o.steps
  (Analysis.parents steps).foldlM (Analysis.check g o.offsets) steps

end RuleLint.Query
