import RuleLint.Query.Error
import RuleLint.Query.Step
import RuleLint.Syntax.Grammar

/-!
# Reading queries

Brackets enclose alternatives and parentheses a node with its parts, a sequence, or a condition. A name
before a colon is a role, a text in quotes a word or sign, `_` any node. A dot keeps named nodes from
coming between its neighbours, `+`, `*` and `?` repeat what they follow or make it optional, and a name
after `@` captures it. Comments start with `;`.
-/

namespace RuleLint.Query

open Text (byteSize)

/-- Why reading ended, and the text left where it did. -/
structure Refusal where
  cause : Cause
  rest : List Char

structure Draft where
  steps : Array Step := #[]
  /-- Steps and the text left where they are written, latest first. -/
  places : List (Nat × List Char) := []
  captures : List String := []
  conditions : List Condition := []

abbrev Reader (α : Type) := StateT Draft (Except Refusal) α

def refuse {α : Type} (cause : Cause) (rest : List Char) : Reader α := throw ⟨cause, rest⟩

/-! ## Words -/

def isSpace (c : Char) : Bool := c = ' ' || (9 ≤ c.toNat && c.toNat ≤ 13)

/-- What is left of a text after blanks and comments; the flag tells whether it starts in a comment. -/
def skipFrom (comment : Bool) : List Char → List Char
  | [] => []
  | c :: r =>
    if comment then skipFrom (c ≠ '\n') r
    else if isSpace c then skipFrom false r
    else if c = ';' then skipFrom true r
    else c :: r

def skip (cs : List Char) : List Char := skipFrom false cs

def startsName (cs : List Char) : Bool :=
  cs.head?.any fun c => c.isAlphanum || c = '_' || c = '-'

def continuesName (c : Char) : Bool := c.isAlphanum || c = '_' || c = '-' || c = '.'

def name : List Char → String × List Char
  | [] => ("", [])
  | c :: r => (String.ofList (c :: r.takeWhile continuesName), r.dropWhile continuesName)

def escaped : Char → Char
  | 'n' => '\n'
  | 'r' => '\r'
  | 't' => '\t'
  | '0' => Char.ofNat 0
  | c => c

def quoted : List Char → Option (List Char × List Char)
  | [] => none
  | '"' :: r => some ([], r)
  | '\n' :: _ => none
  | ['\\'] => none
  | '\\' :: c :: r => (quoted r).map fun p => (escaped c :: p.1, p.2)
  | c :: r => (quoted r).map fun p => (c :: p.1, p.2)

def textIn (cs : List Char) : Reader (String × List Char) :=
  match quoted (cs.drop 1) with
  | some (s, r) => return (String.ofList s, r)
  | none => refuse .malformed cs

/-! ## Steps -/

def mapChain (f : Step → Step) : Nat → Nat → Array Step → Array Step
  | 0, _, steps => steps
  | n + 1, i, steps =>
    match steps[i]? with
    | none => steps
    | some s =>
      let steps := steps.setIfInBounds i (f s)
      match s.alternative with
      | some j => if i < j ∧ j < steps.size then mapChain f n j steps else steps
      | none => steps

def lastAlternative (steps : Array Step) (limit : Nat) : Nat → Nat → Nat
  | 0, i => i
  | n + 1, i =>
    match steps[i]?.bind Step.alternative with
    | some j => if j < limit then lastAlternative steps limit n j else i
    | none => i

/-- Makes the step after all others an alternative to a step whose alternatives end before `limit`. -/
def addExit (start limit : Nat) (steps : Array Step) : Array Step :=
  let i := lastAlternative steps limit steps.size start
  steps.modify i fun s => { s with alternative := some steps.size }

/-- Links branches that start at the given steps: each has the next as its alternative, and its end
jumps behind the last. -/
def linkBranches (steps : Array Step) : List Nat → Array Step
  | i :: j :: r =>
    let steps := steps.modify i fun s => { s with alternative := some j }
    let steps := steps.modify (j - 1) fun s =>
      { s with alternative := some steps.size, role := .jump }
    linkBranches steps (j :: r)
  | _ => steps

def push (s : Step) : Reader Unit := modify fun d => { d with steps := d.steps.push s }

def stepCount : Reader Nat := return (← get).steps.size

def captureIndex (name : String) : Reader Nat := do
  let d ← get
  match d.captures.findIdx? (· = name) with
  | some i => return i
  | none =>
    set { d with captures := d.captures ++ [name] }
    return d.captures.length

def notePlace (rest : List Char) : Reader Unit := modify fun d =>
  if d.places.head?.any fun p => p.1 = d.steps.size then d
  else { d with places := (d.steps.size, rest) :: d.places }

/-! ## Conditions -/

def arguments : Nat → List Argument → List Char → Reader (List Argument × List Char)
  | 0, _, cs => refuse .malformed cs
  | n + 1, args, cs =>
    match cs with
    | ')' :: r => return (args.reverse, skip r)
    | '@' :: r =>
      if startsName r then do
        let (s, after) := name r
        match (← get).captures.findIdx? (· = s) with
        | some i => arguments n (.capture i :: args) (skip after)
        | none => refuse .unknownCapture r
      else refuse .malformed r
    | '"' :: r => do
      let (s, after) ← textIn ('"' :: r)
      arguments n (.text s :: args) (skip after)
    | cs =>
      if startsName cs then
        let (s, after) := name cs
        arguments n (.text s :: args) (skip after)
      else refuse .malformed cs

def condition (cs : List Char) : Reader (List Char) :=
  if startsName cs then
    let (s, r) := name cs
    match r with
    | c :: r =>
      if c = '?' ∨ c = '!' then do
        let (args, r) ← arguments (r.length + 1) [] (skip r)
        modify fun d => { d with conditions := ⟨s.push c, args⟩ :: d.conditions }
        return r
      else refuse .malformed (c :: r)
    | [] => refuse .malformed []
  else refuse .malformed cs

/-! ## Patterns -/

def kindOf (g : Grammar) (name : String) (rest : List Char) : Reader (Kind × Option String) :=
  if name = "_" then return (.anyNamed, none)
  else if name.isPrefixOf Symbol.error.name then return (.only .error, none)
  else if g.hasClass name then return (.any, some name)
  else if g.hasSymbol ⟨name, true⟩ then return (.only ⟨name, true⟩, none)
  else refuse .unknownKind rest

/-- The kind that a name after a slash asks for. -/
def memberKind (g : Grammar) (name : String) (rest : List Char) : Reader Kind :=
  if name.isPrefixOf Symbol.error.name then return .only .error
  else if g.hasClass name ∨ g.hasSymbol ⟨name, true⟩ then return .only ⟨name, true⟩
  else refuse .unknownKind rest

def nodeStep (g : Grammar) (depth : Nat) (immediate : Bool) (cs : List Char) :
    Reader (List Char) := do
  if !startsName cs then refuse .malformed cs
  let (s, r) := name cs
  let (kind, cls) ← kindOf g s cs
  let r := skip r
  match r with
  | '/' :: r =>
    if !startsName r then refuse .malformed r
    let (s, after) := name r
    let kind ← memberKind g s r
    push { role := .node, depth, kind, cls, immediate }
    return skip after
  | r =>
    push { role := .node, depth, kind, cls, immediate }
    return r

/-- How many roles a node can be asked not to have. -/
def maxAbsent : Nat := 8

/-- A name after an exclamation mark: a role that no part may play. -/
def absentField (g : Grammar) (cs : List Char) : Reader (String × List Char) := do
  let r := skip cs
  if !startsName r then refuse .malformed r
  let (s, after) := name r
  if !g.hasField s then refuse .unknownField r
  return (s, skip after)

def suffixes (start depth : Nat) : Nat → List Char → Reader (List Char)
  | 0, cs => return cs
  | n + 1, cs =>
    match cs with
    | '+' :: r => do
      push { role := .fork, depth, alternative := some start }
      suffixes start depth n (skip r)
    | '*' :: r => do
      push { role := .fork, depth, alternative := some start }
      modify fun d => { d with steps := addExit start (d.steps.size - 1) d.steps }
      suffixes start depth n (skip r)
    | '?' :: r => do
      modify fun d => { d with steps := addExit start d.steps.size d.steps }
      suffixes start depth n (skip r)
    | '@' :: r => do
      if !startsName r then refuse .malformed r
      let (s, after) := name r
      let i ← captureIndex s
      modify fun d => { d with steps := mapChain (·.addCapture i) d.steps.size start d.steps }
      suffixes start depth n (skip after)
    | cs => return cs

mutual

/-- A pattern; nothing is given if a closing bracket comes instead. The first argument bounds the
recursion. -/
def pattern (g : Grammar) : Nat → Nat → Bool → List Char → Reader (Option (List Char))
  | 0, _, _, cs => refuse .malformed cs
  | n + 1, depth, immediate, cs =>
    match cs with
    | [] => refuse .malformed []
    | ')' :: _ | ']' :: _ => return none
    | cs => do
      notePlace cs
      let start ← stepCount
      match cs with
      | '(' :: r =>
        let r := skip r
        match r with
        | '.' :: r | '#' :: r => return some (← condition r)
        | _ => pure ()
      | _ => pure ()
      let r ← body g n depth immediate start cs
      return some (← suffixes start depth (r.length + 1) (skip r))

def body (g : Grammar) : Nat → Nat → Bool → Nat → List Char → Reader (List Char)
  | 0, _, _, _, cs => refuse .malformed cs
  | n + 1, depth, immediate, start, cs =>
    match cs with
    | '[' :: r => branches g n depth immediate [] (skip r)
    | '(' :: r =>
      let r := skip r
      if r.head?.any fun c => c = '(' || c = '"' || c = '[' then sequence g n depth immediate r
      else do
        let r ← nodeStep g depth immediate r
        parts g n (depth + 1) start none [] r
    | '_' :: r => do
      push { role := .node, depth, kind := .any, immediate }
      return skip r
    | '"' :: r => do
      let (s, after) ← textIn cs
      if !g.hasSymbol ⟨s, false⟩ then refuse .unknownKind r
      push { role := .node, depth, kind := .only ⟨s, false⟩, immediate }
      return after
    | cs =>
      if startsName cs then do
        let (s, r) := name cs
        match skip r with
        | ':' :: r =>
          match ← pattern g n depth immediate (skip r) with
          | none => refuse .malformed (skip r)
          | some after =>
            if !g.hasField s then refuse .unknownField cs
            modify fun d =>
              { d with steps := mapChain ({ · with field := some s }) d.steps.size start d.steps }
            return after
        | _ => refuse .malformed cs
      else refuse .malformed cs

/-- The branches of an alternation up to its closing bracket; `starts` are those of the branches
before, latest first. -/
def branches (g : Grammar) : Nat → Nat → Bool → List Nat → List Char → Reader (List Char)
  | 0, _, _, _, cs => refuse .malformed cs
  | n + 1, depth, immediate, starts, cs => do
    let start ← stepCount
    match ← pattern g n depth immediate cs with
    | none =>
      match cs, starts with
      | ']' :: r, _ :: _ =>
        modify fun d => { d with steps := linkBranches d.steps.pop starts.reverse }
        return r
      | cs, _ => refuse .malformed cs
    | some r =>
      push { role := .node, depth }
      branches g n depth immediate (start :: starts) r

def sequence (g : Grammar) : Nat → Nat → Bool → List Char → Reader (List Char)
  | 0, _, _, cs => refuse .malformed cs
  | n + 1, depth, immediate, cs => do
    let (immediate, cs) := match cs with
      | '.' :: r => (true, skip r)
      | cs => (immediate, cs)
    match ← pattern g n depth immediate cs with
    | none =>
      match cs with
      | ')' :: r => return r
      | cs => refuse .malformed cs
    | some r => sequence g n depth false r

/-- The parts of the node of the step `owner` up to the closing parenthesis. `before` is the step of
the part before, and `absent` the roles that no part may play. -/
def parts (g : Grammar) : Nat → Nat → Nat → Option Nat → List String → List Char → Reader (List Char)
  | 0, _, _, _, _, cs => refuse .malformed cs
  | n + 1, depth, owner, before, absent, cs => do
    match cs with
    | '!' :: r =>
      let (s, r) ← absentField g r
      parts g n depth owner before (if absent.length < maxAbsent then absent ++ [s] else absent) r
    | cs =>
      let (anchored, cs) := match cs with
        | '.' :: r => (true, skip r)
        | cs => (false, cs)
      let start ← stepCount
      match ← pattern g n depth anchored cs with
      | none =>
        match cs with
        | ')' :: r =>
          if anchored then
            match before with
            | none => refuse .malformed cs
            | some i =>
              modify fun d =>
                { d with steps := mapChain ({ · with last := true }) d.steps.size i d.steps }
          if !absent.isEmpty then
            modify fun d => { d with steps := d.steps.modify owner fun s => { s with absent } }
          return r
        | cs => refuse .malformed cs
      | some r =>
        let after ← stepCount
        parts g n depth owner (some (if start = after then start - 1 else start)) absent r

end

/-! ## Queries -/

/-- The patterns of a query. The first argument bounds their number, and `size` is that of the whole
text in bytes. -/
def patterns (g : Grammar) (size : Nat) : Nat → List Char → Reader (List Pattern)
  | 0, _ => return []
  | _, [] => return []
  | n + 1, cs => do
    let first ← stepCount
    match ← pattern g (4 * cs.length + 4) 0 false cs with
    | none => refuse .malformed cs
    | some r =>
      push .finish
      let d ← get
      set { d with conditions := [] }
      let p : Pattern := ⟨first, d.steps.size, size - byteSize cs, d.conditions.reverse⟩
      return p :: (← patterns g size n r)

def outline (g : Grammar) (text : String) : Except QueryError Outline :=
  let cs := text.toList
  let size := byteSize cs
  let offset := fun (rest : List Char) => size - byteSize rest
  match (patterns g size (cs.length + 1) (skip cs)).run {} with
  | .error r => .error (.at_ r.cause (offset r.rest))
  | .ok (ps, d) =>
    .ok ⟨d.steps, d.places.reverse.map fun p => (p.1, offset p.2), ps, d.captures⟩

end RuleLint.Query
