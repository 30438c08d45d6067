import RuleLint.Syntax.Layout

/-!
# Reading a text by a grammar

The elements of a grammar are tried at a place of the text, the alternatives of a choice in their
order; the first that can be read counts. What a rule reads at a place is kept, so that it is worked
out once. A rule of operators reads a start and then goes on from it as long as an alternative of at
least the level asked for can be read.
-/

namespace RuleLint.Syntax

/-- What was read: trees in order and the place behind them. -/
abbrev Outcome := Option (List Tree × Nat)

structure Setting where
  /-- Line ends are blanks. -/
  free : Bool
  /-- Nothing is passed before the next token. -/
  tight : Bool
  indent : Nat
  /-- What an alternative of operators goes on from. -/
  operand : Option Tree

/-- A rule, its level, whether line ends are blanks, whether nothing is passed, the indentation and
the place. -/
abbrev Key := Nat × Nat × Bool × Bool × Nat × Nat

abbrev Memo := Std.HashMap Key Outcome

abbrev Reading := StateM Memo Outcome

/-! ## Tokens -/

def dropText : List Char → List Char → Option (List Char)
  | [], cs => some cs
  | _ :: _, [] => none
  | a :: s, c :: cs => if a = c then dropText s cs else none

def isWordChar (c : Char) : Bool := c.isAlphanum || c = '_' || 128 ≤ c.toNat

/-- Whether a word or sign may end where `rest` follows. -/
def endsToken (g : Grammar) (exact : Bool) (text : String) (cs rest : List Char) : Bool :=
  match text.toList.getLast? with
  | none => true
  | some c =>
    if isWordChar c then !(rest.head?.any isWordChar)
    else if !exact then true
    else !(g.signs.any fun s =>
      text.length < s.length && (dropText text.toList s.toList).isSome &&
        (dropText s.toList cs).isSome)

def readLiteral (g : Grammar) (s : Source) (text : String) (exact : Bool) (i : Nat) : Outcome :=
  let cs := s.from_ i
  match dropText text.toList cs with
  | none => none
  | some rest =>
    if endsToken g exact text cs rest then
      let stop := i + text.length
      some ([Tree.leaf (some ⟨text, false⟩) i stop], stop)
    else none

def readPattern (s : Source) (regex : Regex) (i : Nat) : Outcome :=
  (regex.program.matchAt? (s.before? i) (s.from_ i)).map fun n => ([Tree.leaf none i (i + n)], i + n)

/-- Leaves that stand for nothing in the text. -/
def mark (i : Nat) : Outcome := some ([Tree.leaf none i i], i)

/-- Where a token that stands for nothing is put between two places: behind the last that is not
blank. -/
def lastSolid (s : Source) (i j : Nat) : Nat :=
  let between := (s.slice i j).reverse
  if between.all Layout.isSpace then i else j - (between.takeWhile Layout.isSpace).length

def group (place : Nat) (trees : List Tree) : List Tree :=
  match trees with
  | [] => []
  | [t] => [t]
  | ts => [Tree.around none place ts]

/-- Names the classes that a tree was asked for by when the class `name` was. -/
def classify (g : Grammar) (name : String) (t : Tree) : Tree :=
  match t.label.symbol with
  | some ⟨kind, true⟩ => t.withClasses ((g.classesOf Grammar.classDepth name kind).getD [])
  | _ => t

def wrap (g : Grammar) (r : GrammarRule) (place : Nat) (trees : List Tree) : List Tree :=
  if (g.class? r.name).isSome then trees.map (classify g r.name)
  else if !r.continuations.isEmpty then trees
  else if r.isToken then
    let symbol := if GrammarRule.hides r.name then none else some ⟨r.name, true⟩
    trees.map fun t => Tree.leaf symbol t.start t.stop
  else if GrammarRule.hides r.name then
    match trees with
    | [] => []
    | ts => [Tree.around none place ts]
  else [Tree.around (some ⟨r.name, true⟩) place trees]

def rename (symbol : Symbol) (place : Nat) : List Tree → List Tree
  | [t] => [t.withSymbol symbol]
  | ts => [Tree.around (some symbol) place ts]

def isFree (g : Grammar) (s : Source) (r : List Tree × Nat) : Bool :=
  r.1.all fun t => !g.reserved.contains (String.ofList (s.slice t.start t.stop))

/-! ## Elements -/

mutual

def pass (g : Grammar) (s : Source) : Nat → Setting → Nat → StateM Memo Nat
  | 0, _, i => return i
  | n + 1, st, i => do
    match s.from_ i with
    | [] => return i
    | c :: _ =>
      if !st.free && c = '\n' then return i
      else if g.blank c then pass g s n st (i + 1)
      else
        match ← readExtra g s n st i g.extras with
        | some (_, j) => if i < j then pass g s n st j else return i
        | none => return i

def readExtra (g : Grammar) (s : Source) : Nat → Setting → Nat → List String → Reading
  | 0, _, _, _ => return none
  | _, _, _, [] => return none
  | n + 1, st, i, name :: names => do
    match ← readRule g s n { st with tight := true, operand := none } name 0 i with
    | some r => return some r
    | none => readExtra g s n st i names

def readRule (g : Grammar) (s : Source) : Nat → Setting → String → Nat → Nat → Reading
  | 0, _, _, _, _ => return none
  | n + 1, st, name, level, i => do
    match g.rule? name with
    | none => return none
    | some (index, r) =>
      if st.operand.isSome then
        let result ← read g s n st r.base i
        return result.map fun (ts, j) => (wrap g r i ts, j)
      else
        let key : Key := (index, level, st.free, st.tight, st.indent, i)
        match (← get)[key]? with
        | some result => return result
        | none =>
          let result ← read g s n st (r.baseAt level) i
          let result := result.map fun (ts, j) => (wrap g r i ts, j)
          let result := if r.name = g.word then result.filter (isFree g s) else result
          let result ← match result, r.continuations with
            | some ([t], j), _ :: _ => goOn g s n st r level t j
            | result, _ => pure result
          modify fun m => m.insert key result
          return result

def goOn (g : Grammar) (s : Source) : Nat → Setting → GrammarRule → Nat → Tree → Nat → Reading
  | 0, _, _, _, t, i => return some ([t], i)
  | n + 1, st, r, level, t, i => do
    match ← continueBy g s n { st with tight := false } level t i r.continuations with
    | some ([u], j) => goOn g s n st r level (classify g r.name u) j
    | _ => return some ([t], i)

/-- Goes on from a tree by the first alternative that can be read. -/
def continueBy (g : Grammar) (s : Source) :
    Nat → Setting → Nat → Tree → Nat → List Continuation → Reading
  | 0, _, _, _, _, _ => return none
  | _, _, _, _, _, [] => return none
  | n + 1, st, level, t, i, c :: cs => do
    let fits := level ≤ c.level && (c.from_.isEmpty || c.from_.any t.isKind)
    let result ← if fits then read g s n { st with operand := some t } c.item i else pure none
    match result with
    | some r => return some r
    | none => continueBy g s n st level t i cs

def read (g : Grammar) (s : Source) : Nat → Setting → Element → Nat → Reading
  | 0, _, _, _ => return none
  | n + 1, st, e, i => do
    match e with
    | .literal text exact =>
      let i ← if st.tight then pure i else pass g s n st i
      return readLiteral g s text exact i
    | .pattern regex =>
      let i ← if st.tight then pure i else pass g s n st i
      return readPattern s regex i
    | .rule name level => readRule g s n st name level i
    | .operand cls =>
      match st.operand, cls with
      | some t, some name => return some ([classify g name t], i)
      | some t, none => return some ([t.withClasses []], i)
      | none, _ => return none
    | .seq items => readSeq g s n st items i
    | .choice options => readChoice g s n st options i
    | .many item =>
      let result ← readMany g s n st item i
      return result.map fun (ts, j) =>
        match ts with
        | [] => ([], j)
        | ts => ([Tree.around none i ts], j)
    | .optional item =>
      match ← read g s n st item i with
      | some r => return some r
      | none => return some ([], i)
    | .field name item =>
      return (← read g s n st item i).map fun (ts, j) => (ts.map (Tree.withField name), j)
    | .renamed symbol item =>
      return (← read g s n st item i).map fun (ts, j) => (rename symbol i ts, j)
    | .immediate item => read g s n { st with tight := true } item i
    | .ahead expected item =>
      let result ← read g s n st item i
      return if result.isSome = expected then some ([], i) else none
    | .lines free item => read g s n { st with free } item i
    | .indented item =>
      let j ← pass g s n { st with free := true } i
      let indent := Layout.indentationAt s j
      if st.indent < indent && j < s.size && Layout.startsLine s j then
        read g s n { st with indent, tight := false } item i
      else return none
    | .layout token => readLayout g s n st token i

def readSeq (g : Grammar) (s : Source) : Nat → Setting → List Element → Nat → Reading
  | 0, _, _, _ => return none
  | _, _, [], i => return some ([], i)
  | n + 1, st, e :: es, i => do
    match ← read g s n st e i with
    | none => return none
    | some (ts, j) =>
      let moved := i < j || !ts.isEmpty
      let st := { st with
        tight := st.tight && !moved, operand := if moved then none else st.operand }
      match ← readSeq g s n st es j with
      | none => return none
      | some (us, k) => return some (ts ++ us, k)

def readChoice (g : Grammar) (s : Source) : Nat → Setting → List Element → Nat → Reading
  | 0, _, _, _ => return none
  | _, _, [], _ => return none
  | n + 1, st, e :: es, i => do
    match ← read g s n st e i with
    | some r => return some r
    | none => readChoice g s n st es i

/-- An element as often as it can be read. Each turn but the last passes some text. -/
def readMany (g : Grammar) (s : Source) : Nat → Setting → Element → Nat → Reading
  | 0, _, _, i => return some ([], i)
  | n + 1, st, e, i => do
    match ← read g s n st e i with
    | none => return some ([], i)
    | some (ts, j) =>
      if j ≤ i then return some ([], i)
      else
        match ← readMany g s n { st with tight := false } e j with
        | some (us, k) => return some (group i ts ++ us, k)
        | none => return some (group i ts, j)

def readLayout (g : Grammar) (s : Source) : Nat → Setting → LayoutToken → Nat → Reading
  | 0, _, _, _ => return none
  | n + 1, st, token, i => do
    match token with
    | .gap => return some ([], ← pass g s n { st with free := true } i)
    | .sameLine =>
      let j ← pass g s n { st with free := true } i
      return if (s.slice i j).contains '\n' then none else some ([], i)
    | .impliedSemicolon after => readImplied g s n st after i
    | .lineStart =>
      let j ← pass g s n { st with free := true } i
      if j < s.size && Layout.startsLine s j && Layout.indentationAt s j = st.indent then
        return some ([], j)
      else return none
    | .lineEnd =>
      let j ← pass g s n { st with free := false } i
      match s.from_ j with
      | c :: _ => if c = '\n' then return mark (lastSolid s i j) else return none
      | [] => return mark (lastSolid s i j)
    | .indent =>
      let j ← pass g s n { st with free := true } i
      if st.indent < Layout.indentationAt s j && j < s.size && Layout.startsLine s j then
        return mark i
      else return none
    | .dedent => readDedent g s n st i i
    | .textEnd =>
      let j ← pass g s n { st with free := true } i
      return if j = s.size then some ([], i) else none

/-- A semicolon that is not written, behind the comments that come before it. -/
def readImplied (g : Grammar) (s : Source) : Nat → Setting → BeforeSemicolon → Nat → Reading
  | 0, _, _, _ => return none
  | n + 1, st, after, i => do
    let cs := s.from_ i
    if Layout.impliesSemicolon after (cs.length + 1) cs then return mark i
    else
      let j := i + (cs.takeWhile g.blank).length
      match ← readExtra g s n st j g.extras with
      | some (_, k) => if j < k then readImplied g s n st after k else return none
      | none => return none

/-- The end of a block, behind the comments that still belong to it; `from_` is where the last of
them ended. -/
def readDedent (g : Grammar) (s : Source) : Nat → Setting → Nat → Nat → Reading
  | 0, _, _, _ => return none
  | n + 1, st, from_, i => do
    match s.from_ i with
    | [] => return mark from_
    | c :: _ =>
      if g.blank c then readDedent g s n st from_ (i + 1)
      else
        match ← readExtra g s n { st with free := true } i g.extras with
        | some (_, j) =>
          if i < j && st.indent ≤ Layout.indentationAt s i then readDedent g s n st j j
          else
            let k ← pass g s n { st with free := true } i
            if k = s.size || Layout.indentationAt s k < st.indent then return mark from_
            else return none
        | none =>
          if Layout.indentationAt s i < st.indent then return mark from_ else return none

end

end RuleLint.Syntax
