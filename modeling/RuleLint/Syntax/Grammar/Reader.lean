import RuleLint.Syntax.Grammar

/-!
# Reading grammars

Grammars are written in a notation of their own. A grammar is a sequence of statements that end with
`;`, and `#` starts a comment.

* `root a`, `item a`, `word a`, `extra a b`, `reserved a b`, `lines strict` and `blank /…/` set what
  they name.
* `class a = b c` declares a class, `union a = b c` one that cannot be asked for, and `a = …` a rule.
  Of several with one name the last counts. In a rule of operators, `a ::= …`, each alternative may
  start with its level and the kinds that it goes on from: `[3]`, `[3: b c]`.
* `'x'` is a sign or word, `"x"` one that may be part of a longer sign, `/x/` a stretch of text.
  Between quotes and slashes the backslash escapes.
* `a@3` is a rule at a level and `$_` the operand that an alternative goes on from, `$a` as one of a
  class.
* `x y`, `x | y`, `x*`, `x+`, `x?` and parentheses are as usual. `a: x` names the role of `x`,
  `x -> a` its kind, `^x` lets nothing come before `x`, `&x` and `!x` look ahead, `~` is a gap.
* `%free x`, `%strict x` and `%block x` rule the line ends in `x`; other words after `%` are tokens of
  layout.
-/

namespace RuleLint.Grammar

/-! ## Tokens -/

inductive Word where
  | name (s : String)
  | number (n : Nat)
  | exact (s : String)
  | loose (s : String)
  | regex (s : String)
  | sign (s : String)
  deriving DecidableEq, Repr

def isNameChar (c : Char) : Bool := c.isAlphanum || c = '_'

def digitOf (c : Char) : Nat :=
  if c.isDigit then c.toNat - 48 else if 'a' ≤ c then c.toNat - 87 else c.toNat - 55

def quotedText (quote : Char) : Nat → List Char → Option (List Char × List Char)
  | 0, _ => none
  | _, [] => none
  | n + 1, '\\' :: 'x' :: a :: b :: r =>
    (quotedText quote n r).map fun p => (Char.ofNat (16 * digitOf a + digitOf b) :: p.1, p.2)
  | n + 1, '\\' :: c :: r =>
    let c := match c with
      | 'n' => '\n'
      | 't' => '\t'
      | '0' => Char.ofNat 0
      | c => c
    (quotedText quote n r).map fun p => (c :: p.1, p.2)
  | n + 1, c :: r =>
    if c = quote then some ([], r)
    else (quotedText quote n r).map fun p => (c :: p.1, p.2)

def patternText : Nat → List Char → Option (List Char × List Char)
  | 0, _ => none
  | _, [] => none
  | n + 1, '\\' :: '/' :: r => (patternText n r).map fun p => ('/' :: p.1, p.2)
  | n + 1, '\\' :: c :: r => (patternText n r).map fun p => ('\\' :: c :: p.1, p.2)
  | n + 1, c :: r =>
    if c = '/' then some ([], r) else (patternText n r).map fun p => (c :: p.1, p.2)

def words : Nat → List Char → Option (List Word)
  | 0, _ => none
  | _, [] => some []
  | n + 1, c :: r =>
    if c = ' ' ∨ c = '\n' then words n r
    else if c = '#' then words n (r.dropWhile (· ≠ '\n'))
    else if c.isDigit then
      let digits := (c :: r).takeWhile Char.isDigit
      (words n ((c :: r).dropWhile Char.isDigit)).map fun l =>
        .number (digits.foldl (fun n c => 10 * n + (c.toNat - 48)) 0) :: l
    else if isNameChar c then
      (words n ((c :: r).dropWhile isNameChar)).map fun l =>
        .name (String.ofList ((c :: r).takeWhile isNameChar)) :: l
    else match c, r with
      | '\'', r => do
        let (s, r) ← quotedText '\'' (r.length + 1) r
        return .exact (String.ofList s) :: (← words n r)
      | '"', r => do
        let (s, r) ← quotedText '"' (r.length + 1) r
        return .loose (String.ofList s) :: (← words n r)
      | '/', r => do
        let (s, r) ← patternText (r.length + 1) r
        return .regex (String.ofList s) :: (← words n r)
      | '-', '>' :: r => (words n r).map (.sign "->" :: ·)
      | ':', ':' :: '=' :: r => (words n r).map (.sign "::=" :: ·)
      | c, r => (words n r).map (.sign (String.singleton c) :: ·)

/-! ## Elements -/

abbrev WordReader (α : Type) := List Word → Option (α × List Word)

def layoutToken? : String → Option LayoutToken
  | "same_line" => some .sameLine
  | "semicolon" => some (.impliedSemicolon .expression)
  | "semicolon_word" => some (.impliedSemicolon .word)
  | "semicolon_type" => some (.impliedSemicolon .type)
  | "semicolon_signature" => some (.impliedSemicolon .signature)
  | "line_start" => some .lineStart
  | "line_end" => some .lineEnd
  | "indent" => some .indent
  | "dedent" => some .dedent
  | "text_end" => some .textEnd
  | _ => none

/-- One element or none in place of a sequence. -/
def seqOf : List Element → Element
  | [e] => e
  | l => .seq l

def choiceOf : List Element → Element
  | [e] => e
  | l => .choice l

mutual

def readChoice : Nat → WordReader Element
  | 0, _ => none
  | n + 1, ws => do
    let (first, r) ← readSeq n ws
    let (rest, r) ← readOptions n r
    return (choiceOf (first :: rest), r)

def readOptions : Nat → WordReader (List Element)
  | 0, _ => none
  | n + 1, ws =>
    match ws with
    | .sign "|" :: r => do
      let (e, r) ← readSeq n r
      let (es, r) ← readOptions n r
      return (e :: es, r)
    | r => some ([], r)

def readSeq : Nat → WordReader Element
  | 0, _ => none
  | n + 1, ws => do
    let (items, r) ← readItems n ws
    return (seqOf items, r)

def readItems : Nat → WordReader (List Element)
  | 0, _ => none
  | n + 1, ws =>
    match ws with
    | [] | .sign "|" :: _ | .sign ")" :: _ | .sign ";" :: _ => some ([], ws)
    | ws => do
      let (e, r) ← readPostfix n ws
      let (es, r) ← readItems n r
      return (e :: es, r)

def readPostfix : Nat → WordReader Element
  | 0, _ => none
  | n + 1, ws => do
    let (e, r) ← readPrimary n ws
    return readSuffixes e r

def readPrimary : Nat → WordReader Element
  | 0, _ => none
  | n + 1, ws =>
    match ws with
    | .name s :: .sign ":" :: r => do
      let (e, r) ← readPostfix n r
      return (.field s e, r)
    | .name s :: .sign "@" :: .number k :: r => some (.rule s k, r)
    | .name s :: r => some (.rule s 0, r)
    | .exact s :: r => some (.literal s true, r)
    | .loose s :: r => some (.literal s false, r)
    | .regex s :: r =>
      match Regex.compile s with
      | .ok p => some (.pattern p, r)
      | .error _ => none
    | .sign "(" :: r => do
      let (e, r) ← readChoice n r
      match r with
      | .sign ")" :: r => return (e, r)
      | _ => none
    | .sign "$" :: .name "_" :: r => some (.operand none, r)
    | .sign "$" :: .name s :: r => some (.operand (some s), r)
    | .sign "~" :: r => some (.layout .gap, r)
    | .sign "^" :: r => do
      let (e, r) ← readPrimary n r
      return (.immediate e, r)
    | .sign "&" :: r => do
      let (e, r) ← readPrimary n r
      return (.ahead true e, r)
    | .sign "!" :: r => do
      let (e, r) ← readPrimary n r
      return (.ahead false e, r)
    | .sign "%" :: .name "free" :: r => do
      let (e, r) ← readPostfix n r
      return (.lines true e, r)
    | .sign "%" :: .name "strict" :: r => do
      let (e, r) ← readPostfix n r
      return (.lines false e, r)
    | .sign "%" :: .name "block" :: r => do
      let (e, r) ← readPostfix n r
      return (.indented e, r)
    | .sign "%" :: .name s :: r => do return (.layout (← layoutToken? s), r)
    | _ => none

def readSuffixes (e : Element) : List Word → Element × List Word
  | .sign "*" :: r => readSuffixes (.many e) r
  | .sign "+" :: r => readSuffixes (.seq [e, .many e]) r
  | .sign "?" :: r => readSuffixes (.optional e) r
  | .sign "->" :: .name s :: r => readSuffixes (.renamed ⟨s, true⟩ e) r
  | .sign "->" :: .exact s :: r => readSuffixes (.renamed ⟨s, false⟩ e) r
  | r => (e, r)

end

/-! ## Statements -/

def namesOf (ws : List Word) : List String :=
  ws.filterMap fun
    | .name s => some s
    | _ => none

/-- The part of an alternative before its element: its level and the kinds that it goes on from. -/
def readLevel : List Word → Option (Nat × List String) × List Word
  | .sign "[" :: .number n :: r =>
    (some (n, namesOf (r.takeWhile (· ≠ .sign "]"))), (r.dropWhile (· ≠ .sign "]")).drop 1)
  | r => (none, r)

/-- A bound on the recursion that reads words: five calls for each at most. -/
def nesting (ws : List Word) : Nat := 5 * ws.length + 5

def readOperators : Nat → WordReader (List (Option (Nat × List String) × Element))
  | 0, _ => none
  | n + 1, ws => do
    let (level, r) := readLevel ws
    let (e, r) ← readSeq (nesting r) r
    match r with
    | .sign "|" :: r =>
      let (rest, r) ← readOperators n r
      return ((level, e) :: rest, r)
    | r => return ([(level, e)], r)

inductive Statement where
  | setting (key : String) (names : List String)
  | blank (pattern : String)
  | cls (name : String) (members : List String) (askable : Bool)
  | rule (rule : GrammarRule)

def readStatement (ws : List Word) : Option Statement :=
  match ws with
  | .name "blank" :: .regex s :: _ => some (.blank s)
  | .name "class" :: .name s :: .sign "=" :: r => some (.cls s (namesOf r) true)
  | .name "union" :: .name s :: .sign "=" :: r => some (.cls s (namesOf r) false)
  | .name s :: .sign "=" :: r => do
    let (e, _) ← readChoice (nesting r) r
    return .rule ⟨s, e, [], false⟩
  | .name s :: .sign "::=" :: r => do
    let (alternatives, _) ← readOperators (r.length + 1) r
    let base := alternatives.filterMap fun a => if a.1.isNone then some a.2 else none
    let continuations := alternatives.filterMap fun a => a.1.map fun l => ⟨l.1, l.2, a.2⟩
    return .rule ⟨s, choiceOf base, continuations, false⟩
  | .name s :: r => some (.setting s (namesOf r))
  | _ => none

def statements : List Word → List (List Word)
  | [] => []
  | w :: r =>
    if w = .sign ";" then [] :: statements r
    else match statements r with
      | [] => [[w]]
      | s :: ss => (w :: s) :: ss

def settings (key : String) (ss : List Statement) : List String :=
  ss.flatMap fun
    | .setting k names => if k = key then names else []
    | _ => []

def setting (key : String) (ss : List Statement) : String := ((settings key ss).getLast?).getD ""

/-- The characters that a pattern for one character stands for. -/
def charsOf (pattern : String) : Unicode.Ranges :=
  match Regex.compile pattern with
  | .ok r =>
    match r.program.instrs[r.program.start]? with
    | some (.char set _) => set
    | _ => []
  | .error _ => []

def signsOf (rules : List GrammarRule) : List String :=
  ((rules.flatMap (·.elements)).flatMap (·.literals) |>.filter fun s => s.toList.head?.any fun c => !isNameChar c && c ≠ '\n').eraseDups

def latest : List GrammarRule → List GrammarRule
  | [] => []
  | r :: rs => if rs.any fun s => s.name = r.name then latest rs else r :: latest rs

/-- Marks the rules that are a stretch of text without parts: a pattern, or a word or sign that stands
nowhere else. -/
def markTokens (rules : List GrammarRule) : List GrammarRule :=
  let mentioned := (rules.flatMap (·.elements)).flatMap (·.literals)
  rules.map fun r =>
    let isToken := r.continuations.isEmpty && match r.base with
      | .pattern _ => true
      | .literal s _ => mentioned.count s = 1
      | _ => false
    { r with isToken }

def ofStatements (ss : List Statement) : Grammar :=
  let rules := markTokens <| latest <| ss.filterMap fun
    | .rule r => some r
    | _ => none
  { root := setting "root" ss
    item := setting "item" ss
    rules
    byName := (rules.foldl (fun (n, m) r => (n + 1, m.insert r.name (n, r))) (0, ∅)).2
    classes := (ss.filterMap fun
      | .cls n ms _ => some (n, ms)
      | _ => none).reverse
    unions := ss.filterMap fun
      | .cls n _ false => some n
      | _ => none
    blanks := ss.flatMap fun
      | .blank s => charsOf s
      | _ => []
    extras := settings "extra" ss
    word := setting "word" ss
    reserved := settings "reserved" ss
    signs := signsOf rules
    strictLines := (settings "lines" ss).contains "strict" }

def ofText? (text : String) : Option Grammar := do
  let cs := text.toList
  let ws ← words (cs.length + 1) cs
  return ofStatements (← ((statements ws).filter (· ≠ [])).mapM readStatement)

end RuleLint.Grammar
