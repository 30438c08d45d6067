import RuleLint.Regex.Ast
import RuleLint.Text.Blank
import RuleLint.Unicode.Category
import RuleLint.Unicode.Property

/-!
# Reading patterns

A pattern is read from left to right into its parts. In free-spacing mode blanks and comments
between parts are skipped.
-/

namespace RuleLint.Regex

structure Reading where
  rest : List Char
  place : Place
  freeSpacing : Bool
  names : List (List Char × Span)

abbrev Parser (α : Type) := StateT Reading (Except Fault) α

namespace Parser

def failAt {α : Type} (span : Span) (cause : Cause) : Parser α := throw ⟨cause, span, none⟩

def place : Parser Place := return (← get).place

def spanHere : Parser Span := do
  let p ← place
  return ⟨p, p⟩

def peek : Parser (Option Char) := return (← get).rest.head?

def atEnd : Parser Bool := return (← get).rest.isEmpty

def Place.after (p : Place) (c : Char) : Place :=
  if c = '\n' then ⟨p.line + 1, 1⟩ else ⟨p.line, p.column + 1⟩

def spanChar : Parser Span := do
  let s ← get
  match s.rest with
  | [] => return ⟨s.place, s.place⟩
  | c :: _ => return ⟨s.place, Place.after s.place c⟩

/-- Passes a character; tells whether another follows. -/
def bump : Parser Bool := do
  let s ← get
  match s.rest with
  | [] => return false
  | c :: r =>
    set { s with rest := r, place := Place.after s.place c }
    return !r.isEmpty

def bumpWhile (p : Char → Bool) : Parser Unit := do
  for _ in (← get).rest.takeWhile p do
    let _ ← bump

/-- In free-spacing mode, passes blanks and comments. -/
def bumpSpace : Parser Unit := do
  if (← get).freeSpacing then
    for _ in [0:(← get).rest.length] do
      match (← get).rest with
      | [] => return
      | c :: _ =>
        if Text.isBlank c then let _ ← bump
        else if c = '#' then
          bumpWhile (· ≠ '\n')
          let _ ← bump
        else return

def bumpAndSpace : Parser Bool := do
  if ← bump then
    bumpSpace
    return !(← atEnd)
  else return false

def bumpIf (cs : List Char) : Parser Bool := do
  if cs.isPrefixOf (← get).rest then
    for _ in cs do
      let _ ← bump
    return true
  else return false

/-- The character after the next one, space between them being passed over. A comment ends at its
first character that is no blank. -/
def peekPastSpace : Parser (Option Char) := do
  let s ← get
  match s.rest with
  | [] => return none
  | _ :: r =>
    if s.freeSpacing then return go false r else return r.head?
where
  go : Bool → List Char → Option Char
    | _, [] => none
    | inComment, c :: r =>
      if Text.isBlank c then go inComment r
      else if !inComment && c = '#' then go true r
      else some c

/-! ## Numbers and names -/

def isDecimal (c : Char) : Bool := '0' ≤ c && c ≤ '9'

def hexValue? (c : Char) : Option Nat :=
  if '0' ≤ c ∧ c ≤ '9' then some (c.toNat - 48)
  else if 'a' ≤ c ∧ c ≤ 'f' then some (c.toNat - 87)
  else if 'A' ≤ c ∧ c ≤ 'F' then some (c.toNat - 55)
  else none

def scalar? (digits : List Nat) : Option Char :=
  let n := digits.foldl (fun n d => min (16 * n + d) 0x110000) 0
  if n < 0xD800 ∨ (0xDFFF < n ∧ n < 0x110000) then some (Char.ofNat n) else none

def decimal : Parser (Except Fault Nat) := do
  bumpWhile Text.isBlank
  let start ← place
  let mut n := 0
  let mut any := false
  for _ in [0:(← get).rest.length] do
    match ← peek with
    | some c =>
      if isDecimal c then
        n := min (10 * n + (c.toNat - 48)) (Nat.pow 2 32)
        any := true
        let _ ← bumpAndSpace
      else break
    | none => break
  let span : Span := ⟨start, ← place⟩
  for _ in [0:(← get).rest.length] do
    match ← peek with
    | some c => if Text.isBlank c then let _ ← bumpAndSpace else break
    | none => break
  if !any then return .error ⟨.countDecimalEmpty, span, none⟩
  else if n < Nat.pow 2 32 then return .ok n
  else return .error ⟨.decimalInvalid, span, none⟩

/-! ## Escapes -/

/-- The characters that an escape makes literal because they have a meaning of their own. -/
def isMeta (c : Char) : Bool := "\\.+*?()|[]\x7b\x7d^$#&-~".toList.contains c

/-- The characters that may be escaped without need: ASCII other than letters, digits and angles. -/
def isEscapable (c : Char) : Bool :=
  isMeta c || (c.toNat < 128 && !c.isAlphanum && c ≠ '<' && c ≠ '>')

def hexDigits (count : Nat) (byte : Bool) : Parser Literal := do
  let start ← place
  let mut digits := #[]
  for i in [0:count] do
    if 0 < i then
      if !(← bumpAndSpace) then failAt (← spanHere) .escapeUnfinished
    match (← peek).bind hexValue? with
    | some d => digits := digits.push d
    | none => failAt (← spanChar) .hexDigit
  let _ ← bumpAndSpace
  let span : Span := ⟨start, ← place⟩
  match scalar? digits.toList with
  | some c => return ⟨span, c, byte⟩
  | none => failAt span .hexInvalid

def hexBraces : Parser Literal := do
  let brace ← place
  let start := (← spanChar).stop
  let mut digits := #[]
  for _ in [0:(← get).rest.length] do
    if !(← bumpAndSpace) then break
    match ← peek with
    | some '\x7d' => break
    | some c =>
      match hexValue? c with
      | some d => digits := digits.push d
      | none => failAt (← spanChar) .hexDigit
    | none => break
  if ← atEnd then failAt ⟨brace, ← place⟩ .escapeUnfinished
  let stop ← place
  let _ ← bumpAndSpace
  if digits.isEmpty then failAt ⟨brace, ← place⟩ .hexEmpty
  match scalar? digits.toList with
  | some c => return ⟨⟨start, ← place⟩, c, false⟩
  | none => failAt ⟨start, stop⟩ .hexInvalid

/-- A character by its number, after the backslash; `letter` tells how many digits it has. -/
def hex (letter : Char) : Parser Literal := do
  if !(← bumpAndSpace) then failAt (← spanHere) .escapeUnfinished
  if (← peek) = some '\x7b' then hexBraces
  else if letter = 'x' then hexDigits 2 true
  else hexDigits (if letter = 'u' then 4 else 8) false

def cutAt (sep : List Char) : List Char → Option (List Char × List Char)
  | [] => none
  | c :: r =>
    if sep.isPrefixOf (c :: r) then some ([], (c :: r).drop sep.length)
    else (cutAt sep r).map fun p => (c :: p.1, p.2)

def property (start : Place) : Parser (Span × PropertyName × Bool) := do
  let negated := (← peek) = some 'P'
  if !(← bumpAndSpace) then failAt (← spanHere) .escapeUnfinished
  if (← peek) = some '\x7b' then
    let mut name := #[]
    for _ in [0:(← get).rest.length] do
      if !(← bumpAndSpace) then break
      match ← peek with
      | some '\x7d' => break
      | some c => name := name.push c
      | none => break
    if ← atEnd then failAt (← spanHere) .escapeUnfinished
    let _ ← bump
    let cs := name.toList
    let span : Span := ⟨start, ← place⟩
    match cutAt ['!', '='] cs with
    | some (n, v) => return (span, .pair (String.ofList n) (String.ofList v), !negated)
    | none =>
      match (cutAt [':'] cs).or (cutAt ['='] cs) with
      | some (n, v) => return (span, .pair (String.ofList n) (String.ofList v), negated)
      | none => return (span, .single (String.ofList cs), negated)
  else
    match ← peek with
    | some '\\' => failAt (← spanChar) .propertyLetter
    | some c =>
      let _ ← bumpAndSpace
      return (⟨start, ← place⟩, .single (String.ofList [c]), negated)
    | none => failAt (← spanHere) .escapeUnfinished

/-- The special boundary in braces after `\b`, if there is one. Braces whose content cannot be one
are left for a counted repetition. -/
def specialBoundary (start : Place) : Parser (Option AssertionKind) := do
  let before ← get
  let brace ← place
  if !(← bumpAndSpace) then failAt ⟨start, ← place⟩ .boundaryUnfinished
  let contents ← place
  let valid (c : Char) : Bool := c.isAlpha || c = '-'
  if !((← peek).any valid) then
    set before
    return none
  let mut name := #[]
  for _ in [0:(← get).rest.length] do
    match ← peek with
    | some c =>
      if valid c then
        name := name.push c
        let _ ← bumpAndSpace
      else break
    | none => break
  if (← peek) ≠ some '\x7d' then failAt ⟨brace, ← place⟩ .boundaryUnclosed
  let stop ← place
  let _ ← bump
  match String.ofList name.toList with
  | "start" => return some .wordStart
  | "end" => return some .wordEnd
  | "start-half" => return some .wordStartHalf
  | "end-half" => return some .wordEndHalf
  | _ => failAt ⟨contents, stop⟩ .boundaryUnknown

def escapeSequence : Parser Ast := do
  let start ← place
  if !(← bump) then failAt ⟨start, ← place⟩ .escapeUnfinished
  let c := (← peek).getD ' '
  if isDecimal c then failAt ⟨start, (← spanChar).stop⟩ .backreference
  if c = 'x' ∨ c = 'u' ∨ c = 'U' then
    let l ← hex c
    return .literal { l with span := ⟨start, l.span.stop⟩ }
  if c = 'p' ∨ c = 'P' then
    let (span, name, negated) ← property start
    return .property span name negated
  let _ ← bump
  let span : Span := ⟨start, ← place⟩
  let literal (x : Char) : Parser Ast := return .literal ⟨span, x, false⟩
  let assertion (k : AssertionKind) : Parser Ast := return .assertion span k
  match c with
  | 'd' => return .perl span .digit false
  | 'D' => return .perl span .digit true
  | 's' => return .perl span .space false
  | 'S' => return .perl span .space true
  | 'w' => return .perl span .word false
  | 'W' => return .perl span .word true
  | 'a' => literal '\x07'
  | 'f' => literal '\x0c'
  | 't' => literal '\t'
  | 'n' => literal '\n'
  | 'r' => literal '\r'
  | 'v' => literal '\x0b'
  | 'A' => assertion .startText
  | 'z' => assertion .endText
  | 'b' =>
    if (← peek) = some '\x7b' then
      match ← specialBoundary start with
      | some k => return .assertion ⟨start, ← place⟩ k
      | none => assertion .wordBoundary
    else assertion .wordBoundary
  | 'B' => assertion .notWordBoundary
  | '<' => assertion .wordStart
  | '>' => assertion .wordEnd
  | c => if isEscapable c then literal c else failAt span .escapeUnknown

/-! ## Classes -/

def classPart : Parser Ast := do
  match ← peek with
  | some '\\' => escapeSequence
  | some c =>
    let span ← spanChar
    let _ ← bump
    return .literal ⟨span, c, false⟩
  | none => return .empty (← spanHere)

def classItemOf : Ast → Parser ClassItem
  | .literal l => return .literal l
  | .property span name negated => return .property span name negated
  | .perl span kind negated => return .perl span kind negated
  | a => failAt a.span .classEscape

def classLiteralOf : Ast → Parser Literal
  | .literal l => return l
  | a => failAt a.span .classRangeLiteral

def unionOf (span : Span) : List ClassItem → ClassItem
  | [] => .empty
  | [i] => i
  | items => .union span items

def classRange (opening : Span) : Parser ClassItem := do
  let first ← classPart
  bumpSpace
  if ← atEnd then failAt opening .classUnclosed
  let next ← peekPastSpace
  if (← peek) ≠ some '-' ∨ next = some ']' ∨ next = some '-' then classItemOf first
  else
    if !(← bumpAndSpace) then failAt opening .classUnclosed
    let second ← classPart
    let span : Span := ⟨first.span.start, second.span.stop⟩
    let a ← classLiteralOf first
    let b ← classLiteralOf second
    if a.char ≤ b.char then return .range span a b else failAt span .classRange

def asciiKind? : String → Option AsciiKind
  | "alnum" => some .alnum
  | "alpha" => some .alpha
  | "ascii" => some .ascii
  | "blank" => some .blank
  | "cntrl" => some .cntrl
  | "digit" => some .digit
  | "graph" => some .graph
  | "lower" => some .lower
  | "print" => some .print
  | "punct" => some .punct
  | "space" => some .space
  | "upper" => some .upper
  | "word" => some .word
  | "xdigit" => some .xdigit
  | _ => none

/-- A named class such as `[:alpha:]`, or nothing, the reading then being as before. -/
def asciiClass? : Parser (Option ClassItem) := do
  let before ← get
  let start ← place
  let back : Parser (Option ClassItem) := do
    set before
    return none
  match before.rest with
  | '[' :: ':' :: r =>
    let negated := r.head? = some '^'
    let r := if negated then r.drop 1 else r
    let name := r.takeWhile (· ≠ ':')
    match r.dropWhile (· ≠ ':'), asciiKind? (String.ofList name) with
    | ':' :: ']' :: _, some kind =>
      for _ in [0:name.length + (if negated then 5 else 4)] do
        let _ ← bump
      return some (.ascii ⟨start, ← place⟩ kind negated)
    | _, _ => back
  | _ => back

/-- The start of a class: its bracket, its negation, and the characters that are literal there.
Gives the stretch of the opening, whether the class is negated, and the literal items. -/
def classOpening : Parser (Span × Bool × Array ClassItem) := do
  let start ← place
  if !(← bumpAndSpace) then failAt ⟨start, ← place⟩ .classUnclosed
  let negated := (← peek) = some '^'
  if negated then
    if !(← bumpAndSpace) then failAt ⟨start, ← place⟩ .classUnclosed
  let mut items : Array ClassItem := #[]
  for _ in [0:(← get).rest.length] do
    if (← peek) = some '-' then
      items := items.push (.literal ⟨← spanChar, '-', false⟩)
      if !(← bumpAndSpace) then failAt ⟨start, start⟩ .classUnclosed
    else break
  if items.isEmpty ∧ (← peek) = some ']' then
    items := items.push (.literal ⟨← spanChar, ']', false⟩)
    if !(← bumpAndSpace) then failAt ⟨start, ← place⟩ .classUnclosed
  return (⟨start, ← place⟩, negated, items)

def classOp? : List Char → Option ClassOp
  | '&' :: '&' :: _ => some .inter
  | '-' :: '-' :: _ => some .diff
  | '~' :: '~' :: _ => some .symmDiff
  | _ => none

def joinSets (left : Option (ClassOp × ClassSet)) (span : Span) (items : Array ClassItem) : ClassSet :=
  let right : ClassSet := .item (unionOf span items.toList)
  match left with
  | none => right
  | some (kind, l) => .op span kind l right

mutual

def bracketed : Nat → Parser (Span × Bool × ClassSet)
  | 0 => do failAt (← spanHere) .nestLimit
  | n + 1 => do
    let (opening, negated, items) ← classOpening
    let set ← classBody n (← get).rest.length opening none ⟨opening.start, opening.start⟩ items
    return (⟨opening.start, ← place⟩, negated, set)

def classBody : Nat → Nat → Span → Option (ClassOp × ClassSet) → Span → Array ClassItem →
    Parser ClassSet
  | _, 0, opening, _, _, _ => failAt opening .classUnclosed
  | n, k + 1, opening, left, span, items => do
    bumpSpace
    match (← get).rest with
    | [] => failAt opening .classUnclosed
    | '[' :: _ =>
      match ← asciiClass? with
      | some i => classBody n k opening left span (items.push i)
      | none =>
        match n with
        | 0 => failAt (← spanHere) .nestLimit
        | n + 1 =>
          let (inner, negated, set) ← bracketed n
          classBody (n + 1) k opening left span (items.push (.bracketed inner negated set))
    | ']' :: _ =>
      let _ ← bump
      return joinSets left span items
    | cs =>
      match classOp? cs with
      | some kind =>
        let _ ← bump
        let _ ← bump
        classBody n k opening (some (kind, joinSets left span items)) (← spanHere) #[]
      | none => classBody n k opening left span (items.push (← classRange opening))

end

/-! ## Groups -/

def flagOf? : Char → Option Flag
  | 'i' => some .caseInsensitive
  | 'm' => some .multiLine
  | 's' => some .dotMatchesNewLine
  | 'U' => some .swapGreed
  | 'u' => some .unicode
  | 'R' => some .crlf
  | 'x' => some .freeSpacing
  | _ => none

def flags : Nat → Option Span → Option Span → List (Flag × Span × Bool) → Parser FlagChanges
  | 0, _, _, _ => do failAt (← spanHere) .flagUnfinished
  | n + 1, negation, dangling, seen => do
    let span ← spanChar
    let next (negation dangling : Option Span) (seen : List (Flag × Span × Bool)) :
        Parser FlagChanges := do
      if ← bump then flags n negation dangling seen
      else failAt (← spanHere) .flagUnfinished
    match ← peek with
    | some ':' | some ')' =>
      match dangling with
      | some s => failAt s .flagDangling
      | none => return seen.reverse.map fun f => (f.1, f.2.2)
    | some '-' =>
      match negation with
      | some first => throw ⟨.flagNegationRepeated, span, some first⟩
      | none => next (some span) (some span) seen
    | some c =>
      match flagOf? c with
      | none => failAt span .flagUnknown
      | some f =>
        match seen.find? fun e => e.1 = f with
        | some e => throw ⟨.flagDuplicate, span, some e.2.1⟩
        | none => next negation none ((f, span, negation.isNone) :: seen)
    | none => failAt span .flagUnfinished

def hasProperty (name : String) (c : Char) : Bool :=
  ((Unicode.property? name).getD []).contains c.toNat

def isLetter (c : Char) : Bool :=
  if c.toNat < 128 then c.isAlpha else hasProperty "alphabetic" c

def isLetterOrNumber (c : Char) : Bool :=
  if c.toNat < 128 then c.isAlphanum
  else hasProperty "alphabetic" c || ((Unicode.category? "n").getD []).contains c.toNat

def isNameChar (first : Bool) (c : Char) : Bool :=
  if first then c = '_' || isLetter c
  else c = '_' || c = '.' || c = '[' || c = ']' || isLetterOrNumber c

def groupName : Parser Unit := do
  if ← atEnd then failAt (← spanHere) .groupNameUnfinished
  let start ← place
  let mut name := #[]
  for _ in [0:(← get).rest.length] do
    match ← peek with
    | some '>' => break
    | some c =>
      if !isNameChar name.isEmpty c then failAt (← spanChar) .groupNameInvalid
      name := name.push c
      if !(← bump) then break
    | none => break
  let stop ← place
  if ← atEnd then failAt (← spanHere) .groupNameUnfinished
  let _ ← bump
  if name.isEmpty then failAt ⟨start, start⟩ .groupNameEmpty
  let s ← get
  match s.names.find? fun e => e.1 = name.toList with
  | some e => throw ⟨.groupNameDuplicate, ⟨start, stop⟩, some e.2⟩
  | none => set { s with names := (name.toList, ⟨start, stop⟩) :: s.names }

inductive Opening where
  | directive (span : Span) (changes : FlagChanges)
  | group (changes : FlagChanges) (captures : Bool)

def groupOpening (span : Span) : Parser Opening := do
  let _ ← bump
  bumpSpace
  for look in ["?=", "?!", "?<=", "?<!"] do
    if ← bumpIf look.toList then failAt ⟨span.start, ← place⟩ .lookAround
  let inner ← spanHere
  if ← bumpIf "?P<".toList then
    groupName
    return .group [] true
  if ← bumpIf "?<".toList then
    groupName
    return .group [] true
  if ← bumpIf ['?'] then
    if ← atEnd then failAt span .groupUnclosed
    let changes ← flags ((← get).rest.length + 1) none none []
    let stop ← peek
    let _ ← bump
    if stop = some ')' then
      if changes.isEmpty then failAt inner .repetitionMissing
      return .directive ⟨span.start, ← place⟩ changes
    else return .group changes false
  return .group [] true

/-! ## Sequences -/

/-- The operand of a repetition operator: the last part read. -/
def operand (parts : Array Ast) : Parser Ast := do
  match parts.back? with
  | none | some (.empty _) | some (.flags _ _) => failAt (← spanHere) .repetitionMissing
  | some a => return a

def uncounted (parts : Array Ast) (least : Nat) (most : Option Nat) : Parser (Array Ast) := do
  let a ← operand parts
  let mut greedy := true
  if ← bump then
    if (← peek) = some '?' then
      greedy := false
      let _ ← bump
  return parts.pop.push (.repetition ⟨a.span.start, ← place⟩ least most greedy a)

def numberOf : Except Fault Nat → Parser Nat
  | .ok n => return n
  | .error f => throw f

/-- The least and the greatest count of a repetition, after the first number in its braces. -/
def counts (unclosed : Parser Unit) (first : Except Fault Nat) : Parser (Nat × Option Nat) := do
  if (← peek) = some ',' then
    if !(← bumpAndSpace) then unclosed
    if (← peek) = some '\x7d' then return (← numberOf first, none)
    let least ← numberOf first
    return (least, some (← numberOf (← decimal)))
  else
    let n ← numberOf first
    return (n, some n)

def counted (parts : Array Ast) : Parser (Array Ast) := do
  let start ← place
  let a ← operand parts
  let unclosed : Parser Unit := do failAt ⟨start, ← place⟩ .countUnclosed
  if !(← bumpAndSpace) then unclosed
  let first ← decimal
  if ← atEnd then unclosed
  let (least, most) ← counts unclosed first
  if (← peek) ≠ some '\x7d' then unclosed
  let mut greedy := true
  if ← bumpAndSpace then
    if (← peek) = some '?' then
      greedy := false
      let _ ← bump
  let span : Span := ⟨start, ← place⟩
  if most.any (· < least) then failAt span .countInvalid
  return parts.pop.push (.repetition ⟨a.span.start, span.stop⟩ least most greedy a)

def concatOf (span : Span) : List Ast → Ast
  | [] => .empty span
  | [a] => a
  | parts => .concat span parts

def setFreeSpacing (on : Bool) : Parser Unit := modify fun s => { s with freeSpacing := on }

def freeSpacingAfter (changes : FlagChanges) (now : Bool) : Bool :=
  match changes.find? fun c => c.1 = .freeSpacing with
  | some c => c.2
  | none => now

/-- The parts read so far as one, with the branches before them. -/
def close (start branchStart : Place) (branches : Array Ast) (parts : Array Ast) : Parser Ast := do
  let stop ← place
  let last := concatOf ⟨branchStart, stop⟩ parts.toList
  if branches.isEmpty then return last
  else return .alternation ⟨start, stop⟩ (branches.push last).toList

/-- Everything up to the end or the parenthesis that closes `group`, whose opening stretch is given.
The first argument bounds the number of parts. -/
def sequence : Nat → Option Span → Place → Place → Array Ast → Array Ast → Parser Ast
  | 0, _, _, _, _, _ => do failAt (← spanHere) .nestLimit
  | n + 1, group, start, branchStart, branches, parts => do
    bumpSpace
    match (← get).rest with
    | [] =>
      match group with
      | some span => failAt span .groupUnclosed
      | none => close start branchStart branches parts
    | '(' :: _ =>
      let span ← spanChar
      match ← groupOpening span with
      | .directive whole changes =>
        setFreeSpacing (freeSpacingAfter changes (← get).freeSpacing)
        sequence n group start branchStart branches (parts.push (.flags whole changes))
      | .group changes captures =>
        let before := (← get).freeSpacing
        setFreeSpacing (freeSpacingAfter changes before)
        let inner ← place
        let body ← sequence n (some span) inner inner #[] #[]
        setFreeSpacing before
        let _ ← bump
        let whole : Span := ⟨span.start, ← place⟩
        sequence n group start branchStart branches (parts.push (.group whole changes captures body))
    | ')' :: _ =>
      match group with
      | some _ => close start branchStart branches parts
      | none => failAt (← spanChar) .groupUnopened
    | '|' :: _ =>
      let branch := concatOf ⟨branchStart, ← place⟩ parts.toList
      let _ ← bump
      sequence n group start (← place) (branches.push branch) #[]
    | '[' :: _ =>
      let (span, negated, set) ← bracketed (← get).rest.length
      sequence n group start branchStart branches (parts.push (.bracketed span negated set))
    | '?' :: _ => sequence n group start branchStart branches (← uncounted parts 0 (some 1))
    | '*' :: _ => sequence n group start branchStart branches (← uncounted parts 0 none)
    | '+' :: _ => sequence n group start branchStart branches (← uncounted parts 1 none)
    | '\x7b' :: _ => sequence n group start branchStart branches (← counted parts)
    | c :: _ =>
      let span ← spanChar
      if c = '\\' then sequence n group start branchStart branches (parts.push (← escapeSequence))
      else
        let _ ← bump
        let a : Ast :=
          if c = '.' then .dot span
          else if c = '^' then .assertion span .startLine
          else if c = '$' then .assertion span .endLine
          else .literal ⟨span, c, false⟩
        sequence n group start branchStart branches (parts.push a)

end Parser

def parse (pattern : String) : Except Fault Ast := do
  let cs := pattern.toList
  let start : Place := ⟨1, 1⟩
  let (a, _) ← (Parser.sequence (2 * cs.length + 2) none start start #[] #[]).run ⟨cs, start, false, []⟩
  match a.tooDeep? 0 with
  | some span => throw ⟨.nestLimit, span, none⟩
  | none => return a

end RuleLint.Regex
