import RuleLint.Regex.Class

/-!
# Patterns by meaning

Giving a pattern its meaning settles the flags: what is left are sets of characters, assertions
about a place, repetitions, sequences and alternatives.
-/

namespace RuleLint.Regex

open Unicode (Ranges)

inductive Boundary where
  | change
  | noChange
  | start
  | stop
  | startHalf
  | stopHalf
  deriving DecidableEq, Repr

inductive Look where
  | textStart
  | textEnd
  | lineStart
  | lineEnd
  | lineStartCrlf
  | lineEndCrlf
  | boundary (kind : Boundary) (unicode : Bool)
  deriving DecidableEq, Repr

inductive Expr where
  | empty
  | char (set : Ranges)
  | look (l : Look)
  | repeated (least : Nat) (most : Option Nat) (greedy : Bool) (body : Expr)
  | capture (body : Expr)
  | concat (parts : List Expr)
  | alternatives (branches : List Expr)
  deriving Inhabited

/-! ## Lengths -/

mutual

/-- Whether the empty text can match, going by lengths alone. -/
def Expr.nullable : Expr → Bool
  | .empty => true
  | .char _ => false
  | .look _ => true
  | .repeated least _ _ body => least = 0 || body.nullable
  | .capture body => body.nullable
  | .concat parts => allNullable parts
  | .alternatives branches => anyNullable branches

def allNullable : List Expr → Bool
  | [] => true
  | e :: r => e.nullable && allNullable r

def anyNullable : List Expr → Bool
  | [] => false
  | e :: r => e.nullable || anyNullable r

end

mutual

def Expr.onlyEmpty : Expr → Bool
  | .empty => true
  | .char _ => false
  | .look _ => true
  | .repeated _ most _ body => most = some 0 || body.onlyEmpty
  | .capture body => body.onlyEmpty
  | .concat parts => allOnlyEmpty parts
  | .alternatives branches => allOnlyEmpty branches

def allOnlyEmpty : List Expr → Bool
  | [] => true
  | e :: r => e.onlyEmpty && allOnlyEmpty r

end

/-- A repetition. What matches only the empty text is repeated at most once. -/
def Expr.repetition (least : Nat) (most : Option Nat) (greedy : Bool) (body : Expr) : Expr :=
  let (least, most) :=
    if body.onlyEmpty then (min least 1, some (min (most.getD 1) 1)) else (least, most)
  if least = 0 ∧ most = some 0 then .empty
  else if least = 1 ∧ most = some 1 then body
  else .repeated least most greedy body

/-! ## Flags -/

structure Flags where
  caseInsensitive : Bool := false
  multiLine : Bool := false
  dotMatchesNewLine : Bool := false
  swapGreed : Bool := false
  unicode : Bool := true
  crlf : Bool := false
  deriving Inhabited

def Flags.set (f : Flags) (flag : Flag) (on : Bool) : Flags :=
  match flag with
  | .caseInsensitive => { f with caseInsensitive := on }
  | .multiLine => { f with multiLine := on }
  | .dotMatchesNewLine => { f with dotMatchesNewLine := on }
  | .swapGreed => { f with swapGreed := on }
  | .unicode => { f with unicode := on }
  | .crlf => { f with crlf := on }
  | .freeSpacing => f

def Flags.change (f : Flags) (changes : FlagChanges) : Flags :=
  changes.foldl (fun f c => f.set c.1 c.2) f

/-- How a pattern is read: whether it must match characters only, never parts of one. -/
structure Mode where
  utf8 : Bool

/-! ## Sets of characters -/

def fault {α : Type} (span : Span) (cause : Cause) : Except Fault α := .error ⟨cause, span, none⟩

def asciiFold (r : Ranges) : Ranges :=
  let upper := Ranges.inter r [(0x41, 0x5A)]
  let lower := Ranges.inter r [(0x61, 0x7A)]
  Ranges.ofList (r ++ upper.map (fun p => (p.1 + 32, p.2 + 32)) ++
    lower.map (fun p => (p.1 - 32, p.2 - 32)))

def isAscii (r : Ranges) : Bool := r.all fun p => p.2 < 128

namespace Flags

def fold (f : Flags) (r : Ranges) : Ranges :=
  if f.caseInsensitive then if f.unicode then Unicode.foldClosure r else asciiFold r else r

/-- The complement of a set, among bytes where characters are bytes. -/
def complement (f : Flags) (r : Ranges) : Ranges :=
  if f.unicode then Ranges.complement r else Ranges.complementTo 0xFF r

/-- Folds a set and negates it. A set of bytes must be ASCII where only characters may match. -/
def finish (f : Flags) (mode : Mode) (span : Span) (negated : Bool) (r : Ranges) :
    Except Fault Ranges :=
  let r := f.fold r
  let r := if negated then f.complement r else r
  if !f.unicode && mode.utf8 && !isAscii r then fault span .invalidUtf8 else .ok r

def perlSet (f : Flags) (mode : Mode) (span : Span) (kind : PerlKind) (negated : Bool) :
    Except Fault Ranges :=
  let r := match kind, f.unicode with
    | .digit, true => digits
    | .space, true => spaces
    | .word, true => words
    | .digit, false => asciiDigits
    | .space, false => asciiSpaces
    | .word, false => asciiWords
  let r := if negated then f.complement r else r
  if !f.unicode && mode.utf8 && !isAscii r then fault span .invalidUtf8 else .ok r

def propertySet (f : Flags) (mode : Mode) (span : Span) (name : PropertyName) (negated : Bool) :
    Except Fault Ranges :=
  if !f.unicode then fault span .unicodeNotAllowed
  else match name.ranges with
    | .error cause => fault span cause
    | .ok r => f.finish mode span negated r

def classChar (f : Flags) (mode : Mode) (l : Literal) : Except Fault Nat :=
  if f.unicode then .ok l.char.toNat
  else if l.byte then
    if l.char.toNat < 128 || !mode.utf8 then .ok l.char.toNat else fault l.span .invalidUtf8
  else if l.char.toNat < 128 then .ok l.char.toNat
  else fault l.span .unicodeNotAllowed

end Flags

mutual

def ClassItem.set (f : Flags) (mode : Mode) : ClassItem → Except Fault Ranges
  | .empty => .ok []
  | .literal l => do
    let c ← f.classChar mode l
    return [(c, c)]
  | .range _ a b => do return [(← f.classChar mode a, ← f.classChar mode b)]
  | .ascii span kind negated => f.finish mode span negated kind.ranges
  | .property span name negated => f.propertySet mode span name negated
  | .perl span kind negated => f.perlSet mode span kind negated
  | .bracketed span negated set => do f.finish mode span negated (← set.set f mode)
  | .union _ items => do return Ranges.ofList (← itemsSet f mode items)

def itemsSet (f : Flags) (mode : Mode) : List ClassItem → Except Fault Ranges
  | [] => .ok []
  | i :: r => do
    let a ← i.set f mode
    return a ++ (← itemsSet f mode r)

def ClassSet.set (f : Flags) (mode : Mode) : ClassSet → Except Fault Ranges
  | .item i => i.set f mode
  | .op _ kind l r => do
    let a := f.fold (← l.set f mode)
    let b := f.fold (← r.set f mode)
    return match kind with
      | .inter => Ranges.inter a b
      | .diff => Ranges.diff a b
      | .symmDiff => Ranges.symmDiff a b

end

/-! ## From the syntax -/

def Flags.dotSet (f : Flags) : Ranges :=
  let all := if f.unicode then Ranges.scalars else [(0, 0xFF)]
  if f.dotMatchesNewLine then all
  else if f.crlf then Ranges.diff all [(0x0A, 0x0A), (0x0D, 0x0D)]
  else Ranges.diff all [(0x0A, 0x0A)]

def Flags.look (f : Flags) : AssertionKind → Look
  | .startLine => if f.multiLine then if f.crlf then .lineStartCrlf else .lineStart else .textStart
  | .endLine => if f.multiLine then if f.crlf then .lineEndCrlf else .lineEnd else .textEnd
  | .startText => .textStart
  | .endText => .textEnd
  | .wordBoundary => .boundary .change f.unicode
  | .notWordBoundary => .boundary .noChange f.unicode
  | .wordStart => .boundary .start f.unicode
  | .wordEnd => .boundary .stop f.unicode
  | .wordStartHalf => .boundary .startHalf f.unicode
  | .wordEndHalf => .boundary .stopHalf f.unicode

def Flags.literal (f : Flags) (mode : Mode) (l : Literal) : Except Fault Expr :=
  let c := l.char.toNat
  if !f.unicode && l.byte && 128 ≤ c then
    if mode.utf8 then fault l.span .invalidUtf8 else .ok (.char [])
  else .ok (.char (f.fold [(c, c)]))

mutual

/-- The meaning of a part under the flags before it, and the flags after it. -/
def Ast.meaning (mode : Mode) (f : Flags) : Ast → Except Fault (Expr × Flags)
  | .empty _ => .ok (.empty, f)
  | .flags _ changes => .ok (.empty, f.change changes)
  | .literal l => do return (← f.literal mode l, f)
  | .dot span =>
    if !f.unicode && mode.utf8 then fault span .invalidUtf8 else .ok (.char f.dotSet, f)
  | .assertion _ kind => .ok (.look (f.look kind), f)
  | .property span name negated => do return (.char (← f.propertySet mode span name negated), f)
  | .perl span kind negated => do return (.char (← f.perlSet mode span kind negated), f)
  | .bracketed span negated set => do
    return (.char (← f.finish mode span negated (Ranges.ofList (← set.set f mode))), f)
  | .repetition _ least most greedy body => do
    let (e, f) ← body.meaning mode f
    return (.repetition least most (greedy != f.swapGreed) e, f)
  | .group _ changes captures body => do
    let (e, _) ← body.meaning mode (f.change changes)
    return (if captures then .capture e else e, f)
  | .alternation _ branches => do
    let (es, f) ← meanings mode f branches
    return (.alternatives es, f)
  | .concat _ parts => do
    let (es, f) ← meanings mode f parts
    return (.concat es, f)

def meanings (mode : Mode) (f : Flags) : List Ast → Except Fault (List Expr × Flags)
  | [] => .ok ([], f)
  | a :: r => do
    let (e, f) ← a.meaning mode f
    let (es, f) ← meanings mode f r
    return (e :: es, f)

end

end RuleLint.Regex
