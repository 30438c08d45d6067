import RuleLint.Regex.Error

/-!
# Patterns as written

The parts of a pattern with the stretches they take up. What a part means depends on the flags in
force where it stands; that is settled when the pattern is given its meaning.
-/

namespace RuleLint.Regex

inductive Flag where
  | caseInsensitive
  | multiLine
  | dotMatchesNewLine
  | swapGreed
  | unicode
  | crlf
  | freeSpacing
  deriving DecidableEq, Repr

abbrev FlagChanges := List (Flag × Bool)

inductive AssertionKind where
  | startLine
  | endLine
  | startText
  | endText
  | wordBoundary
  | notWordBoundary
  | wordStart
  | wordEnd
  | wordStartHalf
  | wordEndHalf
  deriving DecidableEq, Repr

inductive PerlKind where
  | digit
  | space
  | word
  deriving DecidableEq, Repr

inductive AsciiKind where
  | alnum
  | alpha
  | ascii
  | blank
  | cntrl
  | digit
  | graph
  | lower
  | print
  | punct
  | space
  | upper
  | word
  | xdigit
  deriving DecidableEq, Repr

inductive PropertyName where
  | single (name : String)
  | pair (name value : String)

/-- A character; `byte` marks one written as two hexadecimal digits. -/
structure Literal where
  span : Span
  char : Char
  byte : Bool

inductive ClassOp where
  | inter
  | diff
  | symmDiff
  deriving DecidableEq, Repr

mutual

inductive ClassItem where
  | empty
  | literal (l : Literal)
  | range (span : Span) (first last : Literal)
  | ascii (span : Span) (kind : AsciiKind) (negated : Bool)
  | property (span : Span) (name : PropertyName) (negated : Bool)
  | perl (span : Span) (kind : PerlKind) (negated : Bool)
  | bracketed (span : Span) (negated : Bool) (set : ClassSet)
  | union (span : Span) (items : List ClassItem)

inductive ClassSet where
  | item (i : ClassItem)
  | op (span : Span) (kind : ClassOp) (left right : ClassSet)

end

inductive Ast where
  | empty (span : Span)
  | flags (span : Span) (changes : FlagChanges)
  | literal (l : Literal)
  | dot (span : Span)
  | assertion (span : Span) (kind : AssertionKind)
  | property (span : Span) (name : PropertyName) (negated : Bool)
  | perl (span : Span) (kind : PerlKind) (negated : Bool)
  | bracketed (span : Span) (negated : Bool) (set : ClassSet)
  | repetition (span : Span) (least : Nat) (most : Option Nat) (greedy : Bool) (body : Ast)
  | group (span : Span) (changes : FlagChanges) (captures : Bool) (body : Ast)
  | alternation (span : Span) (branches : List Ast)
  | concat (span : Span) (parts : List Ast)
  deriving Inhabited

def Ast.span : Ast → Span
  | empty s | flags s _ | dot s | assertion s _ | property s _ _ | perl s _ _ | bracketed s _ _
  | repetition s _ _ _ _ | group s _ _ _ | alternation s _ | concat s _ => s
  | literal l => l.span

/-! ## Nesting -/

mutual

/-- The first part that lies deeper than the limit, `depth` being the depth around it. -/
def ClassItem.tooDeep? (depth : Nat) : ClassItem → Option Span
  | .bracketed span _ set => if depth < nestLimit then set.tooDeep? (depth + 1) else some span
  | .union span items => if depth < nestLimit then itemsTooDeep? (depth + 1) items else some span
  | _ => none

def itemsTooDeep? (depth : Nat) : List ClassItem → Option Span
  | [] => none
  | i :: r => (i.tooDeep? depth).or (itemsTooDeep? depth r)

def ClassSet.tooDeep? (depth : Nat) : ClassSet → Option Span
  | .item i => i.tooDeep? depth
  | .op span _ l r =>
    if depth < nestLimit then (l.tooDeep? (depth + 1)).or (r.tooDeep? (depth + 1)) else some span

end

mutual

def Ast.tooDeep? (depth : Nat) : Ast → Option Span
  | .bracketed span _ set => if depth < nestLimit then set.tooDeep? (depth + 1) else some span
  | .repetition span _ _ _ body => if depth < nestLimit then body.tooDeep? (depth + 1) else some span
  | .group span _ _ body => if depth < nestLimit then body.tooDeep? (depth + 1) else some span
  | .alternation span branches =>
    if depth < nestLimit then partsTooDeep? (depth + 1) branches else some span
  | .concat span parts => if depth < nestLimit then partsTooDeep? (depth + 1) parts else some span
  | _ => none

def partsTooDeep? (depth : Nat) : List Ast → Option Span
  | [] => none
  | a :: r => (a.tooDeep? depth).or (partsTooDeep? depth r)

end

end RuleLint.Regex
