import RuleLint.Syntax.Grammar

/-!
# Layout

What the layout of a text decides: where a statement ends although no semicolon is written, and how
far a line is indented.
-/

namespace RuleLint

/-- A text that can be entered at every place. -/
structure Source where
  suffixes : Array (List Char)

namespace Source

def tails : List Char → List (List Char)
  | [] => [[]]
  | c :: r => (c :: r) :: tails r

def ofText (cs : List Char) : Source := ⟨(tails cs).toArray⟩

def size (s : Source) : Nat := s.suffixes.size - 1

def from_ (s : Source) (i : Nat) : List Char := s.suffixes.getD i []

def before? (s : Source) (i : Nat) : Option Char :=
  if i = 0 then none else (s.from_ (i - 1)).head?

def slice (s : Source) (start stop : Nat) : List Char := (s.from_ start).take (stop - start)

end Source

namespace Layout

def isLineEnd (c : Char) : Bool := c = '\n' || c.toNat = 0x2028 || c.toNat = 0x2029

def isSpace (c : Char) : Bool :=
  c = ' ' || (9 ≤ c.toNat && c.toNat ≤ 13) || c.toNat = 0x2028 || c.toNat = 0x2029

/-! ## Implied semicolons -/

/-- What is left after a comment in `/*` and `*/`, and whether it spans lines. -/
def passBlockComment (spans : Bool) : List Char → Bool × List Char
  | [] => (spans, [])
  | '*' :: '/' :: r => (spans, r)
  | c :: r => passBlockComment (spans || isLineEnd c) r

/-- Passes blanks and comments. Unless `all` is set, passing ends behind a comment in `/*` and `*/`,
and the flag tells whether that spans lines. Nothing is given if a slash starts no comment. -/
def passComments (all : Bool) : Nat → List Char → Option (Bool × List Char)
  | 0, cs => some (true, cs)
  | n + 1, cs =>
    match cs.dropWhile isSpace with
    | '/' :: '/' :: r => passComments all n (r.dropWhile fun c => !isLineEnd c)
    | '/' :: '*' :: r =>
      let (spans, r) := passBlockComment false r
      if all || r.head? == some '/' then passComments all n r else some (spans, r)
    | '/' :: _ => none
    | r => some (true, r)

/-- Whether a text starts with the word `in` or `instanceof`. -/
def startsWithIn (cs : List Char) : Bool :=
  let word := cs.takeWhile Char.isAlpha
  word = "in".toList || word = "instanceof".toList

/-- Whether a statement that a line end follows ends there, by what the next line starts with. -/
def endsBefore (after : BeforeSemicolon) : List Char → Bool
  | '.' :: c :: _ => c.isDigit
  | '+' :: c :: _ => c = '+'
  | '-' :: c :: _ => c = '-'
  | '!' :: c :: _ => c ≠ '='
  | '\x7b' :: _ => after ≠ .signature
  | 'i' :: r => !startsWithIn ('i' :: r)
  | c :: _ =>
    if c = '(' ∨ c = '[' then after = .type || after = .signature
    else !("`,:;*%><=?^|&/.+-".toList.contains c)
  | [] => true

def impliesSemicolon (after : BeforeSemicolon) : Nat → List Char → Bool
  | 0, _ => false
  | _ + 1, [] => true
  | n + 1, '/' :: r =>
    match passComments false (r.length + 1) ('/' :: r) with
    | none => false
    | some (spans, rest) =>
      if spans && after = .word && rest.head? != some ',' && rest.head? != some '=' then true
      else match rest with
        | [] => false
        | '/' :: _ => false
        | rest => impliesSemicolon after n rest
  | n + 1, c :: r =>
    if c = '\x7d' then true
    else if isLineEnd c then
      match passComments true (r.length + 1) r with
      | none => false
      | some (_, rest) => endsBefore after rest
    else isSpace c && impliesSemicolon after n r

/-! ## Indentation -/

/-- How far blanks at the start of a line indent it, `width` having been reached. -/
def indentation (width : Nat) : List Char → Nat
  | ' ' :: r => indentation (width + 1) r
  | '\t' :: r => indentation (width + 8) r
  | '\r' :: r => indentation 0 r
  | _ => width

def lineStart (s : Source) : Nat → Nat
  | 0 => 0
  | i + 1 => if (s.from_ i).head? == some '\n' then i + 1 else lineStart s i

def indentationAt (s : Source) (i : Nat) : Nat := indentation 0 (s.from_ (lineStart s i))

def startsLine (s : Source) (i : Nat) : Bool := (s.slice (lineStart s i) i).all isSpace

end Layout

end RuleLint
