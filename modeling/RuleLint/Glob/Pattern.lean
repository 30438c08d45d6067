/-!
# Glob patterns

A pattern matches a path as a whole. `?`, `*` and classes stay within one component of the path;
`**` is a component by itself and stands for any number of components.
-/

namespace RuleLint.Glob

abbrev CharRange := Char × Char

inductive Token where
  | char (c : Char)
  | anyChar
  | anySequence
  | anyComponents
  | within (ranges : List CharRange)
  | except (ranges : List CharRange)
  deriving DecidableEq, Repr

def Token.char? : Token → Option Char
  | char c => some c
  | _ => none

structure Pattern where
  tokens : List Token
  isRecursive : Bool
  deriving Repr

namespace Pattern

/-! ## Reading -/

/-- The members of a class: `a-z` is a range. -/
def ranges : List Char → List CharRange
  | a :: '-' :: b :: r => (a, b) :: ranges r
  | a :: r => (a, a) :: ranges r
  | [] => []

def readClass? : List Char → Option (Token × List Char)
  | '!' :: x :: r =>
    match r.dropWhile (· ≠ ']') with
    | _ :: rest => some (.except (ranges (x :: r.takeWhile (· ≠ ']'))), rest)
    | [] => none
  | '!' :: [] => none
  | x :: r =>
    match r.dropWhile (· ≠ ']') with
    | _ :: rest => some (.within (ranges (x :: r.takeWhile (· ≠ ']'))), rest)
    | [] => none
  | [] => none

/-- Adds `**`, which is not repeated after the first token. -/
def addComponents (done : List Token) : List Token :=
  match done with
  | .anyComponents :: _ :: _ => done
  | _ => .anyComponents :: done

/-- The tokens of a pattern; `done` holds those before, latest first, and `before` the character
before. -/
def readTokens : Nat → List Token → Option Char → List Char → Option (List Token)
  | 0, done, _, _ => some done.reverse
  | _ + 1, done, _, [] => some done.reverse
  | n + 1, done, before, c :: r =>
    match c with
    | '?' => readTokens n (.anyChar :: done) (some c) r
    | '[' =>
      match readClass? r with
      | some (t, rest) => readTokens n (t :: done) (some ']') rest
      | none => none
    | '*' =>
      match r with
      | '*' :: '*' :: _ => none
      | '*' :: rest =>
        if before.all (· = '/') then
          match rest with
          | [] => some (addComponents done).reverse
          | '/' :: rest => readTokens n (addComponents done) (some '/') rest
          | _ => none
        else none
      | r => readTokens n (.anySequence :: done) (some c) r
    | c => readTokens n (.char c :: done) (some c) r

def ofText? (s : String) : Option Pattern :=
  let cs := s.toList
  (readTokens (cs.length + 1) [] none cs).map fun tokens =>
    ⟨tokens, tokens.contains .anyComponents⟩

def escape (s : String) : String :=
  String.ofList <| s.toList.flatMap fun c =>
    if c = '?' ∨ c = '*' ∨ c = '[' ∨ c = ']' then ['[', c, ']'] else [c]

/-! ## Matching -/

def inRanges (ranges : List CharRange) (c : Char) : Bool := ranges.any fun r => r.1 ≤ c && c ≤ r.2

def accepts (c : Char) : Token → Bool
  | .char d => c = d
  | .anyChar => c ≠ '/'
  | .within ranges => c ≠ '/' && inRanges ranges c
  | .except ranges => c ≠ '/' && !inRanges ranges c
  | .anySequence | .anyComponents => false

/-- What is left of a text when characters other than separators are taken from its start. -/
def withinComponent : List Char → List (List Char)
  | [] => [[]]
  | c :: r => (c :: r) :: (if c = '/' then [] else withinComponent r)

/-- What is left of a text when whole components are taken from its start, or all of it. -/
def afterComponents : List Char → List (List Char)
  | [] => [[]]
  | c :: r => if c = '/' then r :: afterComponents r else afterComponents r

def matchesTokens : List Token → List Char → Bool
  | [], cs => cs.isEmpty
  | .anySequence :: ts, cs => (withinComponent cs).any fun r => matchesTokens ts r
  | .anyComponents :: ts, cs => (cs :: afterComponents cs).any fun r => matchesTokens ts r
  | t :: ts, c :: r => accepts c t && matchesTokens ts r
  | _ :: _, [] => false

def matchesText (p : Pattern) (s : List Char) : Bool := matchesTokens p.tokens s

/-- The text that a pattern without special characters matches. -/
def literal? (p : Pattern) : Option String :=
  (p.tokens.mapM Token.char?).map String.ofList

end Pattern

end RuleLint.Glob
