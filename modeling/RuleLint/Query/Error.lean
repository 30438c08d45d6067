import RuleLint.Text.Lines
import RuleLint.Text.Position
import RuleLint.Unicode.Category
import RuleLint.Unicode.Property

/-!
# What is wrong with a query

An error is shown with the line and the column, counted in bytes, of the place that it is about. Where
a name is unknown the name is shown, and otherwise the line with a mark below the place.
-/

namespace RuleLint.Query

inductive Cause where
  | malformed
  | impossible
  | unknownKind
  | unknownField
  | unknownCapture
  deriving DecidableEq, Repr

namespace Cause

def message : Cause → String
  | malformed => "Invalid syntax:\n"
  | impossible => "Impossible pattern:\n"
  | unknownKind => "Invalid node type "
  | unknownField => "Invalid field name "
  | unknownCapture => "Invalid capture name "

def concernsName : Cause → Bool
  | malformed => false
  | impossible => false
  | _ => true

end Cause

inductive QueryError where
  /-- What is wrong at a number of bytes into the text. -/
  | at_ (cause : Cause) (offset : Nat)
  /-- A condition of the pattern that starts on a line, counted from 0, is wrong. -/
  | condition (line : Nat) (message : String)
  deriving DecidableEq, Repr

/-! ## Places -/

/-- The line of a place with its number from 0 and the bytes before it, every line end counting as
one byte. Without a line the number and the bytes are those of the end. -/
def lineOf (offset : Nat) (number passed : Nat) :
    List (List Char) → Nat × Nat × Option (List Char)
  | [] => (number, passed, none)
  | l :: ls =>
    let next := passed + Text.byteSize l + 1
    if offset < next then (number, passed, some l) else lineOf offset (number + 1) next ls

/-! ## Names -/

def isNameChar (c : Char) : Bool :=
  c.isAlphanum || c = '_' || c = '-' ||
    (128 ≤ c.toNat &&
      (((Unicode.property? "alphabetic").getD []).contains c.toNat ||
        ["nd", "nl", "no"].any fun k => ((Unicode.oneCategory? k).getD []).contains c.toNat))

def quotedPart (escaped : Bool) : List Char → List Char
  | [] => []
  | c :: r =>
    if c = '"' ∧ !escaped then [] else c :: quotedPart (c = '\\' && !escaped) r

def nameAt (before : Option Char) (cs : List Char) : List Char :=
  if before = some '"' then quotedPart false cs else cs.takeWhile isNameChar

/-! ## Messages -/

namespace QueryError

def head (line column : Nat) : String :=
  "Query error at " ++ toString (line + 1) ++ ":" ++ toString (column + 1) ++ ". "

def message (text : String) : QueryError → String
  | condition line m => head line 0 ++ "Invalid predicate: " ++ m
  | at_ cause offset =>
    let cs := text.toList
    let (number, passed, line) := lineOf offset 0 0 (Text.lines cs)
    let column := offset - passed
    let (before, rest) := (Text.cutAt? cs offset).getD (cs, [])
    let about :=
      if cause.concernsName then String.ofList (nameAt before.getLast? rest)
      else match line with
        | none => "Unexpected EOF"
        | some l => String.ofList (l ++ '\n' :: List.replicate column ' ' ++ ['^'])
    head number column ++ cause.message ++ about

end QueryError

end RuleLint.Query
