import RuleLint.Text.Lines

/-!
# What is wrong with a pattern

An error names its cause and the stretch of the pattern that it is about. It is shown with the
pattern, carets standing under that stretch.
-/

namespace RuleLint.Regex

/-- A place in a pattern: line and column from 1, counted in characters. -/
structure Place where
  line : Nat
  column : Nat
  deriving DecidableEq, Repr, Inhabited

structure Span where
  start : Place
  stop : Place
  deriving DecidableEq, Repr, Inhabited

inductive Cause where
  | classEscape
  | classRange
  | classRangeLiteral
  | classUnclosed
  | decimalEmpty
  | decimalInvalid
  | hexEmpty
  | hexInvalid
  | hexDigit
  | escapeUnfinished
  | escapeUnknown
  | flagDangling
  | flagDuplicate
  | flagNegationRepeated
  | flagUnfinished
  | flagUnknown
  | groupNameDuplicate
  | groupNameEmpty
  | groupNameInvalid
  | groupNameUnfinished
  | groupUnclosed
  | groupUnopened
  | nestLimit
  | countInvalid
  | countDecimalEmpty
  | countUnclosed
  | repetitionMissing
  | boundaryUnclosed
  | boundaryUnknown
  | boundaryUnfinished
  | propertyLetter
  | backreference
  | lookAround
  | unicodeNotAllowed
  | invalidUtf8
  | propertyNotFound
  | propertyValueNotFound
  deriving DecidableEq, Repr

def nestLimit : Nat := 250

def Cause.message : Cause → String
  | classEscape => "invalid escape sequence found in character class"
  | classRange => "invalid character class range, the start must be <= the end"
  | classRangeLiteral => "invalid range boundary, must be a literal"
  | classUnclosed => "unclosed character class"
  | decimalEmpty => "decimal literal empty"
  | decimalInvalid => "decimal literal invalid"
  | hexEmpty => "hexadecimal literal empty"
  | hexInvalid => "hexadecimal literal is not a Unicode scalar value"
  | hexDigit => "invalid hexadecimal digit"
  | escapeUnfinished => "incomplete escape sequence, reached end of pattern prematurely"
  | escapeUnknown => "unrecognized escape sequence"
  | flagDangling => "dangling flag negation operator"
  | flagDuplicate => "duplicate flag"
  | flagNegationRepeated => "flag negation operator repeated"
  | flagUnfinished => "expected flag but got end of regex"
  | flagUnknown => "unrecognized flag"
  | groupNameDuplicate => "duplicate capture group name"
  | groupNameEmpty => "empty capture group name"
  | groupNameInvalid => "invalid capture group character"
  | groupNameUnfinished => "unclosed capture group name"
  | groupUnclosed => "unclosed group"
  | groupUnopened => "unopened group"
  | nestLimit =>
    "exceed the maximum number of nested parentheses/brackets (" ++ toString Regex.nestLimit ++ ")"
  | countInvalid => "invalid repetition count range, the start must be <= the end"
  | countDecimalEmpty => "repetition quantifier expects a valid decimal"
  | countUnclosed => "unclosed counted repetition"
  | repetitionMissing => "repetition operator missing expression"
  | boundaryUnclosed =>
    "special word boundary assertion is either unclosed or contains an invalid character"
  | boundaryUnknown =>
    "unrecognized special word boundary assertion, valid choices are: start, end, start-half or " ++
      "end-half"
  | boundaryUnfinished =>
    "found either the beginning of a special word boundary or a bounded repetition on a \\b with " ++
      "an opening brace, but no closing brace"
  | propertyLetter => "invalid Unicode character class"
  | backreference => "backreferences are not supported"
  | lookAround => "look-around, including look-ahead and look-behind, is not supported"
  | unicodeNotAllowed => "Unicode not allowed here"
  | invalidUtf8 => "pattern can match invalid UTF-8"
  | propertyNotFound => "Unicode property not found"
  | propertyValueNotFound => "Unicode property value not found"

/-- A cause, the stretch it is about, and a second stretch that it refers to. -/
structure Fault where
  cause : Cause
  span : Span
  other : Option Span := none

def carets (at_ : Nat) : List Span → List Char
  | [] => []
  | s :: r =>
    let blanks := s.start.column - 1 - at_
    let width := max 1 (s.stop.column - s.start.column)
    List.replicate blanks ' ' ++ List.replicate width '^' ++ carets (at_ + blanks + width) r

def Fault.spans (f : Fault) : List Span :=
  match f.other with
  | none => [f.span]
  | some o =>
    if o.start.line < f.span.start.line ∨
        (o.start.line = f.span.start.line ∧ o.start.column ≤ f.span.start.column) then [o, f.span]
    else [f.span, o]

def Fault.notated (pattern : List Char) (f : Fault) : String :=
  let lines := Text.lines pattern
  let count := lines.length + (if pattern.getLast? = some '\n' then 1 else 0)
  let width := if count ≤ 1 then 0 else (toString count).length
  let single := f.spans.filter fun s => s.start.line = s.stop.line
  String.join <| lines.zipIdx.map fun (line, i) =>
    let number := toString (i + 1)
    let head :=
      if width = 0 then "    "
      else String.ofList (List.replicate (width - number.length) ' ') ++ number ++ ": "
    let padding := List.replicate (if width = 0 then 4 else width + 2) ' '
    let notes := match single.filter fun s => s.start.line = i + 1 with
      | [] => ""
      | spans => String.ofList (padding ++ carets 0 spans) ++ "\n"
    head ++ String.ofList line ++ "\n" ++ notes

def Fault.message (pattern : String) (f : Fault) : String :=
  let cs := pattern.toList
  let ending := "error: " ++ f.cause.message
  if cs.contains '\n' then
    let divider := String.ofList (List.replicate 79 '~') ++ "\n"
    let long := (f.spans.filter fun s => s.start.line ≠ s.stop.line).map fun s =>
      "on line " ++ toString s.start.line ++ " (column " ++ toString s.start.column ++
        ") through line " ++ toString s.stop.line ++ " (column " ++ toString (s.stop.column - 1) ++ ")"
    "regex parse error:\n" ++ divider ++ f.notated cs ++ divider ++
      (if long.isEmpty then "" else "\n".intercalate long ++ "\n") ++ ending
  else "regex parse error:\n" ++ f.notated cs ++ ending

inductive Error where
  | malformed (fault : Fault)
  | tooBig (limit : Nat)

def Error.message (pattern : String) : Error → String
  | malformed f => f.message pattern
  | tooBig limit => "Compiled regex exceeds size limit of " ++ toString limit ++ " bytes."

end RuleLint.Regex
