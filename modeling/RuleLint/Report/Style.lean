import RuleLint.Severity

/-!
# Styled text

A report for people is a list of spans, each with a style. Without colours a span is its text; with
colours the escape sequences that set and reset its style stand around it.
-/

namespace RuleLint

inductive Style where
  | plain
  | strong
  | faint
  | mark (level : Level)
  deriving DecidableEq, Repr

structure Span where
  style : Style
  text : String
  deriving DecidableEq, Repr

def escapeSequence (code : String) : String := "\x1b[" ++ code ++ "m"

namespace Style

/-- The codes that set a style and those that reset it, in order. -/
def codes : Style → List String × List String
  | plain => ([], [])
  | strong => (["1"], ["0"])
  | faint => (["2"], ["0"])
  | mark .error => (["1", "31"], ["39", "0"])
  | mark .warning => (["1", "33"], ["39", "0"])
  | mark .note => (["34"], ["39"])

end Style

def Span.render (color : Bool) (s : Span) : String :=
  if color then
    let (opening, closing) := s.style.codes
    String.join (opening.map escapeSequence) ++ s.text ++ String.join (closing.map escapeSequence)
  else s.text

def renderSpans (color : Bool) (spans : List Span) : String :=
  String.join (spans.map (Span.render color))

end RuleLint
