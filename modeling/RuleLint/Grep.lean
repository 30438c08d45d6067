import RuleLint.Finding
import RuleLint.Regex.Basic
import RuleLint.Text.Position

/-!
# Matches of a pattern

Every match of a pattern in a text, from left to right, with the position where it starts.
-/

namespace RuleLint

def Match.ofFound (index : Text.LineIndex) (found : Regex.Program.Found) : Option Match :=
  (index.position? (Text.byteSize (index.source.take found.start))).map fun p =>
    ⟨p.line, p.column, String.ofList found.chars⟩

def Regex.matchesIn (pattern : Regex) (source : String) : List Match :=
  let index := Text.LineIndex.ofText source.toList
  (pattern.findAll source.toList).filterMap (Match.ofFound index)

end RuleLint
