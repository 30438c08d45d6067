/-!
# Columns of a table

A text is brought to a width by blanks after it; a longer text stays as it is.
-/

namespace RuleLint.Text

def padEnd (width : Nat) (s : String) : String :=
  s ++ String.ofList (List.replicate (width - s.length) ' ')

end RuleLint.Text
