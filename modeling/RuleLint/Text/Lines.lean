/-!
# Lines

The lines of a text without their ends, which are `\n` or `\r\n`. A line end at the very end of a text
starts no line.
-/

namespace RuleLint.Text

def lines : List Char → List (List Char)
  | [] => []
  | '\n' :: r => [] :: lines r
  | '\r' :: '\n' :: r => [] :: lines r
  | c :: r =>
    match lines r with
    | [] => [[c]]
    | l :: ls => (c :: l) :: ls

end RuleLint.Text
