import RuleLint.Unicode.Category
import RuleLint.Unicode.Property

/-!
# Quoted text in messages

A message that shows a string puts it in quotes and escapes what would not be seen: the quote, the
backslash, control and format characters, separators other than the blank, unassigned code points
and marks that extend the character before them.
-/

namespace RuleLint.Text

/-- The categories whose members cannot be seen. -/
def unseenCategories : List String := ["cc", "cf", "co", "zl", "zp", "zs", "cn"]

def isVisible (c : Char) : Bool :=
  let n := c.toNat
  if n < 0x7f then 0x20 ≤ n
  else !(unseenCategories.any fun k => ((Unicode.oneCategory? k).getD []).contains n) &&
    !((Unicode.property? "graphemeextend").getD []).contains n

def hexText (n : Nat) : List Char := Nat.toDigits 16 n

def shown (c : Char) : List Char :=
  match c with
  | '\t' => ['\\', 't']
  | '\r' => ['\\', 'r']
  | '\n' => ['\\', 'n']
  | '"' => ['\\', '"']
  | '\\' => ['\\', '\\']
  | c =>
    if c.toNat = 0 then ['\\', '0']
    else if isVisible c then [c]
    else ['\\', 'u', '\x7b'] ++ hexText c.toNat ++ ['\x7d']

def quoted (s : String) : String := String.ofList ('"' :: s.toList.flatMap shown ++ ['"'])

end RuleLint.Text
