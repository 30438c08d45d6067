/-!
# Comparing with an ASCII word, whatever the case

Names of severities, file extensions and formats are compared with words of ASCII letters after a
change of case. Only the letters whose other case holds ASCII letters can make such a comparison
succeed, so those few outside ASCII are listed and every other letter outside ASCII is left as it
is.
-/

namespace RuleLint.Text

/-- The capital form of a character, where that form is written in ASCII. -/
def asciiCapitals (c : Char) : List Char :=
  if 'a' ≤ c ∧ c ≤ 'z' then [Char.ofNat (c.toNat - 32)]
  else match c with
    | 'ß' => ['S', 'S']
    | 'ı' => ['I']
    | 'ſ' => ['S']
    | 'ﬀ' => ['F', 'F']
    | 'ﬁ' => ['F', 'I']
    | 'ﬂ' => ['F', 'L']
    | 'ﬃ' => ['F', 'F', 'I']
    | 'ﬄ' => ['F', 'F', 'L']
    | 'ﬅ' => ['S', 'T']
    | 'ﬆ' => ['S', 'T']
    | c => [c]

def asciiSmall (c : Char) : Char :=
  if 'A' ≤ c ∧ c ≤ 'Z' then Char.ofNat (c.toNat + 32)
  else if c = Char.ofNat 0x212A then 'k'
  else c

def capitals (s : String) : String := String.ofList (s.toList.flatMap asciiCapitals)

def small (s : String) : String := String.ofList (s.toList.map asciiSmall)

end RuleLint.Text
