import RuleLint.Json.Number

/-!
# Writing JSON

A value is written compactly, or with one item to a line and two blanks for each level. Strings
escape the quote, the backslash and the control characters.
-/

namespace RuleLint.Json

def hexChar (n : Nat) : Char := if n < 10 then Char.ofNat (48 + n) else Char.ofNat (87 + n)

def escape (c : Char) : List Char :=
  match c with
  | '"' => ['\\', '"']
  | '\\' => ['\\', '\\']
  | '\n' => ['\\', 'n']
  | '\r' => ['\\', 'r']
  | '\t' => ['\\', 't']
  | c =>
    if c.toNat = 8 then ['\\', 'b']
    else if c.toNat = 12 then ['\\', 'f']
    else if c.toNat < 32 then
      ['\\', 'u', '0', '0', hexChar (c.toNat / 16), hexChar (c.toNat % 16)]
    else [c]

def quoted (s : String) : List Char := '"' :: s.toList.flatMap escape ++ ['"']

def scalarText : Json → List Char
  | null => "null".toList
  | bool true => "true".toList
  | bool false => "false".toList
  | num n => n.text.toList
  | str s => quoted s
  | arr _ => ['[', ']']
  | obj _ => ['\x7b', '\x7d']

mutual

def compactChars : Json → List Char
  | arr items => '[' :: compactItems items
  | obj members => '\x7b' :: compactMembers members
  | v => scalarText v

def compactItems : List Json → List Char
  | [] => [']']
  | [v] => compactChars v ++ [']']
  | v :: w :: r => compactChars v ++ ',' :: compactItems (w :: r)

def compactMembers : List (String × Json) → List Char
  | [] => ['\x7d']
  | [(k, v)] => quoted k ++ ':' :: compactChars v ++ ['\x7d']
  | (k, v) :: m :: r => quoted k ++ ':' :: compactChars v ++ ',' :: compactMembers (m :: r)

end

def newline (level : Nat) : List Char := '\n' :: List.replicate (2 * level) ' '

mutual

def prettyChars (level : Nat) : Json → List Char
  | arr [] => ['[', ']']
  | arr (v :: r) =>
    '[' :: newline (level + 1) ++ prettyChars (level + 1) v ++ prettyItems level r
  | obj [] => ['\x7b', '\x7d']
  | obj ((k, v) :: r) =>
    '\x7b' :: newline (level + 1) ++ quoted k ++ ':' :: ' ' :: prettyChars (level + 1) v ++
      prettyMembers level r
  | v => scalarText v

def prettyItems (level : Nat) : List Json → List Char
  | [] => newline level ++ [']']
  | v :: r => ',' :: newline (level + 1) ++ prettyChars (level + 1) v ++ prettyItems level r

def prettyMembers (level : Nat) : List (String × Json) → List Char
  | [] => newline level ++ ['\x7d']
  | (k, v) :: r =>
    ',' :: newline (level + 1) ++ quoted k ++ ':' :: ' ' :: prettyChars (level + 1) v ++
      prettyMembers level r

end

def compact (v : Json) : String := String.ofList (compactChars v)

def pretty (v : Json) : String := String.ofList (prettyChars 0 v)

end RuleLint.Json
