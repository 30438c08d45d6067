/-!
# Positions in a text

A text is addressed by byte offsets of its UTF-8 form and shown by lines and columns, both counted
from 1, columns in characters. `LineIndex` keeps the offsets at which lines start and finds a
position by searching them.
-/

namespace RuleLint.Text

def byteSize : List Char → Nat
  | [] => 0
  | c :: r => c.utf8Size + byteSize r

/-- The characters before a byte offset and those from it on, if the offset is between two
characters. -/
def cutAt? : List Char → Nat → Option (List Char × List Char)
  | cs, 0 => some ([], cs)
  | [], _ + 1 => none
  | c :: cs, n + 1 =>
    if c.utf8Size ≤ n + 1 then
      (cutAt? cs (n + 1 - c.utf8Size)).map fun p => (c :: p.1, p.2)
    else none

def slice? (cs : List Char) (start stop : Nat) : Option (List Char) :=
  if start ≤ stop then
    (cutAt? cs start).bind fun p => (cutAt? p.2 (stop - start)).map (·.1)
  else none

/-- A line and a column, both from 1. -/
structure Position where
  line : Nat
  column : Nat
  deriving DecidableEq, Repr

def lineStartsFrom (offset : Nat) : List Char → List Nat
  | [] => []
  | c :: cs =>
    let next := offset + c.utf8Size
    if c = '\n' then next :: lineStartsFrom next cs else lineStartsFrom next cs

structure LineIndex where
  source : List Char
  starts : List Nat

def lastLine (cs : List Char) : List Char := (cs.reverse.takeWhile (· ≠ '\n')).reverse

inductive Searched where
  | found (place : Nat)
  /-- The number is not there and would have to be put in at a place. -/
  | missing (place : Nat)

def search (starts : List Nat) (offset : Nat) : Searched :=
  let place := (starts.takeWhile (· < offset)).length
  if starts[place]? = some offset then .found place else .missing place

namespace LineIndex

def ofText (source : List Char) : LineIndex := ⟨source, 0 :: lineStartsFrom 0 source⟩

/-- The line that an offset is in, from 0; there is none before the first line. -/
def line? (index : LineIndex) (offset : Nat) : Option Nat :=
  match search index.starts offset with
  | .found place => some place
  | .missing (next + 1) => some next
  | .missing 0 => none

/-- The position of a byte offset, if the offset is between two characters. -/
def position? (index : LineIndex) (offset : Nat) : Option Position := do
  let line ← index.line? offset
  let start ← index.starts[line]?
  let before ← slice? index.source start offset
  return ⟨line + 1, before.length + 1⟩

end LineIndex

end RuleLint.Text
