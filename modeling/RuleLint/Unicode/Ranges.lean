/-!
# Sets of code points

A set of code points is written as closed ranges in increasing order, no two of
which overlap or touch. The tables of the Unicode character database in this
folder are texts in one format, read by `Ranges.lookup?`.
-/

namespace RuleLint.Unicode

/-- Closed ranges of code points, increasing and apart. -/
abbrev Ranges := List (Nat × Nat)

namespace Ranges

def last : Nat := 0x10FFFF

def contains (r : Ranges) (c : Nat) : Bool :=
  r.any fun p => p.1 ≤ c && c ≤ p.2

/-- Joins ranges that overlap or touch, in a list sorted by lower ends. -/
def merge : List (Nat × Nat) → Ranges
  | [] => []
  | [p] => [p]
  | (a, b) :: (c, d) :: r =>
    if c ≤ b + 1 then merge ((a, max b d) :: r) else (a, b) :: merge ((c, d) :: r)
termination_by r => r.length

/-- The set that any list of ranges covers, its empty ranges ignored. -/
def ofList (r : List (Nat × Nat)) : Ranges :=
  merge ((r.filter fun p => p.1 ≤ p.2).mergeSort fun p q => p.1 ≤ q.1)

def union (r s : Ranges) : Ranges := ofList (r ++ s)

/-- What lies in `lo .. hi` and in none of the ranges. -/
def gaps (hi : Nat) : Nat → Ranges → Ranges
  | lo, [] => if lo ≤ hi then [(lo, hi)] else []
  | lo, (a, b) :: r => if lo < a then (lo, a - 1) :: gaps hi (b + 1) r else gaps hi (b + 1) r

def scalars : Ranges := [(0, 0xD7FF), (0xE000, last)]

def complementTo (hi : Nat) (r : Ranges) : Ranges := gaps hi 0 r

def inter (r s : Ranges) : Ranges :=
  complementTo last (union (complementTo last r) (complementTo last s))

def complement (r : Ranges) : Ranges := inter scalars (complementTo last r)

def diff (r s : Ranges) : Ranges := inter r (complementTo last s)

def symmDiff (r s : Ranges) : Ranges := diff (union r s) (inter r s)

/-! ## Tables as text -/

/-- The value of a hexadecimal digit, 0 for any other character. -/
def hexValue (c : Char) : Nat :=
  if '0' ≤ c ∧ c ≤ '9' then c.toNat - 48
  else if 'A' ≤ c ∧ c ≤ 'F' then c.toNat - 55
  else if 'a' ≤ c ∧ c ≤ 'f' then c.toNat - 87
  else 0

def hexNumber (cs : List Char) : Nat := cs.foldl (fun n c => 16 * n + hexValue c) 0

def words (cs : List Char) : List (List Char) :=
  (cs.splitBy fun a b => !a.isWhitespace && !b.isWhitespace).filter fun w => !w.all Char.isWhitespace

/-- Reads `41` as one code point and `41-5A` as a range. -/
def readRange (w : List Char) : Nat × Nat :=
  let lo := w.takeWhile (· != '-')
  match w.dropWhile (· != '-') with
  | [] => (hexNumber lo, hexNumber lo)
  | _ :: hi => (hexNumber lo, hexNumber hi)

/-- A table is a list of entries `name alias: range range …;`. This finds the entry with the given
name, which is written in lower case without separators. -/
def lookup? (table : String) (name : String) : Option Ranges :=
  (table.splitOn ";").findSome? fun entry =>
    match entry.splitOn ":" with
    | [names, ranges] =>
      if (words names.toList).contains name.toList then
        some ((words ranges.toList).map readRange)
      else none
    | _ => none

end Ranges

end RuleLint.Unicode
