/-!
# Similarity of texts

How alike two texts are by the characters that they share. Two equal characters match if their places
differ by less than half the longer length; each matches once. With `m` matches, of which `t` pairs
stand in another order, the similarity is the mean of `m / a`, `m / b` and `(m - t) / m`, where `a` and
`b` are the lengths.
-/

namespace RuleLint.Text

structure Fraction where
  num : Nat
  den : Nat
  deriving DecidableEq, Repr

namespace Fraction

def lt (x y : Fraction) : Bool := x.num * y.den < y.num * x.den

end Fraction

namespace Similarity

def findFree (c : Char) (used : List Nat) (from_ stop : Nat) (b : List Char) : Option Nat :=
  (List.range stop).find? fun j => from_ ≤ j && b[j]? == some c && !used.contains j

/-- The places in `b` that the characters of `a` from place `i` on match, in order of `a`; `used` are
those taken already. -/
def matchedPlaces (range : Nat) (b : List Char) (i : Nat) (used : List Nat) :
    List Char → List (Char × Nat)
  | [] => []
  | c :: r =>
    match findFree c used (i - range) (min b.length (i + range + 1)) b with
    | some j => (c, j) :: matchedPlaces range b (i + 1) (j :: used) r
    | none => matchedPlaces range b (i + 1) used r

end Similarity

open Similarity in
def similarity (s t : String) : Fraction :=
  let a := s.toList
  let b := t.toList
  if a.isEmpty && b.isEmpty then ⟨1, 1⟩
  else
    let found := matchedPlaces (max a.length b.length / 2 - 1) b 0 [] a
    let m := found.length
    let inOrder := (List.range b.length).filterMap fun j =>
      if found.any fun p => p.2 = j then b[j]? else none
    let swapped := ((found.map (·.1)).zip inOrder).countP (fun p => p.1 ≠ p.2) / 2
    if m = 0 then ⟨0, 1⟩
    else ⟨m * m * b.length + m * m * a.length + (m - swapped) * a.length * b.length,
      3 * m * a.length * b.length⟩

/-- What two texts are at least to be taken for one another. -/
def similarityFloor : Fraction := ⟨7, 10⟩

def insertCandidate (c : Fraction × String) : List (Fraction × String) → List (Fraction × String)
  | [] => [c]
  | d :: r => if c.1.lt d.1 then c :: d :: r else d :: insertCandidate c r

/-- The candidates that a text may have been meant for, the most similar last. -/
def similarTo (s : String) (candidates : List String) : List String :=
  let scored := (candidates.map fun c => (similarity s c, c)).filter fun p => similarityFloor.lt p.1
  (scored.foldl (fun l c => insertCandidate c l) []).map (·.2)

end RuleLint.Text
