import RuleLint.Regex.Expr
import Std.Data.HashMap

/-!
# Size limits

A pattern is refused when a machine that matches it byte by byte, read forwards or backwards, would
take up more memory than the limit. The size is computed from the parts of the pattern; no machine
is built. A state takes 32 bytes, an alternative 4 and a transition 8.
-/

namespace RuleLint.Regex

open Unicode (Ranges)

/-! ## Sets of characters as sequences of byte ranges -/

def digits64 (count n : Nat) : List Nat :=
  (List.range count).map fun i => n / Nat.pow 64 (count - 1 - i) % 64

/-- Splits the strings of `n` digits from `lo` to `hi` into products of digit ranges. -/
def digitRanges : Nat → List Nat → List Nat → List (List (Nat × Nat))
  | n + 1, a :: lo, b :: hi =>
    if a = b then (digitRanges n lo hi).map ((a, a) :: ·)
    else
      let below := if lo.all (· = 0) then [] else
        (digitRanges n lo (List.replicate n 63)).map ((a, a) :: ·)
      let above := if hi.all (· = 63) then [] else
        (digitRanges n (List.replicate n 0) hi).map ((b, b) :: ·)
      let first := if lo.all (· = 0) then a else a + 1
      let last := if hi.all (· = 63) then b else b - 1
      let between := if first ≤ last then [(first, last) :: List.replicate n (0, 63)] else []
      below ++ between ++ above
  | _, _, _ => [[]]

/-- The first and last code point written in a number of bytes, with the number that its first byte
adds to the leading bits. -/
def encodedLengths : List (Nat × Nat × Nat × Nat) :=
  [(1, 0, 0x7F, 0), (2, 0x80, 0x7FF, 0xC0), (3, 0x800, 0xFFFF, 0xE0), (4, 0x10000, 0x10FFFF, 0xF0)]

def byteSequences (p : Nat × Nat) : List (List (Nat × Nat)) :=
  encodedLengths.flatMap fun (count, lo, hi, mark) =>
    let a := max lo p.1
    let b := min hi p.2
    if a ≤ b then
      if count = 1 then [[(a, b)]]
      else (digitRanges count (digits64 count a) (digits64 count b)).map fun
        | [] => []
        | r :: rest => (r.1 + mark, r.2 + mark) :: rest.map fun q => (q.1 + 0x80, q.2 + 0x80)
    else []

def beginnings (seqs : List (List (Nat × Nat))) : Nat :=
  (seqs.foldl (fun (seen : Std.HashMap (List (Nat × Nat)) Unit) s =>
    (List.range s.length).foldl (fun seen i => seen.insert (s.take (i + 1)) ()) seen) ∅).size

/-- Sequences of at most `n` ranges, grouped by their first range; the nodes of the machine that
reads them are numbered, equal ones once. Gives the number of a node and the nodes seen. -/
def shareNodes (n : Nat) (seqs : List (List (Nat × Nat)))
    (seen : Std.HashMap (List ((Nat × Nat) × Nat)) Nat) :
    Nat × Std.HashMap (List ((Nat × Nat) × Nat)) Nat :=
  match n with
  | 0 => (0, seen)
  | n + 1 =>
    if seqs.all List.isEmpty then (0, seen)
    else
      let groups := seqs.splitBy fun s t => s.head? = t.head?
      let (edges, seen) := groups.foldl (fun (edges, seen) g =>
        let (node, seen) := shareNodes n (g.map (·.drop 1)) seen
        (((g.head?.bind List.head?).getD (0, 0), node) :: edges, seen)) (([] : List ((Nat × Nat) × Nat)), seen)
      match seen[edges]? with
      | some node => (node, seen)
      | none => (seen.size + 1, seen.insert edges (seen.size + 1))

/-! ## Sizes -/

def stateSize : Nat := 32

/-- The memory for a machine that reads forwards and for one that reads backwards. -/
structure Size where
  forwards : Nat
  backwards : Nat

namespace Size

def states (n : Nat) : Size := ⟨stateSize * n, stateSize * n⟩

def add (a b : Size) : Size := ⟨a.forwards + b.forwards, a.backwards + b.backwards⟩

def times (n : Nat) (a : Size) : Size := ⟨n * a.forwards, n * a.backwards⟩

def choice (n : Nat) : Size := ⟨stateSize + 4 * n, stateSize + 4 * n⟩

def ofSet (set : Ranges) : Size :=
  match set with
  | [] => states 1
  | [(a, b)] =>
    if a = b then states (Char.ofNat a).utf8Size else ofRanges set
  | set => ofRanges set
where
  ofRanges (set : Ranges) : Size :=
    if isAscii set then add (states 2) ⟨8 * set.length, 8 * set.length⟩
    else
      let seqs := set.flatMap byteSequences
      let nodes := (shareNodes 5 seqs ∅).2
      let edges := nodes.toList.foldl (fun n e => n + e.1.length) 0
      ⟨stateSize * (nodes.size + 1) + 8 * edges,
        stateSize * (beginnings seqs + 2) + 4 * seqs.length⟩

end Size

mutual

def Expr.size : Expr → Size
  | .empty => .states 1
  | .char set => .ofSet set
  | .look _ => .states 1
  | .capture body => .add ⟨2 * stateSize, 0⟩ body.size
  | .repeated least most _ body =>
    let one := body.size
    match most with
    | none => .add (.times (max 1 least) one) (.add (.choice 2) (.states 1))
    | some most =>
      .add (.times most one) (.add (.times (most - least) (.choice 2)) (.states 1))
  | .concat parts => sizeOfParts parts
  | .alternatives branches => .add (.add (.choice branches.length) (.states 1)) (sizeOfParts branches)

def sizeOfParts : List Expr → Size
  | [] => .states 0
  | e :: r => .add e.size (sizeOfParts r)

end

def sizeLimit : Nat := 10485760

def Expr.tooBig (e : Expr) : Bool :=
  sizeLimit < e.size.forwards || sizeLimit < e.size.backwards

end RuleLint.Regex
