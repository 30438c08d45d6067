/-!
# The shortest decimal of a binary number

The decimal with the fewest digits among those that read back as a given double, and of these the
nearest to it. A double is taken apart into an integer times a power of two, and all comparisons are
made on natural numbers.
-/

namespace RuleLint.Decimal

/-- The value `digits · 10 ^ exponent`. -/
structure Scaled where
  digits : Nat
  exponent : Int
  deriving DecidableEq, Repr

structure Fraction where
  num : Nat
  den : Nat

namespace Fraction

/-- `n · 2 ^ q`. -/
def scaleTwo (n : Nat) (q : Int) : Fraction :=
  if 0 ≤ q then ⟨n * Nat.pow 2 q.toNat, 1⟩ else ⟨n, Nat.pow 2 (-q).toNat⟩

/-- `n · 10 ^ e`. -/
def scaleTen (n : Nat) (e : Int) : Fraction :=
  if 0 ≤ e then ⟨n * Nat.pow 10 e.toNat, 1⟩ else ⟨n, Nat.pow 10 (-e).toNat⟩

def lt (a b : Fraction) : Bool := a.num * b.den < b.num * a.den

def le (a b : Fraction) : Bool := a.num * b.den ≤ b.num * a.den

/-- The greatest `n` with `n · 10 ^ e ≤ a`. -/
def floorTen (a : Fraction) (e : Int) : Nat :=
  if 0 ≤ e then a.num / (a.den * Nat.pow 10 e.toNat) else a.num * Nat.pow 10 (-e).toNat / a.den

def gap (a b : Fraction) : Fraction :=
  ⟨max (a.num * b.den) (b.num * a.den) - min (a.num * b.den) (b.num * a.den), a.den * b.den⟩

end Fraction

/-- A positive double as `significand · 2 ^ exponent`. -/
structure Binary where
  significand : Nat
  exponent : Int

def Binary.ofBits (bits : UInt64) : Binary :=
  let n : Nat := bits.toNat % Nat.pow 2 63
  let e : Nat := n / Nat.pow 2 52
  let m : Nat := n % Nat.pow 2 52
  if e = 0 then ⟨m, -1074⟩ else ⟨m + Nat.pow 2 52, (e : Int) - 1075⟩

namespace Binary

def value (b : Binary) : Fraction := .scaleTwo b.significand b.exponent

/-- The least number that rounds to `b`; below a power of two the neighbour is closer. -/
def lower (b : Binary) : Fraction :=
  if b.significand = Nat.pow 2 52 ∧ b.exponent > -1074 then
    .scaleTwo (4 * b.significand - 1) (b.exponent - 2)
  else .scaleTwo (4 * b.significand - 2) (b.exponent - 2)

/-- The greatest number that rounds to `b`. -/
def upper (b : Binary) : Fraction := .scaleTwo (4 * b.significand + 2) (b.exponent - 2)

/-- Whether a number rounds to `b`: the ends of the interval do when the significand is even. -/
def admits (b : Binary) (x : Fraction) : Bool :=
  if b.significand % 2 = 0 then b.lower.le x && x.le b.upper else b.lower.lt x && x.lt b.upper

/-- The least `k` with `b < 10 ^ k`. -/
def magnitude (b : Binary) : Int :=
  match (List.range 640).find? fun (i : Nat) => b.value.lt (.scaleTen 1 ((i : Int) - 330)) with
  | some i => (i : Int) - 330
  | none => 0

/-- The decimal of `n` digits that reads back as `b`, the nearer where two do. -/
def withDigits? (b : Binary) (n : Nat) : Option Scaled :=
  let e := b.magnitude - n
  let d := b.value.floorTen e
  let low := Fraction.scaleTen d e
  let high := Fraction.scaleTen (d + 1) e
  match b.admits low, b.admits high with
  | true, true => if (b.value.gap high).lt (b.value.gap low) then some ⟨d + 1, e⟩ else some ⟨d, e⟩
  | true, false => some ⟨d, e⟩
  | false, true => some ⟨d + 1, e⟩
  | false, false => none

def shortest (b : Binary) : Scaled :=
  ((List.range 17).findSome? fun i => b.withDigits? (i + 1)).getD ⟨0, 0⟩

end Binary

def Scaled.trim : Nat → Scaled → Scaled
  | 0, d => d
  | n + 1, d => if d.digits ≠ 0 ∧ d.digits % 10 = 0 then trim n ⟨d.digits / 10, d.exponent + 1⟩ else d

end RuleLint.Decimal
