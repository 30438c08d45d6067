import RuleLint.Json.Basic

/-!
# Numbers in JSON texts

A double is written with its shortest digits, by position when its point is near them and with an
exponent otherwise.
-/

namespace RuleLint.Number

/-- Where positional notation is used: for points from `-least` places before the first digit to
`most` places after it. -/
structure Notation where
  least : Nat
  most : Nat

/-- Reports write `0.00001` and `1000000000000000.0` by position. -/
def positional : Notation := ⟨4, 16⟩

def zeros (n : Nat) : String := String.ofList (List.replicate n '0')

/-- An exponent with its sign and at least two digits. -/
def exponentText (e : Int) : String :=
  let n := e.natAbs
  (if e < 0 then "-" else "+") ++ (if n < 10 then "0" else "") ++ toString n

def decimalText (style : Notation) (d : Decimal.Scaled) : String :=
  let ds := toString d.digits
  let point := (ds.length : Int) + d.exponent
  if 0 ≤ d.exponent ∧ point ≤ style.most then ds ++ zeros d.exponent.toNat ++ ".0"
  else if 0 < point ∧ point ≤ style.most then
    let k := point.toNat
    String.ofList (ds.toList.take k) ++ "." ++ String.ofList (ds.toList.drop k)
  else if -(style.least : Int) ≤ point ∧ point ≤ 0 then "0." ++ zeros (-point).toNat ++ ds
  else
    match ds.toList with
    | [c] => String.ofList [c] ++ "e" ++ exponentText (point - 1)
    | c :: r => String.ofList [c] ++ "." ++ String.ofList r ++ "e" ++ exponentText (point - 1)
    | [] => ""

def realText (style : Notation) (bits : UInt64) : String :=
  let b := Decimal.Binary.ofBits bits
  (if bits.toNat < Nat.pow 2 63 then "" else "-") ++
    if b.significand = 0 then "0.0" else decimalText style (b.shortest.trim 20)

def text : Number → String
  | natural n => toString n
  | negative n => "-" ++ toString n
  | real bits => realText positional bits

end RuleLint.Number
