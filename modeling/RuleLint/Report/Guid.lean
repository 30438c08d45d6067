import RuleLint.Digest.Sha256

/-!
# Identifiers of reports

A random identifier is sixteen bytes in base 16, in five groups. Six of its bits tell that it is
random; the others are.
-/

namespace RuleLint.Guid

def mark (bytes : List UInt8) (place : Nat) (kept kind : UInt8) : List UInt8 :=
  bytes.modify place fun b => (b &&& kept) ||| kind

def ofBytes (bytes : List UInt8) : String :=
  let marked := mark (mark bytes 6 0x0f 0x40) 8 0x3f 0x80
  let group (start size : Nat) : String := Sha256.hexText ((marked.drop start).take size)
  "-".intercalate [group 0 4, group 4 2, group 6 2, group 8 2, group 10 6]

end RuleLint.Guid
