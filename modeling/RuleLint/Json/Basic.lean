import RuleLint.Decimal.Shortest

/-!
# JSON values

The values that JSON texts denote. The members of an object are in increasing order of their keys
and each key occurs once; `Members.set` keeps that order.
-/

namespace RuleLint

/-- A number: an integer that fits 64 bits, with or without a minus sign, or a double by its bits.
The magnitude of a negative integer is positive. -/
inductive Number where
  | natural (n : Nat)
  | negative (n : Nat)
  | real (bits : UInt64)
  deriving DecidableEq, Repr

inductive Json where
  | null
  | bool (b : Bool)
  | num (n : Number)
  | str (s : String)
  | arr (items : List Json)
  | obj (members : List (String × Json))
  deriving Repr, Inhabited

namespace Json

/-- Sets a member of an object, a later value replacing an earlier one. -/
def setMember (key : String) (value : Json) : List (String × Json) → List (String × Json)
  | [] => [(key, value)]
  | (k, v) :: r =>
    if key = k then (key, value) :: r
    else if key < k then (key, value) :: (k, v) :: r
    else (k, v) :: setMember key value r

/-- The members of an object in order of keys, the last of each key. -/
def sortMembers (members : List (String × Json)) : List (String × Json) :=
  members.foldl (fun acc m => setMember m.1 m.2 acc) []

def ofMembers (members : List (String × Json)) : Json := obj (sortMembers members)

mutual

def sorted : Json → Json
  | arr items => arr (sortedItems items)
  | obj members => obj (sortMembers (sortedMembers members))
  | v => v

def sortedItems : List Json → List Json
  | [] => []
  | v :: r => v.sorted :: sortedItems r

def sortedMembers : List (String × Json) → List (String × Json)
  | [] => []
  | (k, v) :: r => (k, v.sorted) :: sortedMembers r

end

def get? : Json → String → Option Json
  | obj members, key => (members.find? fun m => m.1 = key).map (·.2)
  | _, _ => none

def str? : Json → Option String
  | str s => some s
  | _ => none

def arr? : Json → Option (List Json)
  | arr items => some items
  | _ => none

def nat (n : Nat) : Json := num (.natural n)

def strings (l : List String) : Json := arr (l.map str)

def option {α : Type} (f : α → Json) : Option α → Json
  | none => null
  | some a => f a

end Json

end RuleLint
