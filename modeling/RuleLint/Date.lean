import RuleLint.Text.Blank

/-!
# Calendar dates

A date is written as year, month and day with hyphens between them. Each number may have blanks
before it. A year without a sign has at most four digits, a month and a day at most two.
-/

namespace RuleLint

/-- A day of the proleptic Gregorian calendar. -/
structure Date where
  year : Int
  month : Nat
  day : Nat
  deriving DecidableEq, Repr

namespace Date

def isLeap (year : Int) : Bool := year % 4 = 0 && (year % 100 ≠ 0 || year % 400 = 0)

def monthLength (year : Int) : Nat → Nat
  | 2 => if isLeap year then 29 else 28
  | 4 | 6 | 9 | 11 => 30
  | _ => 31

def firstYear : Int := -262143

def lastYear : Int := 262142

def isValid (d : Date) : Bool :=
  firstYear ≤ d.year && d.year ≤ lastYear && 1 ≤ d.month && d.month ≤ 12 && 1 ≤ d.day &&
    d.day ≤ monthLength d.year d.month

def before (a b : Date) : Bool :=
  a.year < b.year ||
    (a.year = b.year && (a.month < b.month || (a.month = b.month && a.day < b.day)))

def isDigit (c : Char) : Bool := '0' ≤ c && c ≤ '9'

def digitsValue (cs : List Char) : Nat := cs.foldl (fun n c => 10 * n + (c.toNat - 48)) 0

/-- The number that the digits at the start of a text denote, and the text after them. At most
`most` digits are read. -/
def readNumber? (most : Nat) (cs : List Char) : Option (Nat × List Char) :=
  let digits := (cs.takeWhile isDigit).take most
  if digits.isEmpty then none else some (digitsValue digits, cs.drop digits.length)

/-- A year. A sign allows any number of digits. -/
def readYear? (cs : List Char) : Option (Int × List Char) :=
  match Text.trimStart cs with
  | '-' :: r => (readNumber? r.length r).map fun p => (-(p.1 : Int), p.2)
  | '+' :: r => (readNumber? r.length r).map fun p => ((p.1 : Int), p.2)
  | r => (readNumber? 4 r).map fun p => ((p.1 : Int), p.2)

def readHyphen? : List Char → Option (List Char)
  | '-' :: r => some r
  | _ => none

/-- The date that a text denotes, blanks around it aside. -/
def ofText? (s : String) : Option Date := do
  let (year, r) ← readYear? (Text.trimEnd s.toList)
  let (month, r) ← readNumber? 2 (Text.trimStart (← readHyphen? r))
  let (day, r) ← readNumber? 2 (Text.trimStart (← readHyphen? r))
  let d : Date := ⟨year, month, day⟩
  if r.isEmpty && d.isValid then some d else none

end Date

end RuleLint
