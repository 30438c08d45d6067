import RuleLint.Regex.Ast
import RuleLint.Unicode.Category
import RuleLint.Unicode.Fold
import RuleLint.Unicode.Property
import RuleLint.Unicode.ScriptExtension

/-!
# Character classes

The sets of characters that named classes stand for. Names of properties and values are compared
without regard to case, blanks, hyphens and underscores, and without a leading `is`.
-/

namespace RuleLint.Regex

open Unicode (Ranges)

/-! ## Classes of ASCII characters -/

def asciiDigits : Ranges := [(0x30, 0x39)]

def asciiSpaces : Ranges := [(0x09, 0x0D), (0x20, 0x20)]

def asciiWords : Ranges := [(0x30, 0x39), (0x41, 0x5A), (0x5F, 0x5F), (0x61, 0x7A)]

def AsciiKind.ranges : AsciiKind → Ranges
  | alnum => [(0x30, 0x39), (0x41, 0x5A), (0x61, 0x7A)]
  | alpha => [(0x41, 0x5A), (0x61, 0x7A)]
  | ascii => [(0, 0x7F)]
  | blank => [(0x09, 0x09), (0x20, 0x20)]
  | cntrl => [(0, 0x1F), (0x7F, 0x7F)]
  | digit => asciiDigits
  | graph => [(0x21, 0x7E)]
  | lower => [(0x61, 0x7A)]
  | print => [(0x20, 0x7E)]
  | punct => [(0x21, 0x2F), (0x3A, 0x40), (0x5B, 0x60), (0x7B, 0x7E)]
  | space => asciiSpaces
  | upper => [(0x41, 0x5A)]
  | word => asciiWords
  | xdigit => [(0x30, 0x39), (0x41, 0x46), (0x61, 0x66)]

/-! ## Classes of all characters -/

def digits : Ranges := (Unicode.category? "nd").getD []

def spaces : Ranges := (Unicode.property? "whitespace").getD []

/-- Letters, marks, digits, connectors and joiners. -/
def words : Ranges :=
  Ranges.ofList <| (Unicode.property? "alphabetic").getD [] ++ (Unicode.category? "m").getD [] ++
    digits ++ (Unicode.category? "pc").getD [] ++ (Unicode.property? "joincontrol").getD []

/-- Lower case without separators; what is not ASCII is left out. -/
def normalName (name : String) : String :=
  let cs := name.toList
  let isPart : Bool := match cs with
    | a :: b :: _ => (a == 'i' || a == 'I') && (b == 's' || b == 'S')
    | _ => false
  let kept := (if isPart then cs.drop 2 else cs).filterMap fun c =>
    if c = ' ' ∨ c = '_' ∨ c = '-' ∨ 128 ≤ c.toNat then none else some c.toLower
  if isPart && kept == ['c'] then "isc" else String.ofList kept

/-- Names of properties that have values, and names of properties that are not known here but that a
general category or a script does not take over. -/
def otherProperties : List String :=
  ["age", "bidiclass", "bc", "block", "blk", "canonicalcombiningclass", "ccc", "casefolding",
   "decompositiontype", "dt", "eastasianwidth", "ea", "generalcategory", "gc", "category",
   "graphemeclusterbreak", "gcb", "hangulsyllabletype", "hst", "joininggroup", "jg", "joiningtype",
   "jt", "linebreak", "lb", "lowercasemapping", "name", "na", "numerictype", "nt", "numericvalue",
   "nv", "script", "scriptextensions", "scx", "sentencebreak", "sb", "titlecasemapping", "tc",
   "uppercasemapping", "uc", "wordbreak", "wb", "isc", "isocomment", "simplecasefolding", "scf",
   "simplelowercasemapping", "slc", "simpletitlecasemapping", "stc", "simpleuppercasemapping", "suc"]

def generalCategory? (name : String) : Option Ranges :=
  match name with
  | "any" => some Ranges.scalars
  | "ascii" => some [(0, 0x7F)]
  | "assigned" => some Unicode.assigned
  | name => Unicode.category? name

def singleProperty (name : String) : Except Cause Ranges :=
  let name := normalName name
  let property := if name = "cf" ∨ name = "sc" ∨ name = "lc" then none else Unicode.property? name
  match property with
  | some r => .ok r
  | none =>
    if otherProperties.contains name then .error .propertyNotFound
    else if name = "cs" ∨ name = "surrogate" then .error .propertyValueNotFound
    else match (generalCategory? name).or (Unicode.script? name) with
      | some r => .ok r
      | none => .error .propertyNotFound

def valuedProperty (name value : String) : Except Cause Ranges :=
  let value := normalName value
  let found (r : Option Ranges) : Except Cause Ranges := r.elim (.error .propertyValueNotFound) .ok
  match normalName name with
  | "generalcategory" | "gc" | "category" => found (generalCategory? value)
  | "script" | "sc" => found (Unicode.script? value)
  | "scriptextensions" | "scx" => found (Unicode.scriptExtension? value)
  | name =>
    if (Unicode.property? name).isSome || otherProperties.contains name then
      .error .propertyValueNotFound
    else .error .propertyNotFound

def PropertyName.ranges : PropertyName → Except Cause Ranges
  | single name => singleProperty name
  | pair name value => valuedProperty name value

end RuleLint.Regex
