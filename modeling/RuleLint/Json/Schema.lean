import RuleLint.Json.Number
import RuleLint.Text.Quoted

/-!
# Shapes of values

A schema describes the shape that a document must have. Decoding checks a value against a schema and
gives it back in full: every field of a record present, in the order of the schema, with its default
where the document has none. Members that a record does not know are ignored. A list may stand for a
record: its items are the fields in order.
-/

namespace RuleLint

/-- What a record does about a field that the document lacks. -/
inductive Absence where
  | required
  /-- The field may be left out of an object, but not of a list. -/
  | nullable
  | default (value : Json)

inductive Schema where
  | text
  | path
  | count
  | flag
  | variant (names : List String)
  | optional (s : Schema)
  | list (s : Schema)
  | table (s : Schema)
  | record (name : String) (fields : List (String × Absence × Schema))
  | either (name : String) (alternatives : List Schema)

inductive Found where
  | unit
  | bool (b : Bool)
  | num (n : Number)
  | str (s : String)
  | seq
  | map

inductive Mismatch where
  | type (found : Found) (expected : String)
  | value (found : Found) (expected : String)
  | length (n : Nat) (expected : String)
  | unknownVariant (given : String) (names : List String)
  | missingField (name : String)
  | duplicateField (name : String)
  | noAlternative (name : String)

namespace Found

def ofJson : Json → Found
  | .null => unit
  | .bool b => bool b
  | .num n => num n
  | .str s => str s
  | .arr _ => seq
  | .obj _ => map

def message : Found → String
  | unit => "null"
  | bool b => "boolean `" ++ (if b then "true" else "false") ++ "`"
  | num (.real bits) => "floating point `" ++ (Number.real bits).text ++ "`"
  | num n => "integer `" ++ n.text ++ "`"
  | str s => "string " ++ Text.quoted s
  | seq => "sequence"
  | map => "map"

end Found

def namesText (names : List String) : String :=
  match names.map fun n => "`" ++ n ++ "`" with
  | [] => "there are no variants"
  | [a] => "expected " ++ a
  | [a, b] => "expected " ++ a ++ " or " ++ b
  | l => "expected one of " ++ ", ".intercalate l

/-- The message about a mismatch, given how what was found is told. -/
def Mismatch.messageWith (told : Found → String) : Mismatch → String
  | type f e => "invalid type: " ++ told f ++ ", expected " ++ e
  | value f e => "invalid value: " ++ told f ++ ", expected " ++ e
  | length n e => "invalid length " ++ toString n ++ ", expected " ++ e
  | unknownVariant v names => "unknown variant `" ++ v ++ "`, " ++ namesText names
  | missingField n => "missing field `" ++ n ++ "`"
  | duplicateField n => "duplicate field `" ++ n ++ "`"
  | noAlternative n => "data did not match any variant of untagged enum " ++ n

def Mismatch.message (m : Mismatch) : String := m.messageWith Found.message

namespace Schema

def expected : Schema → String
  | text => "a string"
  | path => "path string"
  | count => "usize"
  | flag => "a boolean"
  | variant _ => "string or map"
  | optional s => s.expected
  | list _ => "a sequence"
  | table _ => "a map"
  | record name _ => "struct " ++ name
  | either name _ => name

def elementsText (n : Nat) : String :=
  toString n ++ (if n = 1 then " element" else " elements")

def decodeVariant (names : List String) : Json → Except Mismatch Json
  | .str v => if names.contains v then .ok (.str v) else .error (.unknownVariant v names)
  | .obj [(v, x)] =>
    if names.contains v then
      match x with
      | .null => .ok (.str v)
      | x => .error (.type (.ofJson x) "unit")
    else .error (.unknownVariant v names)
  | .obj _ => .error (.value .map "map with a single key")
  | v => .error (.type (.ofJson v) "string or map")

def decodeCount : Json → Except Mismatch Json
  | .num (.natural n) => .ok (.nat n)
  | .num (.negative n) => .error (.value (.num (.negative n)) "usize")
  | v => .error (.type (.ofJson v) "usize")

def repeated? (fields : List (String × Absence × Schema)) : List String → Option String
  | [] => none
  | k :: r => if r.contains k && fields.any (·.1 = k) then some k else repeated? fields r

/-- The fields of a record in order, each from the members decoded for it or from its default. -/
def complete (decoded : List (String × Json)) :
    List (String × Absence × Schema) → Except Mismatch (List (String × Json))
  | [] => .ok []
  | (name, absence, _) :: r => do
    let v ← match decoded.find? fun m => m.1 = name, absence with
      | some (_, v), _ => .ok v
      | none, .required => .error (.missingField name)
      | none, .nullable => .ok .null
      | none, .default v => .ok v
    return (name, v) :: (← complete decoded r)

mutual

def decode : Schema → Json → Except Mismatch Json
  | .text, .str s => .ok (.str s)
  | .path, .str s => .ok (.str s)
  | .count, v => decodeCount v
  | .flag, .bool b => .ok (.bool b)
  | .variant names, v => decodeVariant names v
  | .optional _, .null => .ok .null
  | .optional s, v => decode s v
  | .list s, .arr items => do return .arr (← items.mapM fun v => decode s v)
  | .table s, .obj members => do
    return .obj (← members.mapM fun m => do return (m.1, ← decode s m.2))
  | .record _ fields, .obj members => do
    if let some name := repeated? fields (members.map (·.1)) then throw (.duplicateField name)
    let decoded ← members.mapM fun m => do return (m.1, ← decodeField fields m.1 m.2)
    return .obj (← complete decoded fields)
  | .record name fields, .arr items => do
    let (decoded, rest) ← decodeItems name fields.length 0 fields items
    if rest.isEmpty then return .obj decoded
    else .error (.length items.length "fewer elements in array")
  | .either name alternatives, v =>
    match decodeEither alternatives v with
    | some v => .ok v
    | none => .error (.noAlternative name)
  | s, v => .error (.type (.ofJson v) s.expected)

/-- The value of a member for the field of its name; an unknown member is kept as it is. -/
def decodeField : List (String × Absence × Schema) → String → Json → Except Mismatch Json
  | [], _, v => .ok v
  | (name, _, s) :: r, key, v => if key = name then decode s v else decodeField r key v

/-- The fields of a record from the items of a list, and the items left over. -/
def decodeItems (name : String) (arity : Nat) :
    Nat → List (String × Absence × Schema) → List Json →
      Except Mismatch (List (String × Json) × List Json)
  | _, [], items => .ok ([], items)
  | i, (field, _, s) :: r, v :: items => do
    let v ← decode s v
    let (vs, rest) ← decodeItems name arity (i + 1) r items
    return ((field, v) :: vs, rest)
  | i, (field, .default d, _) :: r, [] => do
    let (vs, rest) ← decodeItems name arity (i + 1) r []
    return ((field, d) :: vs, rest)
  | i, _ :: _, [] =>
    .error (.length i ("struct " ++ name ++ " with " ++ elementsText arity))

/-- The first alternative that a value has the shape of. A list does not stand for a record here. -/
def decodeEither : List Schema → Json → Option Json
  | [], _ => none
  | s :: r, v =>
    match s, v with
    | .record _ _, .arr _ => decodeEither r v
    | s, v =>
      match decode s v with
      | .ok v => some v
      | .error _ => decodeEither r v

end

end Schema

end RuleLint
