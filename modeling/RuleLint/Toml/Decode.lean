import RuleLint.Toml.Reader

/-!
# The shape of TOML documents

A document is checked against a schema like a JSON value and gives the value in full. What is wrong
is placed at the value it is about, or at its key when the value has no place of its own.
-/

namespace RuleLint.Toml

/-- Doubles are always shown by position in messages about a document. -/
def alwaysPositional : Number.Notation := ⟨400, 400⟩

def realText (bits : UInt64) : String :=
  let f := Float.ofBits bits
  if f.isNaN then "NaN"
  else if f.isInf then if f > 0.0 then "inf" else "-inf"
  else Number.realText alwaysPositional bits

def found : Tree → String
  | .scalar _ (.str s) => "string " ++ Text.quoted s
  | .scalar _ (.int i) => "integer `" ++ toString i ++ "`"
  | .scalar _ (.real bits) => "floating point `" ++ realText bits ++ "`"
  | .scalar _ (.bool b) => "boolean `" ++ (if b then "true" else "false") ++ "`"
  | .scalar _ .date => "map"
  | .list _ _ | .tables _ => "sequence"
  | .table _ _ _ => "map"

def wrongType {α : Type} (t : Tree) (expected : String) : Except Problem α :=
  .error ⟨"invalid type: " ++ found t ++ ", expected " ++ expected, t.span?⟩

def Problem.within (span : Option Span) (p : Problem) : Problem := { p with span := p.span.or span }

def placeEntry (e : Key × Tree) (p : Problem) : Problem := p.within (e.2.span?.or (some e.1.span))

/-- What stands beside the name of a variant in a table must hold nothing. -/
def emptyVariant (t : Tree) : Except Problem Unit :=
  match t with
  | .list s items => if items.isEmpty then .ok () else .error ⟨"expected empty table", some s⟩
  | .tables items => if items.isEmpty then .ok () else .error ⟨"expected empty array", t.span?⟩
  | .table s _ entries => if entries.isEmpty then .ok () else .error ⟨"expected empty table", s⟩
  | t => .error ⟨"expected table, found " ++ t.kind, t.span?⟩

def checkVariant (names : List String) (name : String) : Except Problem Json :=
  if names.contains name then .ok (.str name)
  else .error ⟨(Mismatch.unknownVariant name names).message, none⟩

/-- A variant as a string, or as a table with it as only key. -/
def decodeVariant (names : List String) (t : Tree) : Except Problem Json :=
  match t with
  | .scalar s (.str v) => (checkVariant names v).mapError (·.within (some s))
  | .table s _ [] => .error ⟨"wanted exactly 1 element, found 0 elements", s⟩
  | .table _ _ [(k, v)] => do
    let name ← (checkVariant names k.name).mapError (·.within (some k.span))
    emptyVariant v
    return name
  | .table s _ _ => .error ⟨"wanted exactly 1 element, more than 1 element", s⟩
  | t => .error ⟨"wanted string or table", t.span?⟩

def complete (decoded : List (String × Json)) (fields : List (String × Absence × Schema)) :
    Except Problem Json :=
  match Schema.complete decoded fields with
  | .ok members => .ok (.obj members)
  | .error m => .error ⟨m.message, none⟩

mutual

def decode : Schema → Tree → Except Problem Json
  | .text, .scalar _ (.str s) => .ok (.str s)
  | .path, .scalar _ (.str s) => .ok (.str s)
  | .flag, .scalar _ (.bool b) => .ok (.bool b)
  | .variant names, t => decodeVariant names t
  | .optional s, t => decode s t
  | .list s, .list _ items => do return .arr (← items.mapM fun t => decode s t)
  | .list s, .tables items => do return .arr (← items.mapM fun t => decode s t)
  | .table s, .table span _ entries =>
    let members : Except Problem (List (String × Json)) := entries.mapM fun e =>
      ((decode s e.2).map fun v => (e.1.name, v)).mapError (placeEntry e)
    (members.map fun ms => Json.obj (Json.sortMembers ms)).mapError (Problem.within span)
  | .record _ fields, .table span _ entries =>
    let members : Except Problem (List (String × Json)) := entries.mapM fun e =>
      ((decodeField fields e.1.name e.2).map fun v => (e.1.name, v)).mapError (placeEntry e)
    (members.bind fun ms => complete ms fields).mapError (Problem.within span)
  | .record _ fields, .list span items => (decodeItems fields items).mapError (·.within (some span))
  | .record _ fields, .tables items =>
    (decodeItems fields items).mapError (·.within (Tree.tables items).span?)
  | s, t => wrongType t s.expected

/-- The value of an entry for the field of its name; an unknown entry is passed over. -/
def decodeField : List (String × Absence × Schema) → String → Tree → Except Problem Json
  | [], _, _ => .ok .null
  | (name, _, s) :: r, key, t => if key = name then decode s t else decodeField r key t

/-- The fields of a record from the items of a list, of which there may be too many. -/
def decodeItems : List (String × Absence × Schema) → List Tree → Except Problem Json
  | fields, [] => complete [] fields
  | [], _ => .ok (.obj [])
  | (name, _, s) :: r, t :: items => do
    let v ← decode s t
    match ← decodeItems r items with
    | .obj members => return .obj ((name, v) :: members)
    | v => return v

end

def parseAs (s : Schema) (text : String) : Except String Json :=
  ((parse text).bind (decode s)).mapError (·.render text)

end RuleLint.Toml
