import RuleLint.Json.Reader
import RuleLint.Json.Schema

/-!
# Reading a text of a given shape

A text that must have the shape of a schema is checked while it is read, so that whatever is wrong
first, in the text or with its shape, is reported, and with its place. A scalar of the wrong kind is
reported behind it, a list or an object at its start. What is wrong with the parts of a list or an
object taken together is reported where reading stands once its end has been looked for.
-/

namespace RuleLint.Json

/-- What is wrong with a text, and the characters left there; `loose` is not placed yet. -/
inductive Problem where
  | syntactic (fault : Fault)
  | shape (mismatch : Mismatch) (rest : List Char)
  | loose (mismatch : Mismatch) (rest : List Char)

def Problem.message (text : List Char) : Problem → String
  | syntactic f => f.message text
  | shape m rest | loose m rest => placeText m.message (placeOf text rest 0)

abbrev ShapedReader (α : Type) := List Char → Except Problem (α × List Char)

def plain {α : Type} (r : Except Fault α) : Except Problem α := r.mapError .syntactic

/-- Where reading stands when the end of an object has been looked for. -/
def pastBrace (cs : List Char) : List Char :=
  match skip cs with
  | '\x7d' :: r => r
  | r => r

def pastBracket (cs : List Char) : List Char :=
  match skip cs with
  | ']' :: r => r
  | ',' :: r => skip r
  | r => r

def Problem.place (past : List Char → List Char) : Problem → Problem
  | loose m rest => shape m (past rest)
  | p => p

def closeList (cs : List Char) : Except Problem (List Char) :=
  plain <| match skip cs with
  | ']' :: r => .ok r
  | ',' :: r =>
    match skip r with
    | ']' :: r => here .trailingComma (']' :: r)
    | r => here .trailingCharacters r
  | [] => here .endInList []
  | r => here .trailingCharacters r

def wrongKind {α : Type} (expected : String) (cs : List Char) : Except Problem α := do
  let found (f : Found) (rest : List Char) : Except Problem α := throw (.shape (.type f expected) rest)
  match cs with
  | [] => plain (here .endInValue [])
  | 'n' :: r => found .unit (← plain (readWord ['u', 'l', 'l'] r))
  | 't' :: r => found (.bool true) (← plain (readWord ['r', 'u', 'e'] r))
  | 'f' :: r => found (.bool false) (← plain (readWord ['a', 'l', 's', 'e'] r))
  | '"' :: r =>
    let (s, r) ← plain (readStringAll r)
    found (.str s) r
  | '[' :: r => found .seq ('[' :: r)
  | '\x7b' :: r => found .map ('\x7b' :: r)
  | '-' :: r =>
    let (x, r) ← plain (readNumber false r)
    found (.num x) r
  | c :: r =>
    if isDigit c then
      let (x, r) ← plain (readNumber true (c :: r))
      found (.num x) r
    else plain (here .expectedValue (c :: r))

/-! ## Values that are passed over -/

def passExponent (cs : List Char) : Except Fault (List Char) :=
  let cs := match cs with
    | '+' :: r | '-' :: r => r
    | r => r
  match cs with
  | c :: r => if isDigit c then .ok (r.dropWhile isDigit) else here .invalidNumber (c :: r)
  | [] => here .invalidNumber []

def passScale : List Char → Except Fault (List Char)
  | 'e' :: r | 'E' :: r => passExponent r
  | r => .ok r

def passNumber : List Char → Except Fault (List Char)
  | [] => here .invalidNumber []
  | c :: r =>
    if !isDigit c then here .invalidNumber (c :: r)
    else if c = '0' ∧ r.head?.any isDigit then here .invalidNumber r
    else match r.dropWhile isDigit with
      | '.' :: r =>
        if r.head?.any isDigit then passScale (r.dropWhile isDigit) else here .invalidNumber r
      | r => passScale r

/-- A string after its opening quote; surrogates need no partner. -/
def passString : Nat → List Char → Except Fault (List Char)
  | 0, cs => after .endInString cs
  | _ + 1, [] => after .endInString []
  | n + 1, c :: cs =>
    if c = '"' then .ok cs
    else if c = '\\' then
      match cs with
      | [] => after .endInString []
      | 'u' :: r => do
        let (_, r) ← readHex r
        passString n r
      | e :: r => if (simpleEscape? e).isSome then passString n r else here .invalidEscape cs
    else if c.toNat < 0x20 then after .controlCharacter cs
    else passString n cs

/-- Passes over a value; `open_` holds the brackets and braces around the place, innermost first. The
flag tells whether a value has just ended. -/
def passValue : Nat → Bool → List Char → List Char → Except Fault (List Char)
  | 0, _, _, cs => here .expectedValue cs
  | _ + 1, true, [], cs => .ok cs
  | n + 1, ended, open_, cs => do
    let cs := skip cs
    let inObject := open_.head? = some '\x7b'
    let value (cs : List Char) : Except Fault (List Char) := do
      match cs with
      | [] => here .endInValue []
      | 'n' :: r => passValue n true open_ (← readWord ['u', 'l', 'l'] r)
      | 't' :: r => passValue n true open_ (← readWord ['r', 'u', 'e'] r)
      | 'f' :: r => passValue n true open_ (← readWord ['a', 'l', 's', 'e'] r)
      | '-' :: r => passValue n true open_ (← passNumber r)
      | '"' :: r => passValue n true open_ (← passString (r.length + 1) r)
      | '[' :: r => passValue n false ('[' :: open_) r
      | '\x7b' :: r => passValue n false ('\x7b' :: open_) r
      | c :: r =>
        if isDigit c then passValue n true open_ (← passNumber (c :: r))
        else here .expectedValue (c :: r)
    let part (cs : List Char) : Except Fault (List Char) := do
      if inObject then
        match skip cs with
        | '"' :: r =>
          let r ← passString (r.length + 1) r
          match skip r with
          | ':' :: r => value (skip r)
          | [] => here .endInObject []
          | r => here .expectedColon r
        | [] => here .endInObject []
        | r => here .keyNotString r
      else value (skip cs)
    match open_, cs with
    | [], cs => value cs
    | _, [] => here (if inObject then .endInObject else .endInList) []
    | '\x7b' :: rest, '\x7d' :: r => passValue n true rest r
    | '[' :: rest, ']' :: r => passValue n true rest r
    | _, c :: r =>
      if !ended then part (c :: r)
      else if c = ',' then part r
      else here (if inObject then .expectedCommaOrBrace else .expectedCommaOrBracket) (c :: r)

/-! ## Values of a shape -/

def readCount (positive : Bool) (cs : List Char) : Except Problem (Json × List Char) := do
  let (x, r) ← plain (readNumber positive cs)
  match Schema.decodeCount (.num x) with
  | .ok v => return (v, r)
  | .error m => throw (.shape m r)

def readVariantName (names : List String) (cs : List Char) : Except Problem (Json × List Char) := do
  let (s, r) ← plain (readStringAll cs)
  if names.contains s then return (.str s, r) else throw (.shape (.unknownVariant s names) r)

def nextItem (first : Bool) (cs : List Char) : Except Problem (Bool × List Char) :=
  plain <| match skip cs with
  | [] => here .endInList []
  | ']' :: r => .ok (false, ']' :: r)
  | c :: r =>
    if first then .ok (true, c :: r)
    else if c = ',' then
      match skip r with
      | [] => here .endInValue []
      | ']' :: r => here .trailingComma (']' :: r)
      | r => .ok (true, r)
    else here .expectedCommaOrBracket (c :: r)

def nextKey (first : Bool) (cs : List Char) : Except Problem (Option String × List Char) := do
  let key (cs : List Char) : Except Fault (Option String × List Char) := do
    match cs with
    | '"' :: r =>
      let (k, r) ← readStringAll r
      return (some k, r)
    | '\x7d' :: r => here .trailingComma ('\x7d' :: r)
    | [] => here .endInValue []
    | r => here .keyNotString r
  plain <| match skip cs with
  | [] => here .endInObject []
  | '\x7d' :: r => .ok (none, '\x7d' :: r)
  | c :: r =>
    if first then key (c :: r)
    else if c = ',' then key (skip r)
    else here .expectedCommaOrBrace (c :: r)

def readColon (cs : List Char) : Except Problem (List Char) :=
  plain <| match skip cs with
  | ':' :: r => .ok r
  | [] => here .endInObject []
  | r => here .expectedColon r

def closeObject (cs : List Char) : List Char :=
  match skip cs with
  | '\x7d' :: r => r
  | r => r

/-- The text of a value with a part, unless it lies too deep. -/
def enter (depth : Nat) (cs : List Char) : Except Problem Unit :=
  if depth ≤ 1 then plain (here .tooDeep cs) else .ok ()

mutual

/-- A value of the given shape, checked and completed. The first argument bounds the recursion, the
second the depth. -/
def readShape : Nat → Nat → Schema → ShapedReader Json
  | 0, _, _, cs => plain (here .expectedValue cs)
  | n + 1, depth, s, cs => do
    let cs := skip cs
    match s, cs with
    | .text, '"' :: r | .path, '"' :: r =>
      let (t, r) ← plain (readStringAll r)
      return (.str t, r)
    | .count, '-' :: r => readCount false r
    | .count, c :: r => if isDigit c then readCount true (c :: r) else wrongKind "usize" (c :: r)
    | .flag, 't' :: r => return (.bool true, ← plain (readWord ['r', 'u', 'e'] r))
    | .flag, 'f' :: r => return (.bool false, ← plain (readWord ['a', 'l', 's', 'e'] r))
    | .variant names, '"' :: r => readVariantName names r
    | .variant names, '\x7b' :: r =>
      enter depth ('\x7b' :: r)
      match skip r with
      | '"' :: r =>
        let (v, r) ← readVariantName names r
        match skip (← readColon r) with
        | 'n' :: r =>
          let r ← plain (readWord ['u', 'l', 'l'] r)
          match skip r with
          | '\x7d' :: r => return (v, r)
          | [] => plain (here .endInObject [])
          | r => plain (after .expectedValue r)
        | r => wrongKind "unit" r
      | r => wrongKind "variant identifier" r
    | .variant _, [] => plain (here .endInValue [])
    | .variant _, r => plain (here .expectedValue r)
    | .optional _, 'n' :: r => return (.null, ← plain (readWord ['u', 'l', 'l'] r))
    | .optional s, r => readShape n depth s r
    | .list s, '[' :: r =>
      enter depth ('[' :: r)
      let (items, r) ← (readList n (depth - 1) s true r).mapError (·.place pastBracket)
      return (.arr items, ← closeList r)
    | .table s, '\x7b' :: r =>
      enter depth ('\x7b' :: r)
      let (members, r) ← (readTable n (depth - 1) s true r).mapError (·.place pastBrace)
      return (.obj (sortMembers members), closeObject r)
    | .record _ fields, '\x7b' :: r =>
      enter depth ('\x7b' :: r)
      let (members, r) ← (readRecord n (depth - 1) fields [] true r).mapError (·.place pastBrace)
      return (.obj members, closeObject r)
    | .record name fields, '[' :: r =>
      enter depth ('[' :: r)
      let (members, r) ←
        (readFields n (depth - 1) name fields.length 0 fields r).mapError (·.place pastBracket)
      return (.obj members, ← closeList r)
    | .either name alternatives, r =>
      let (v, r) ← plain (readValue (bound r) depth r)
      match Schema.decodeEither alternatives v with
      | some v => return (v, r)
      | none => throw (.loose (.noAlternative name) r)
    | s, r => wrongKind s.expected r

def readList : Nat → Nat → Schema → Bool → ShapedReader (List Json)
  | 0, _, _, _, cs => plain (here .endInList cs)
  | n + 1, depth, s, first, cs => do
    match ← nextItem first cs with
    | (false, r) => return ([], r)
    | (true, r) =>
      let (v, r) ← readShape n depth s r
      let (vs, r) ← readList n depth s false r
      return (v :: vs, r)

def readTable : Nat → Nat → Schema → Bool → ShapedReader (List (String × Json))
  | 0, _, _, _, cs => plain (here .endInObject cs)
  | n + 1, depth, s, first, cs => do
    match ← nextKey first cs with
    | (none, r) => return ([], r)
    | (some k, r) =>
      let (v, r) ← readShape n depth s (← readColon r)
      let (ms, r) ← readTable n depth s false r
      return ((k, v) :: ms, r)

def readRecord : Nat → Nat → List (String × Absence × Schema) → List (String × Json) → Bool →
    ShapedReader (List (String × Json))
  | 0, _, _, _, _, cs => plain (here .endInObject cs)
  | n + 1, depth, fields, known, first, cs => do
    match ← nextKey first cs with
    | (none, r) =>
      match Schema.complete known fields with
      | .ok members => return (members, r)
      | .error m => throw (.loose m r)
    | (some k, r) =>
      match fields.find? fun f => f.1 = k with
      | none =>
        let r ← readColon r
        let r ← plain (passValue (bound r) false [] r)
        readRecord n depth fields known false r
      | some (_, _, s) =>
        if known.any (·.1 = k) then throw (.loose (.duplicateField k) r)
        let (v, r) ← readShape n depth s (← readColon r)
        readRecord n depth fields ((k, v) :: known) false r

def readFields : Nat → Nat → String → Nat → Nat → List (String × Absence × Schema) →
    ShapedReader (List (String × Json))
  | _, _, _, _, _, [], cs => .ok ([], cs)
  | 0, _, _, _, _, _, cs => plain (here .endInList cs)
  | n + 1, depth, name, arity, i, (field, absence, s) :: fields, cs => do
    match ← nextItem (i == 0) cs with
    | (true, r) =>
      let (v, r) ← readShape n depth s r
      let (vs, r) ← readFields n depth name arity (i + 1) fields r
      return ((field, v) :: vs, r)
    | (false, r) =>
      match absence with
      | .default d =>
        let (vs, r) ← readFields n depth name arity (i + 1) fields r
        return ((field, d) :: vs, r)
      | _ => throw (.loose (.length i ("struct " ++ name ++ " with " ++ Schema.elementsText arity)) r)

end

def ofTextAs (s : Schema) (cs : List Char) : Except Problem Json := do
  let (v, r) ← readShape (bound cs) depthLimit s cs
  plain (readEnd r)
  return v

def parseAs (s : Schema) (text : String) : Except String Json :=
  (ofTextAs s text.toList).mapError (·.message text.toList)

end RuleLint.Json
