import RuleLint.Json.Basic
import RuleLint.Text.Position

/-!
# Reading JSON

A reader takes the characters that are left and gives a value with what is left after it, or a
fault. A fault says what is wrong and where: the characters left at that point, from which the
position is computed once the whole text is known.
-/

namespace RuleLint.Json

inductive Cause where
  | endInValue
  | endInList
  | endInObject
  | endInString
  | expectedValue
  | expectedWord
  | expectedColon
  | expectedCommaOrBrace
  | expectedCommaOrBracket
  | keyNotString
  | trailingComma
  | trailingCharacters
  | invalidNumber
  | numberOutOfRange
  | invalidEscape
  | controlCharacter
  | loneSurrogate
  | unfinishedSurrogate
  | tooDeep
  deriving DecidableEq, Repr

def Cause.message : Cause → String
  | endInValue => "EOF while parsing a value"
  | endInList => "EOF while parsing a list"
  | endInObject => "EOF while parsing an object"
  | endInString => "EOF while parsing a string"
  | expectedValue => "expected value"
  | expectedWord => "expected ident"
  | expectedColon => "expected `:`"
  | expectedCommaOrBrace => "expected `,` or `\x7d`"
  | expectedCommaOrBracket => "expected `,` or `]`"
  | keyNotString => "key must be a string"
  | trailingComma => "trailing comma"
  | trailingCharacters => "trailing characters"
  | invalidNumber => "invalid number"
  | numberOutOfRange => "number out of range"
  | invalidEscape => "invalid escape"
  | controlCharacter => "control character (\\u0000-\\u001F) found while parsing a string"
  | loneSurrogate => "lone leading surrogate in hex escape"
  | unfinishedSurrogate => "unexpected end of hex escape"
  | tooDeep => "recursion limit exceeded"

/-- What is wrong, the characters left there, and how many bytes further it is reported. -/
structure Fault where
  cause : Cause
  rest : List Char
  ahead : Nat

/-- A line from 1 and the number of bytes before a place in it. -/
structure Place where
  line : Nat
  column : Nat
  deriving DecidableEq, Repr

/-- The place `n` bytes into a text. -/
def placeFrom : Place → Nat → List Char → Place
  | p, 0, _ => p
  | p, _ + 1, [] => p
  | p, n + 1, c :: cs =>
    if c = '\n' then placeFrom ⟨p.line + 1, 0⟩ n cs
    else if c.utf8Size ≤ n + 1 then
      placeFrom ⟨p.line, p.column + c.utf8Size⟩ (n + 1 - c.utf8Size) cs
    else ⟨p.line, p.column + n + 1⟩

/-- The place where a text has `rest` left, or up to `ahead` bytes further. -/
def placeOf (text rest : List Char) (ahead : Nat) : Place :=
  placeFrom ⟨1, 0⟩ (min (Text.byteSize text) (Text.byteSize text - Text.byteSize rest + ahead)) text

def placeText (message : String) (p : Place) : String :=
  message ++ " at line " ++ toString p.line ++ " column " ++ toString p.column

def Fault.message (text : List Char) (f : Fault) : String :=
  placeText f.cause.message (placeOf text f.rest f.ahead)

abbrev Reader (α : Type) := List Char → Except Fault (α × List Char)

def here {α : Type} (cause : Cause) (rest : List Char) : Except Fault α := .error ⟨cause, rest, 1⟩

def after {α : Type} (cause : Cause) (rest : List Char) : Except Fault α := .error ⟨cause, rest, 0⟩

def isSpace (c : Char) : Bool := c = ' ' || c = '\n' || c = '\t' || c = '\r'

def skip (cs : List Char) : List Char := cs.dropWhile isSpace

def readWord : List Char → List Char → Except Fault (List Char)
  | [], cs => .ok cs
  | _ :: _, [] => after .endInValue []
  | w :: ws, c :: cs => if c = w then readWord ws cs else here .expectedWord (c :: cs)

/-! ## Numbers -/

def isDigit (c : Char) : Bool := '0' ≤ c && c ≤ '9'

def digitValue (c : Char) : Nat := c.toNat - 48

def maxNatural : Nat := Nat.pow 2 64 - 1

def tenTo (n : Nat) : Float := Float.ofScientific 1 false n

/-- `f · 10 ^ e` for a scale of at most `10 ^ 308` at a time; nothing when it is too large. -/
def scaled? : Nat → Float → Int → Option Float
  | 0, _, _ => some 0.0
  | n + 1, f, e =>
    if e.natAbs ≤ 308 then
      if 0 ≤ e then
        let g := f * tenTo e.natAbs
        if g.isInf then none else some g
      else some (f / tenTo e.natAbs)
    else if f == 0.0 then some f
    else if 0 ≤ e then none
    else scaled? n (f / tenTo 308) (e + 308)

/-- The double `± significand · 10 ^ exponent`. -/
def real (positive : Bool) (significand : Nat) (exponent : Int) (rest : List Char) :
    Except Fault (Number × List Char) :=
  match scaled? 8 (UInt64.ofNat significand).toFloat exponent with
  | none => after .numberOutOfRange rest
  | some f => .ok (.real (if positive then f else -f).toBits, rest)

/-- The digits of an exponent after its first, `e` being its value so far. -/
def readExponentDigits (positive positiveExponent : Bool) (significand : Nat) (start : Int)
    (e : Nat) : Reader Number
  | [] => real positive significand (if positiveExponent then start + e else start - e) []
  | c :: cs =>
    if isDigit c then
      if Nat.pow 2 31 ≤ e * 10 + digitValue c then
        if significand ≠ 0 ∧ positiveExponent then after .numberOutOfRange cs
        else .ok (.real (if positive then 0.0 else -0.0 : Float).toBits, cs.dropWhile isDigit)
      else readExponentDigits positive positiveExponent significand start (e * 10 + digitValue c) cs
    else real positive significand (if positiveExponent then start + e else start - e) (c :: cs)

def readExponent (positive : Bool) (significand : Nat) (start : Int) (cs : List Char) :
    Except Fault (Number × List Char) :=
  let (sign, cs) := match cs with
    | '+' :: r => (true, r)
    | '-' :: r => (false, r)
    | r => (true, r)
  match cs with
  | [] => after .endInValue []
  | c :: r =>
    if isDigit c then readExponentDigits positive sign significand start (digitValue c) r
    else here .invalidNumber (c :: r)

def readScale (positive : Bool) (significand : Nat) (exponent : Int) : Reader Number
  | 'e' :: r | 'E' :: r => readExponent positive significand exponent r
  | cs => real positive significand exponent cs

/-- The digits after a point; `any` says that there was one already. -/
def readDecimals (positive : Bool) (any : Bool) (significand : Nat) (exponent : Int) :
    Reader Number
  | [] => if any then real positive significand exponent [] else here .endInValue []
  | c :: cs =>
    if isDigit c then
      if significand * 10 + digitValue c ≤ maxNatural then
        readDecimals positive true (significand * 10 + digitValue c) (exponent - 1) cs
      else readScale positive significand exponent ((c :: cs).dropWhile isDigit)
    else if any then readScale positive significand exponent (c :: cs)
    else here .invalidNumber (c :: cs)

/-- The digits beyond those that fit, which only scale the number. -/
def readExcess (positive : Bool) (significand : Nat) (exponent : Int) : Reader Number
  | [] => real positive significand exponent []
  | c :: cs =>
    if isDigit c then readExcess positive significand (exponent + 1) cs
    else if c = '.' then readDecimals positive false significand exponent cs
    else readScale positive significand exponent (c :: cs)

def readFraction (positive : Bool) (significand : Nat) : Reader Number
  | '.' :: r => readDecimals positive false significand 0 r
  | 'e' :: r | 'E' :: r => readExponent positive significand 0 r
  | cs =>
    if positive then .ok (.natural significand, cs)
    else if significand = 0 ∨ Nat.pow 2 63 < significand then
      .ok (.real (-(UInt64.ofNat significand).toFloat).toBits, cs)
    else .ok (.negative significand, cs)

def readInteger (positive : Bool) (significand : Nat) : Reader Number
  | [] => readFraction positive significand []
  | c :: cs =>
    if isDigit c then
      if significand * 10 + digitValue c ≤ maxNatural then
        readInteger positive (significand * 10 + digitValue c) cs
      else readExcess positive significand 0 (c :: cs)
    else readFraction positive significand (c :: cs)

def readNumber (positive : Bool) : Reader Number
  | [] => after .endInValue []
  | '0' :: cs =>
    match cs with
    | c :: _ => if isDigit c then here .invalidNumber cs else readFraction positive 0 cs
    | [] => readFraction positive 0 cs
  | c :: cs =>
    if isDigit c then readInteger positive (digitValue c) cs else here .invalidNumber (c :: cs)

/-! ## Strings -/

def hexDigit? (c : Char) : Option Nat :=
  if '0' ≤ c ∧ c ≤ '9' then some (c.toNat - 48)
  else if 'a' ≤ c ∧ c ≤ 'f' then some (c.toNat - 87)
  else if 'A' ≤ c ∧ c ≤ 'F' then some (c.toNat - 55)
  else none

/-- Four hexadecimal digits. They are four bytes, whatever those are. -/
def readHex (cs : List Char) : Except Fault (Nat × List Char) :=
  if Text.byteSize cs < 4 then after .endInString []
  else match cs with
    | a :: b :: c :: d :: r =>
      match hexDigit? a, hexDigit? b, hexDigit? c, hexDigit? d with
      | some a, some b, some c, some d => .ok (((a * 16 + b) * 16 + c) * 16 + d, r)
      | _, _, _, _ => .error ⟨.invalidEscape, cs, 4⟩
    | _ => .error ⟨.invalidEscape, cs, 4⟩

/-- A character written as one or two escapes of four digits, after the first `\u`. -/
def readUnicode (cs : List Char) : Except Fault (Char × List Char) := do
  let (n, cs) ← readHex cs
  if 0xDC00 ≤ n ∧ n ≤ 0xDFFF then after .loneSurrogate cs
  else if n < 0xD800 ∨ 0xDFFF < n then return (Char.ofNat n, cs)
  else match cs with
    | [] => after .endInString []
    | '\\' :: [] => after .endInString []
    | '\\' :: 'u' :: cs =>
      let (m, cs) ← readHex cs
      if m < 0xDC00 ∨ 0xDFFF < m then after .loneSurrogate cs
      else return (Char.ofNat ((n - 0xD800) * 1024 + (m - 0xDC00) + 0x10000), cs)
    | '\\' :: cs => here .unfinishedSurrogate cs
    | cs => here .unfinishedSurrogate cs

def simpleEscape? : Char → Option Char
  | '"' => some '"'
  | '\\' => some '\\'
  | '/' => some '/'
  | 'b' => some '\x08'
  | 'f' => some '\x0c'
  | 'n' => some '\n'
  | 'r' => some '\r'
  | 't' => some '\t'
  | _ => none

def readString : Nat → Reader (List Char)
  | 0, cs => after .endInString cs
  | _ + 1, [] => after .endInString []
  | n + 1, c :: cs =>
    if c = '"' then .ok ([], cs)
    else if c = '\\' then
      match cs with
      | [] => after .endInString []
      | 'u' :: r => do
        let (x, r) ← readUnicode r
        let (s, r) ← readString n r
        return (x :: s, r)
      | e :: r =>
        match simpleEscape? e with
        | some x => do
          let (s, r) ← readString n r
          return (x :: s, r)
        | none => here .invalidEscape cs
    else if c.toNat < 0x20 then after .controlCharacter cs
    else do
      let (s, r) ← readString n cs
      return (c :: s, r)

def readStringAll (cs : List Char) : Except Fault (String × List Char) := do
  let (s, r) ← readString (cs.length + 1) cs
  return (String.ofList s, r)

/-! ## Values -/

/-- Brackets and braces nest less deep than this. -/
def depthLimit : Nat := 128

mutual

/-- A value after blanks, the members of objects as they come. The first argument bounds the
recursion, the second the depth. -/
def readValue : Nat → Nat → Reader Json
  | 0, _, cs => here .expectedValue cs
  | n + 1, depth, cs =>
    match skip cs with
    | [] => here .endInValue []
    | 'n' :: r => do return (.null, ← readWord ['u', 'l', 'l'] r)
    | 't' :: r => do return (.bool true, ← readWord ['r', 'u', 'e'] r)
    | 'f' :: r => do return (.bool false, ← readWord ['a', 'l', 's', 'e'] r)
    | '-' :: r => do
      let (x, r) ← readNumber false r
      return (.num x, r)
    | '"' :: r => do
      let (s, r) ← readStringAll r
      return (.str s, r)
    | '[' :: r =>
      if depth ≤ 1 then here .tooDeep ('[' :: r)
      else do
        let (items, r) ← readItems n (depth - 1) true r
        return (.arr items, r)
    | '\x7b' :: r =>
      if depth ≤ 1 then here .tooDeep ('\x7b' :: r)
      else do
        let (members, r) ← readMembers n (depth - 1) true r
        return (.obj members, r)
    | c :: r =>
      if isDigit c then do
        let (x, r) ← readNumber true (c :: r)
        return (.num x, r)
      else here .expectedValue (c :: r)

def readItems : Nat → Nat → Bool → Reader (List Json)
  | 0, _, _, cs => here .endInList cs
  | n + 1, depth, first, cs =>
    match skip cs with
    | [] => here .endInList []
    | ']' :: r => .ok ([], r)
    | c :: r =>
      if first then readItem n depth (c :: r)
      else if c = ',' then
        match skip r with
        | [] => here .endInValue []
        | ']' :: r => here .trailingComma (']' :: r)
        | r => readItem n depth r
      else here .expectedCommaOrBracket (c :: r)

def readItem : Nat → Nat → Reader (List Json)
  | 0, _, cs => here .endInList cs
  | n + 1, depth, cs => do
    let (v, r) ← readValue n depth cs
    let (vs, r) ← readItems n depth false r
    return (v :: vs, r)

def readMembers : Nat → Nat → Bool → Reader (List (String × Json))
  | 0, _, _, cs => here .endInObject cs
  | n + 1, depth, first, cs =>
    match skip cs with
    | [] => here .endInObject []
    | '\x7d' :: r => .ok ([], r)
    | c :: r =>
      if first then readMember n depth (c :: r)
      else if c = ',' then readMember n depth (skip r)
      else here .expectedCommaOrBrace (c :: r)

def readMember : Nat → Nat → Reader (List (String × Json))
  | 0, _, cs => here .endInObject cs
  | n + 1, depth, cs =>
    match cs with
    | '"' :: r => do
      let (key, r) ← readStringAll r
      match skip r with
      | ':' :: r =>
        let (v, r) ← readValue n depth r
        let (ms, r) ← readMembers n depth false r
        return ((key, v) :: ms, r)
      | [] => here .endInObject []
      | r => here .expectedColon r
    | '\x7d' :: r => here .trailingComma ('\x7d' :: r)
    | [] => here .endInValue []
    | r => here .keyNotString r

end

def readEnd (cs : List Char) : Except Fault Unit :=
  match skip cs with
  | [] => .ok ()
  | r => here .trailingCharacters r

/-- The bound that suffices for a text: every second call reads a character. -/
def bound (cs : List Char) : Nat := 3 * cs.length + 3

def ofText (cs : List Char) : Except Fault Json := do
  let (v, r) ← readValue (bound cs) depthLimit cs
  readEnd r
  return v.sorted

def parse (s : String) : Except String Json :=
  (ofText s.toList).mapError (·.message s.toList)

end RuleLint.Json
