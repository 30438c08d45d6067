import RuleLint.Text.Position
import RuleLint.Toml.Basic

/-!
# Reading TOML

A document is read from left to right. The first fault ends the reading; it tells what was being
read, what was expected and where.
-/

namespace RuleLint.Toml

structure Fault where
  offset : Nat
  label : Option String := none
  expected : List String := []
  cause : Option String := none

def Fault.message (f : Fault) : String :=
  let label := (f.label.map fun l => "invalid " ++ l).toList
  let expected := if f.expected.isEmpty then [] else ["expected " ++ ", ".intercalate f.expected]
  "\n".intercalate (label ++ expected ++ f.cause.toList)

structure Cursor where
  rest : List Char
  offset : Nat

abbrev Reader (α : Type) := StateT Cursor (Except Fault) α

namespace Reader

def offset : Reader Nat := return (← get).offset

def rest : Reader (List Char) := return (← get).rest

def peek : Reader (Option Char) := return (← get).rest.head?

def fail {α : Type} (label : Option String) (expected : List String) : Reader α := do
  throw ⟨← offset, label, expected, none⟩

def failFor {α : Type} (at_ : Nat) (label : Option String) (cause : String) : Reader α :=
  throw ⟨at_, label, [], some cause⟩

/-- Says what was being read when a fault came up, unless it was said more closely. -/
def labelled {α : Type} (label : String) (r : Reader α) : Reader α := fun s =>
  (r s).mapError fun f => { f with label := f.label.or (some label) }

def take (n : Nat) : Reader (List Char) := modifyGet fun s =>
  let cs := s.rest.take n
  (cs, ⟨s.rest.drop n, s.offset + Text.byteSize cs⟩)

def takeWhile (p : Char → Bool) : Reader (List Char) := do
  take ((← rest).takeWhile p).length

def skipIf (cs : List Char) : Reader Bool := do
  if cs.isPrefixOf (← rest) then
    let _ ← take cs.length
    return true
  else return false

/-! ## Blanks, line ends and comments -/

def isBlank (c : Char) : Bool := c = ' ' || c = '\t'

def isCommentChar (c : Char) : Bool := c = '\t' || (0x20 ≤ c.toNat && c ≠ '\x7f')

def blanks : Reader Unit := do
  let _ ← takeWhile isBlank

def newline : Reader Bool := do
  if ← skipIf ['\n'] then return true else skipIf ['\r', '\n']

def comment : Reader Bool := do
  if (← peek) = some '#' then
    let _ ← takeWhile isCommentChar
    return true
  else return false

/-- Blanks and a comment up to the end of the line. -/
def lineEnd : Reader Unit := do
  blanks
  let _ ← comment
  if !(← newline) && !(← rest).isEmpty then fail none ["newline", "`#`"]

/-- Blanks, line ends and comments. -/
def space : Reader Unit := do
  for _ in [0:(← rest).length] do
    let before ← offset
    blanks
    let _ ← newline
    let _ ← comment
    if (← offset) = before then return

/-! ## Strings -/

def isHex (c : Char) : Bool := c.isDigit || ('a' ≤ c && c ≤ 'f') || ('A' ≤ c && c ≤ 'F')

def hexValue (cs : List Char) : Nat :=
  cs.foldl (fun n c => 16 * n + (if c.isDigit then c.toNat - 48 else (c.toNat ||| 32) - 87)) 0

def hexEscape (count : Nat) : Reader Char := do
  let label := "unicode " ++ toString count ++ "-digit hex code"
  let digits := ((← rest).take count).takeWhile isHex
  let n := hexValue digits
  if digits.length = count ∧ (n < 0xD800 ∨ (0xDFFF < n ∧ n < 0x110000)) then
    let _ ← take count
    return Char.ofNat n
  else fail (some label) []

def escape : Reader Char := do
  match (← take 1) with
  | ['b'] => return '\x08'
  | ['f'] => return '\x0c'
  | ['n'] => return '\n'
  | ['r'] => return '\r'
  | ['t'] => return '\t'
  | ['u'] => hexEscape 4
  | ['U'] => hexEscape 8
  | ['\\'] => return '\\'
  | ['"'] => return '"'
  | _ => fail (some "escape sequence") ["`b`", "`f`", "`n`", "`r`", "`t`", "`u`", "`U`", "`\\`", "`\"`"]

def isPlain (c : Char) : Bool :=
  c = '\t' || (0x20 ≤ c.toNat && c ≠ '"' && c ≠ '\\' && c ≠ '\x7f')

def isLiteral (c : Char) : Bool := c = '\t' || (0x20 ≤ c.toNat && c ≠ '\'' && c ≠ '\x7f')

def basicString : Reader String := do
  let mut s : List Char := []
  for _ in [0:(← rest).length] do
    match ← peek with
    | some '\\' =>
      if (← rest).length < 2 then break
      let _ ← take 1
      s := (← escape) :: s
    | some c =>
      if isPlain c then s := (← takeWhile isPlain).reverse ++ s else break
    | none => break
  if ← skipIf ['"'] then return String.ofList s.reverse else fail (some "basic string") []

def literalString : Reader String := do
  let s ← takeWhile isLiteral
  if ← skipIf ['\''] then return String.ofList s else fail (some "literal string") []

def quotes (q : Char) : Reader Nat := return ((← rest).takeWhile (· = q)).length

/-- A backslash at the end of a line, with the blanks and lines after it. -/
def lineContinuation : Reader Bool := do
  let before ← get
  if ← skipIf ['\\'] then
    blanks
    if ← newline then
      let _ ← takeWhile fun c => isBlank c || c = '\n'
      for _ in [0:(← rest).length] do
        if ← newline then
          let _ ← takeWhile fun c => isBlank c || c = '\n'
        else break
      return true
  set before
  return false

/-- A string in three quotes, after the opening ones. Up to two quotes may stand before the closing
ones. -/
def multilineBasic : Reader String := labelled "multiline basic string" do
  let _ ← newline
  let mut s : List Char := []
  for _ in [0:(← rest).length] do
    match ← peek with
    | some '\\' =>
      if (← rest).length < 2 then break
      if !(← lineContinuation) then
        let _ ← take 1
        s := (← escape) :: s
    | some '"' =>
      let n ← quotes '"'
      if n < 3 then s := (← take n) ++ s
      else
        s := (← take (min n 5 - 3)) ++ s
        break
    | some c =>
      if isPlain c then s := (← takeWhile isPlain).reverse ++ s
      else if ← newline then s := '\n' :: s
      else break
    | none => break
  if ← skipIf ['"', '"', '"'] then return String.ofList s.reverse else fail none []

def multilineLiteral : Reader String := labelled "multiline literal string" do
  let _ ← newline
  let mut s : List Char := []
  for _ in [0:(← rest).length] do
    match ← peek with
    | some '\'' =>
      let n ← quotes '\''
      if n < 3 then s := (← take n) ++ s
      else
        s := (← take (min n 5 - 3)) ++ s
        break
    | some c =>
      if isLiteral c then s := (← takeWhile isLiteral).reverse ++ s
      else if ← newline then s := '\n' :: s
      else break
    | none => break
  if ← skipIf ['\'', '\'', '\''] then return String.ofList s.reverse else fail none []

def string : Reader String := do
  if ← skipIf ['"', '"', '"'] then multilineBasic
  else if ← skipIf ['"'] then basicString
  else if ← skipIf ['\'', '\'', '\''] then multilineLiteral
  else
    let _ ← take 1
    literalString

/-! ## Keys -/

def isBare (c : Char) : Bool := c.isAlphanum || c = '-' || c = '_'

/-- Keys nest less deep than this, and so do lists. -/
def depthLimit : Nat := 80

def simpleKey? : Reader (Option Key) := do
  let start ← get
  let name ← match start.rest with
    | '"' :: _ =>
      let _ ← take 1
      some <$> basicString
    | '\'' :: _ =>
      let _ ← take 1
      some <$> literalString
    | c :: _ => if isBare c then (some ∘ String.ofList) <$> takeWhile isBare else pure none
    | [] => pure none
  let stop ← get
  let written := start.rest.take (start.rest.length - stop.rest.length)
  return name.map fun n => ⟨n, String.ofList written, ⟨start.offset, stop.offset⟩⟩

/-- A key with its parts, the last apart. -/
def key : Reader (List Key × Key) := do
  let start ← offset
  blanks
  match ← labelled "key" simpleKey? with
  | none => fail (some "key") []
  | some first =>
    blanks
    let mut path : List Key := [first]
    for _ in [0:(← rest).length] do
      let before ← get
      if ← skipIf ['.'] then
        blanks
        match ← labelled "key" simpleKey? with
        | some k =>
          blanks
          path := k :: path
        | none =>
          set before
          break
      else break
    if depthLimit ≤ path.length then failFor start none "recursion limit exceeded"
    return (path.tail.reverse, path.headD first)

/-! ## Numbers and dates -/

def isDigit (c : Char) : Bool := '0' ≤ c && c ≤ '9'

def integerValue (base : Nat) (cs : List Char) : Nat :=
  (cs.filter (· ≠ '_')).foldl (fun n c => base * n + hexValue [c]) 0

/-- Digits after at least one, with single underscores between them. -/
def moreDigits (isDigit : Char → Bool) (label : Option String) : Reader Unit := do
  for _ in [0:(← rest).length] do
    match ← rest with
    | '_' :: r =>
      let _ ← take 1
      if r.head?.any isDigit then
        let _ ← take 1
      else fail label ["digit"]
    | c :: _ =>
      if !isDigit c then return
      let _ ← take 1
    | [] => return

/-- An integer without leading zeros; gives whether there was one. -/
def decimalInteger : Reader Bool := do
  if (← peek).any fun c => c = '+' || c = '-' then
    let _ ← take 1
  match ← peek with
  | some '0' =>
    let _ ← take 1
    return true
  | some c =>
    if isDigit c then
      let _ ← take 1
      moreDigits isDigit (some "integer")
      return true
    else return false
  | none => return false

def paddedDigits (label : String) (expected : List String) : Reader Unit := do
  if (← peek).any isDigit then
    let _ ← take 1
    moreDigits isDigit (some label)
  else fail (some label) expected

/-- Exactly two digits for a number in a range; gives nothing, and passes nothing, if they are not
there. -/
def twoDigits? (lo hi : Nat) : Reader (Option Nat) := do
  match ← rest with
  | a :: b :: _ =>
    if isDigit a && isDigit b then
      let n := 10 * (a.toNat - 48) + (b.toNat - 48)
      if lo ≤ n ∧ n ≤ hi then
        let _ ← take 2
        return some n
    return none
  | _ => return none

def twoDigits (label : String) (lo hi : Nat) : Reader Nat := do
  match ← twoDigits? lo hi with
  | some n => return n
  | none =>
    match ← rest with
    | a :: b :: _ =>
      if isDigit a && isDigit b then failFor (← offset) (some label) "value is out of range"
      else fail (some label) []
    | _ => fail (some label) []

def mustSkip (label : String) (c : Char) : Reader Unit := do
  if !(← skipIf [c]) then fail (some label) []

def time? (label : String) : Reader Bool := do
  let before ← get
  if (← twoDigits? 0 23).isSome then
    if ← skipIf [':'] then
      let _ ← twoDigits label 0 59
      mustSkip label ':'
      let _ ← twoDigits label 0 60
      let fraction := ((← rest).drop 1).takeWhile isDigit
      if (← peek) = some '.' && !fraction.isEmpty then
        let _ ← take (1 + fraction.length)
      return true
  set before
  return false

def timeOffset : Reader Unit := do
  match ← peek with
  | some 'Z' | some 'z' =>
    let _ ← take 1
  | some '+' | some '-' =>
    let _ ← take 1
    let _ ← twoDigits "time offset" 0 23
    mustSkip "time offset" ':'
    let _ ← twoDigits "time offset" 0 59
  | _ => pure ()

def monthLength (year month : Nat) : Nat :=
  if month = 2 then if (year % 4 = 0 ∧ year % 100 ≠ 0) ∨ year % 400 = 0 then 29 else 28
  else if month = 4 ∨ month = 6 ∨ month = 9 ∨ month = 11 then 30 else 31

/-- A date, a time or both; gives whether there was one. -/
def dateTime? : Reader Bool := do
  let year := ((← rest).take 4).takeWhile isDigit
  if year.length = 4 ∧ ((← rest).drop 4).head? = some '-' then
    let label := "date-time"
    let _ ← take 5
    let month ← twoDigits label 1 12
    mustSkip label '-'
    let at_ ← offset
    let day ← twoDigits label 1 31
    if monthLength (integerValue 10 year) month < day then
      failFor at_ (some label) "value is out of range"
    let before ← get
    if (← peek).any fun c => c = 'T' || c = 't' || c = ' ' then
      let _ ← take 1
      if ← time? label then timeOffset else set before
    return true
  else time? "time"

/-- An integer in hexadecimal, octal or binary digits, after `0` and a letter. -/
def radixInteger (label : String) (base : Nat) (isDigit : Char → Bool) : Reader Int := do
  let start ← offset
  let _ ← take 2
  let from_ ← rest
  if (← peek).any isDigit then
    let _ ← take 1
    moreDigits isDigit (some label)
  else fail (some label) []
  let n := integerValue base (from_.take (from_.length - (← rest).length))
  if n < Nat.pow 2 63 then return n
  else failFor (start) none "number too large to fit in target type"

def realOf (cs : List Char) : Float :=
  let cs := cs.filter (· ≠ '_')
  let negative := cs.head? = some '-'
  let cs := cs.dropWhile fun c => c = '-' || c = '+'
  let whole := cs.takeWhile isDigit
  let rest := cs.dropWhile isDigit
  let (fraction, rest) := match rest with
    | '.' :: r => (r.takeWhile isDigit, r.dropWhile isDigit)
    | r => ([], r)
  let exponent : Int := match rest with
    | _ :: '-' :: r => -(integerValue 10 r : Int)
    | _ :: '+' :: r => integerValue 10 r
    | _ :: r => integerValue 10 r
    | [] => 0
  let digits := integerValue 10 (whole ++ fraction)
  let scale := exponent - fraction.length
  let f := Float.ofScientific digits (scale < 0) scale.natAbs
  if negative then -f else f

def number : Reader Scalar := do
  let start ← get
  if ← dateTime? then return .date
  let whole ← decimalInteger
  let label := "floating-point number"
  if whole then
    let real ← match ← peek with
      | some '.' =>
        let _ ← take 1
        paddedDigits label ["digit"]
        pure true
      | _ => pure false
    let scaled ← match ← peek with
      | some 'e' | some 'E' =>
        let _ ← take 1
        if (← peek).any fun c => c = '+' || c = '-' then
          let _ ← take 1
        paddedDigits label []
        pure true
      | _ => pure false
    let written := start.rest.take (start.rest.length - (← rest).length)
    if real || scaled then
      let f := realOf written
      if f.isInf && f > 0.0 then fail (some label) [] else return .real f.toBits
    match start.rest with
    | '0' :: 'x' :: _ =>
      set start
      return .int (← radixInteger "hexadecimal integer" 16 isHex)
    | '0' :: 'o' :: _ =>
      set start
      return .int (← radixInteger "octal integer" 8 fun c => '0' ≤ c && c ≤ '7')
    | '0' :: 'b' :: _ =>
      set start
      return .int (← radixInteger "binary integer" 2 fun c => c = '0' || c = '1')
    | _ =>
      let n := integerValue 10 (written.dropWhile fun c => c = '-' || c = '+')
      if written.head? = some '-' then
        if n ≤ Nat.pow 2 63 then return .int (-(n : Int))
        else failFor (← offset) none "number too small to fit in target type"
      else if n < Nat.pow 2 63 then return .int n
      else failFor (← offset) none "number too large to fit in target type"
  else
    let negative := start.rest.head? = some '-'
    if ← skipIf "inf".toList then
      return .real (if negative then -(1.0 / 0.0) else 1.0 / 0.0 : Float).toBits
    else if ← skipIf "nan".toList then return .real (0.0 / 0.0 : Float).toBits
    else fail (some "integer") []

def word (w : String) (s : Scalar) : Reader Scalar := do
  if ← skipIf w.toList then return s else fail (some "string") ["`\"`", "`'`"]

/-! ## Values -/

def scalar (c : Char) : Reader Scalar := do
  match c with
  | '"' | '\'' => return .str (← string)
  | 't' => word "true" (.bool true)
  | 'f' => word "false" (.bool false)
  | 'i' => word "inf" (.real (1.0 / 0.0 : Float).toBits)
  | 'n' => word "nan" (.real (0.0 / 0.0 : Float).toBits)
  | '_' => fail (some "integer") ["leading digit"]
  | '.' => fail (some "floating-point number") ["leading digit"]
  | c =>
    if isDigit c || c = '+' || c = '-' then number
    else fail (some "string") ["`\"`", "`'`"]

/-- Whether a value may start with a character; without a value a list or table just ends there. -/
def startsValue (cs : List Char) : Bool :=
  match cs with
  | c :: _ =>
    c = '"' || c = '\'' || c = '[' || c = '\x7b' || isDigit c || c = '+' || c = '-' || c = 't' ||
      c = 'f' || c = 'i' || c = 'n'
  | [] => false

/-- Whether no value can be read, though nothing is wrong yet: a sign without a number. -/
def isDeadEnd : List Char → Bool
  | '+' :: r | '-' :: r =>
    !(r.head?.any isDigit) && !"inf".toList.isPrefixOf r && !"nan".toList.isPrefixOf r
  | 'i' :: r => !"nf".toList.isPrefixOf r
  | 'n' :: r => !"an".toList.isPrefixOf r
  | _ => false

mutual

/-- A value. The first argument bounds the recursion, the second is the depth. -/
def value : Nat → Nat → Reader Tree
  | 0, _ => do fail none []
  | n + 1, depth => do
    let start ← offset
    match ← peek with
    | none => fail none []
    | some '[' =>
      if depthLimit ≤ depth + 1 then failFor start none "recursion limit exceeded"
      let _ ← take 1
      let items ← listItems n (depth + 1) []
      if ← skipIf [']'] then return .list ⟨start, ← offset⟩ items
      else fail (some "array") ["`]`"]
    | some '\x7b' =>
      if depthLimit ≤ depth + 1 then failFor start none "recursion limit exceeded"
      let _ ← take 1
      let inside ← offset
      let pairs ← tableItems n (depth + 1) true []
      blanks
      let t ← match pairs.foldlM (fun t p => Table.addValue none p.1.1 p.1.2 p.2 t)
          ⟨none, { inBraces := true }, []⟩ with
        | .ok t => pure t
        | .error f => failFor inside none f.message
      if ← skipIf ['\x7d'] then
        return .table (some ⟨start, ← offset⟩) { inBraces := true } t.entries
      else fail (some "inline table") ["`\x7d`"]
    | some c =>
      let s ← scalar c
      return .scalar ⟨start, ← offset⟩ s

def listItems : Nat → Nat → List Tree → Reader (List Tree)
  | 0, _, done => return done.reverse
  | n + 1, depth, done => do
    let before ← get
    space
    let cs ← rest
    if startsValue cs && !isDeadEnd cs then
      let v ← value n depth
      space
      if ← skipIf [','] then listItems n depth (v :: done)
      else return (v :: done).reverse
    else
      if done.isEmpty then set before
      space
      return done.reverse

/-- The pairs of an inline table; after a comma there must be another for the comma to count. -/
def tableItems : Nat → Nat → Bool → List ((List Key × Key) × Tree) →
    Reader (List ((List Key × Key) × Tree))
  | 0, _, _, done => return done.reverse
  | n + 1, depth, first, done => do
    let before ← get
    if first || (← skipIf [',']) then
      let found ← (fun s => match key s with
        | .ok (k, s) => .ok (some k, s)
        | .error f => if f.label = some "key" then .ok (none, before) else .error f : Reader (Option (List Key × Key)))
      match found with
      | none => return done.reverse
      | some k =>
        if !(← skipIf ['=']) then fail none ["`.`", "`=`"]
        blanks
        let v ← value n depth
        blanks
        tableItems n depth false ((k, v) :: done)
    else return done.reverse

end

/-! ## Lines -/

def valueBound : Reader Nat := return 2 * (← rest).length + 2

def change (at_ : Nat) (label : Option String) (d : Except KeyFault Draft) : Reader Draft :=
  match d with
  | .ok d => pure d
  | .error f => failFor at_ label f.message

/-- A key and its value, up to the end of the line. -/
def keyValue (d : Draft) : Reader Draft := do
  let start ← offset
  let (path, k) ← key
  if !(← skipIf ['=']) then fail none ["`.`", "`=`"]
  blanks
  let v ← value (← valueBound) 0
  lineEnd
  change start none (d.add path k v)

def header (d : Draft) : Reader Draft := labelled "table header" do
  let start ← offset
  if (← rest).length < 2 then fail none []
  let many ← skipIf ['[', '[']
  if !many then
    let _ ← take 1
  let (path, k) ← key
  let ending := if many then [']', ']'] else [']']
  if !(← skipIf ending) then fail none ["`.`", "`" ++ String.ofList ending ++ "`"]
  let span : Span := ⟨start, ← offset⟩
  lineEnd
  let path := path ++ [k]
  change start none (if many then d.openTables path span else d.openTable path span)

def lines : Nat → Draft → Reader Draft
  | 0, d => return d
  | n + 1, d => do
    blanks
    match ← peek with
    | none => return d
    | some '#' =>
      let _ ← comment
      if !(← newline) && !(← rest).isEmpty then fail none []
      lines n d
    | some '[' => lines n (← header d)
    | some c =>
      if c = '\n' ∨ c = '\r' then
        if ← newline then lines n d else fail none []
      else lines n (← keyValue d)

def document : Reader Tree := do
  let _ ← skipIf ['\ufeff']
  let d ← lines ((← rest).length + 1) .start
  match d.finish with
  | .ok t => return t
  | .error f => throw ⟨0, none, [], some f.message⟩

end Reader

/-! ## Telling what is wrong -/

structure Problem where
  message : String
  span : Option Span

/-- The line and the column, from 0, of a byte offset. The column counts characters, but bytes where
the offset is at a character of several. -/
def placeOf (bytes : Nat) (text : List Char) (offset : Nat) : Nat × Nat :=
  if bytes = 0 then (0, offset)
  else
    let safe := min offset (bytes - 1)
    let rec go : Nat → Nat → Nat → Nat → List Char → Nat × Nat
      | _, line, lineStart, _, [] => (line, offset - lineStart)
      | at_, line, lineStart, chars, c :: r =>
        let next := at_ + c.utf8Size
        if safe < next then
          if next = safe + 1 then (line, chars + (offset - safe))
          else (line, safe - lineStart + (offset - safe))
        else if c = '\n' then go next (line + 1) next 0 r
        else go next line lineStart (chars + 1) r
    go 0 0 0 0 text

def Problem.render (text : String) (p : Problem) : String :=
  match p.span with
  | none => p.message ++ "\n"
  | some span =>
    let cs := text.toList
    let (line, column) := placeOf (Text.byteSize cs) cs span.start
    let number := toString (line + 1)
    let content := (text.splitOn "\n").getD line ""
    let gutter := String.ofList (List.replicate (number.length + 1) ' ')
    let stop := min span.stop (span.start + content.utf8ByteSize)
    let carets := 1 + (stop - (span.start + 1))
    "TOML parse error at line " ++ number ++ ", column " ++ toString (column + 1) ++ "\n" ++
      gutter ++ "|\n" ++ number ++ " | " ++ content ++ "\n" ++ gutter ++ "|" ++
      String.ofList (List.replicate (column + 1) ' ') ++
      String.ofList (List.replicate carets '^') ++ "\n" ++ p.message ++ "\n"

def Fault.span (text : List Char) (f : Fault) : Span :=
  match Text.cutAt? text f.offset with
  | some (_, c :: _) => ⟨f.offset, f.offset + c.utf8Size⟩
  | _ => ⟨f.offset, f.offset⟩

def Fault.problem (text : List Char) (f : Fault) : Problem := ⟨f.message, some (f.span text)⟩

def parse (text : String) : Except Problem Tree :=
  let cs := text.toList
  match Reader.document ⟨cs, 0⟩ with
  | .ok (t, _) => .ok t
  | .error f => .error (f.problem cs)

end RuleLint.Toml
