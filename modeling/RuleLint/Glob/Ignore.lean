import RuleLint.Text.Lines
import RuleLint.Text.Blank
import RuleLint.Text.Position
import RuleLint.FilePath

/-!
# Ignore files

Each line of an ignore file is a glob for paths below its directory. The last line that matches a
path decides; a line after `!` takes a path in again. A path that no line matches is decided by the
nearest directory above it that some line matches. Globs are compared with paths byte by byte.
-/

namespace RuleLint.Ignore

/-! ## Globs -/

inductive Token where
  | byte (b : UInt8)
  | anyByte
  | anySequence
  | leadingDirs
  | trailingPath
  | betweenDirs
  | class (negated : Bool) (ranges : List (UInt8 × UInt8))
  deriving DecidableEq, Repr

def slash : UInt8 := 47

def bytesOf (c : Char) : List UInt8 := (String.ofList [c]).toUTF8.toList

def bytesOfText (s : String) : List UInt8 := s.toUTF8.toList

/-- A member of a class by its bytes: the bytes of the first character up to those of the last. -/
def byteRanges (r : Char × Char) : List (UInt8 × UInt8) :=
  if r.1 = r.2 then (bytesOf r.1).map fun b => (b, b)
  else
    let first := bytesOf r.1
    let last := bytesOf r.2
    first.dropLast.map (fun b => (b, b)) ++ [(first.getLast?.getD 0, last.head?.getD 0)] ++
      (last.drop 1).map fun b => (b, b)

inductive GlobFault where
  | danglingEscape
  | emptyRange
  | unopenedGroup
  | unclosedGroup
  deriving DecidableEq, Repr

/-- The members of a class, latest first; in `pending` a hyphen has been read after the latest. -/
structure ClassReading where
  ranges : List (Char × Char)
  first : Bool
  pending : Bool

/-- A class after its bracket and negation: its members and the text after it, or nothing when it
has no end. -/
def readClass (s : ClassReading) : List Char → Except GlobFault (Option (List (Char × Char) × List Char))
  | [] => .ok none
  | c :: r =>
    let extend (c : Char) : Except GlobFault (List (Char × Char)) :=
      match s.ranges with
      | (a, _) :: rest => if c < a then .error .emptyRange else .ok ((a, c) :: rest)
      | [] => .ok [(c, c)]
    if c = ']' ∧ !s.first then
      let ranges := if s.pending then ('-', '-') :: s.ranges else s.ranges
      .ok (some (ranges.reverse, r))
    else if c = '-' ∧ !s.first ∧ !s.pending then readClass { s with pending := true } r
    else if s.pending then
      match extend c with
      | .error f => .error f
      | .ok ranges => readClass ⟨ranges, false, false⟩ r
    else readClass ⟨(c, c) :: s.ranges, false, false⟩ r

/-- A glob being read: finished alternatives of each open group and the tokens of the current one,
latest first, the innermost group first. -/
structure Level where
  alternatives : List (List (List Token))
  current : List (List Token)

def push (t : Token) (l : List (List Token)) : List (List Token) := l.map (t :: ·)

/-- Leaves a group: each reading before it goes on with each alternative that is not empty. -/
def leave (inner outer : Level) : Level :=
  let parts := (inner.current :: inner.alternatives).reverse.filter (· ≠ [[]])
  if parts.isEmpty then outer
  else { outer with current := outer.current.flatMap fun s => parts.flatten.map (· ++ s) }

def lastToken? (l : Level) : Option Token := l.current.head?.bind List.head?

def Level.push (t : Token) (l : Level) : Level := { l with current := Ignore.push t l.current }

def Level.replaceLast (t : Token) (l : Level) : Level :=
  { l with current := l.current.map fun s => t :: s.drop 1 }

/-- What stars become: two or more at `before`, with `r` after them. -/
def readStars (nested : Bool) (before : Option Char) (l : Level) (r : List Char) : Level × List Char :=
  let plain := (Level.push .anySequence (Level.push .anySequence l), r)
  let empty := l.current.all List.isEmpty
  if empty then
    match r with
    | [] => (Level.push .leadingDirs l, [])
    | '/' :: rest => (Level.push .leadingDirs l, rest)
    | _ => plain
  else if before ≠ some '/' ∧ (!nested ∨ (before ≠ some ',' ∧ before ≠ some '\x7b')) then plain
  else
    let joined (suffix : Bool) : Level :=
      match lastToken? l with
      | some .leadingDirs => l
      | some .trailingPath => l
      | _ => Level.replaceLast (if suffix then .trailingPath else .betweenDirs) l
    match r with
    | [] => (joined true, [])
    | '/' :: rest => (joined false, rest)
    | c :: _ => if nested ∧ (c = ',' ∨ c = '\x7d') then (joined true, r) else plain

/-- The sequences of tokens that a glob stands for. `open_` tells that a bracket without an end has
been met, after which brackets have no meaning. -/
def readGlob : Nat → Bool → Option Char → Level → List Level → List Char →
    Except GlobFault (List (List Token))
  | 0, _, _, l, _, _ => .ok l.current
  | _ + 1, _, _, l, [], [] => .ok (l.current.map List.reverse)
  | _ + 1, _, _, _, _ :: _, [] => .error .unclosedGroup
  | n + 1, open_, before, l, outer, c :: r =>
    let literal (c : Char) (l : Level) : Level := (bytesOf c).foldl (fun l b => l.push (.byte b)) l
    match c with
    | '?' => readGlob n open_ (some c) (l.push .anyByte) outer r
    | '*' =>
      match r with
      | '*' :: r =>
        let (l', r') := readStars (!outer.isEmpty) before l r
        let before := if r'.length < r.length then some '/' else some '*'
        readGlob n open_ before l' outer r'
      | r => readGlob n open_ (some c) (l.push .anySequence) outer r
    | '[' =>
      if open_ then readGlob n open_ (some c) (literal c l) outer r
      else
        let (negated, inside) := match r with
          | '!' :: s | '^' :: s => (true, s)
          | s => (false, s)
        match readClass ⟨[], true, false⟩ inside with
        | .error f => .error f
        | .ok none => readGlob n true (some c) (literal c l) outer r
        | .ok (some (ranges, rest)) =>
          readGlob n open_ (some ']') (l.push (.class negated (ranges.flatMap byteRanges))) outer rest
    | '\x7b' => readGlob n open_ (some c) ⟨[], [[]]⟩ (l :: outer) r
    | '\x7d' =>
      match outer with
      | [] => .error .unopenedGroup
      | o :: outer => readGlob n open_ (some c) (leave l o) outer r
    | ',' =>
      if outer.isEmpty then readGlob n open_ (some c) (literal c l) outer r
      else readGlob n open_ (some c) ⟨l.current :: l.alternatives, [[]]⟩ outer r
    | '\\' =>
      match r with
      | [] => .error .danglingEscape
      | d :: r => readGlob n open_ (some d) (literal d l) outer r
    | c => readGlob n open_ (some c) (literal c l) outer r

def parseGlob (s : String) : Except GlobFault (List (List Token)) :=
  readGlob (s.length + 1) false none ⟨[], [[]]⟩ [] s.toList

/-! ## Matching -/

/-- What is left when bytes other than separators are taken away. -/
def withinComponent : List UInt8 → List (List UInt8)
  | [] => [[]]
  | c :: r => (c :: r) :: (if c = slash then [] else withinComponent r)

def afterSlashes : List UInt8 → List (List UInt8)
  | [] => []
  | c :: r => if c = slash then r :: afterSlashes r else afterSlashes r

def endsOf : List UInt8 → List (List UInt8)
  | [] => [[]]
  | c :: r => (c :: r) :: endsOf r

def matchesTokens : List Token → List UInt8 → Bool
  | [], cs => cs.isEmpty
  | [.leadingDirs], _ => true
  | .leadingDirs :: ts, cs => (cs :: afterSlashes cs).any fun r => matchesTokens ts r
  | .betweenDirs :: ts, c :: r => c = slash && (r :: afterSlashes r).any fun r => matchesTokens ts r
  | .trailingPath :: ts, c :: r => c = slash && (endsOf r).any fun r => matchesTokens ts r
  | .anySequence :: ts, cs => (withinComponent cs).any fun r => matchesTokens ts r
  | .byte b :: ts, c :: r => b = c && matchesTokens ts r
  | .anyByte :: ts, c :: r => c ≠ slash && matchesTokens ts r
  | .class negated ranges :: ts, c :: r =>
    (ranges.any fun p => p.1 ≤ c && c ≤ p.2) != negated && matchesTokens ts r
  | _ :: _, [] => false

/-! ## Lines -/

structure Line where
  globs : List (List Token)
  includes : Bool
  dirOnly : Bool

def anchored (absolute : Bool) (glob : List Char) : List Char :=
  let glob :=
    if absolute ∨ glob.contains '/' ∨ glob = ['*', '*'] then glob else '*' :: '*' :: '/' :: glob
  if "/**".toList.isSuffixOf glob then glob ++ ['/', '*'] else glob

/-- A line, unless it is empty or a comment. -/
def readLine (text : List Char) : Except GlobFault (Option Line) := do
  if text.head? = some '#' then return none
  let text := if "\\ ".toList.isSuffixOf text then text else Text.trimEnd text
  if text.isEmpty then return none
  let (includes, absolute, glob) := match text with
    | '\\' :: '!' :: r => (false, false, '!' :: r)
    | '\\' :: '#' :: r => (false, false, '#' :: r)
    | '!' :: '/' :: r => (true, true, r)
    | '!' :: r => (true, false, r)
    | '/' :: r => (false, true, r)
    | r => (false, false, r)
  let dirOnly := glob.getLast? = some '/'
  let glob := if dirOnly then glob.dropLast else glob
  let glob := if dirOnly ∧ glob.getLast? = some '\\' then glob.dropLast else glob
  return some ⟨← parseGlob (String.ofList (anchored absolute glob)), includes, dirOnly⟩

def readLines (lines : List (List Char)) : List Line × Bool :=
  lines.foldr (fun text (usable, fine) =>
    match readLine text with
    | .ok none => (usable, fine)
    | .ok (some l) => (l :: usable, fine)
    | .error _ => (usable, false)) ([], true)

/-- The lines of an ignore file, a mark at its start aside. -/
def parse (text : String) : List Line × Bool :=
  readLines <| match Text.lines text.toList with
  | l :: r => l.dropWhile (· = '\ufeff') :: r
  | [] => []

/-- The text of the lines before the first that is no text. -/
def readableStart (bytes : List UInt8) : String :=
  let rec go : List UInt8 → List UInt8 → String
    | _, [] => ""
    | line, b :: r =>
      if b = 10 then
        match String.fromUTF8? ⟨(b :: line).reverse.toArray⟩ with
        | some s => s ++ go [] r
        | none => ""
      else go (b :: line) r
  go [] bytes

/-! ## Deciding -/

inductive Decision where
  | none
  | ignored
  | included
  deriving DecidableEq, Repr

/-- What the last line that matches a path says. -/
def decide (lines : List Line) (path : List Char) (isDir : Bool) : Decision :=
  let bytes := bytesOfText (String.ofList path)
  match lines.reverse.find? fun l => (!l.dirOnly || isDir) && l.globs.any (matchesTokens · bytes) with
  | some l => if l.includes then .included else .ignored
  | Option.none => .none

def parent? (path : List Char) : Option (List Char) :=
  match path with
  | [] => none
  | path =>
    let dir := (path.reverse.dropWhile (· ≠ '/')).dropWhile (· = '/')
    some dir.reverse

def decideUpwards (lines : List Line) : Nat → List Char → Bool → Decision
  | 0, _, _ => .none
  | n + 1, path, isDir =>
    match decide lines path isDir with
    | .none =>
      match parent? path with
      | some dir => decideUpwards lines n dir true
      | Option.none => .none
    | d => d

def ignores (lines : List Line) (path : List Char) : Bool :=
  !lines.isEmpty && decideUpwards lines (path.length + 2) path false = .ignored

end RuleLint.Ignore
