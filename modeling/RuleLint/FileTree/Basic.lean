import RuleLint.FilePath

/-!
# File trees

A file tree is a value: directories with named entries, files and symbolic links. A path is looked
up component by component, links being followed, at most forty of them. A component after a file is
an error, and so is a separator at the end of a path to a file.
-/

namespace RuleLint

/-- What a file holds: a text, or bytes that are no text. -/
inductive Content where
  | text (s : String)
  | binary (bytes : List UInt8)
  deriving DecidableEq, Repr

inductive Node where
  | file (content : Content)
  | dir (entries : List (String × Node))
  | link (target : FilePath)
  deriving Repr, Inhabited

inductive FileError where
  | notFound
  | taken
  | notDirectory
  | isDirectory
  | tooManyLinks
  | notText
  deriving DecidableEq, Repr

def FileError.message : FileError → String
  | notFound => "No such file or directory (os error 2)"
  | taken => "File exists (os error 17)"
  | notDirectory => "Not a directory (os error 20)"
  | isDirectory => "Is a directory (os error 21)"
  | tooManyLinks => "Too many levels of symbolic links (os error 40)"
  | notText => "stream did not contain valid UTF-8"

namespace Node

def emptyDir : Node := dir []

def child? (entries : List (String × Node)) (name : String) : Option Node :=
  (entries.find? fun e => e.1 = name).map (·.2)

def setEntry (name : String) (node : Node) : List (String × Node) → List (String × Node)
  | [] => [(name, node)]
  | (k, n) :: r =>
    if name = k then (name, node) :: r
    else if name < k then (name, node) :: (k, n) :: r
    else (k, n) :: setEntry name node r

/-- The node below a directory, no link being followed. -/
def at? : Node → List String → Option Node
  | n, [] => some n
  | dir entries, name :: r => (child? entries name).bind (·.at? r)
  | _, _ :: _ => none

/-- Puts a node below a directory; directories on the way that are not there are made. -/
def put : Node → List String → Node → Node
  | _, [], new => new
  | dir entries, name :: r, new =>
    dir (setEntry name (((child? entries name).getD emptyDir).put r new) entries)
  | _, name :: r, new => dir [(name, emptyDir.put r new)]

def remove : Node → List String → Node
  | dir entries, [name] => dir (entries.filter fun e => e.1 ≠ name)
  | dir entries, name :: r =>
    match child? entries name with
    | some n => dir (setEntry name (n.remove r) entries)
    | none => dir entries
  | n, _ => n

mutual

def depth : Node → Nat
  | dir entries => entriesDepth entries + 1
  | _ => 0

def entriesDepth : List (String × Node) → Nat
  | [] => 0
  | (_, n) :: r => max n.depth (entriesDepth r)

end

end Node

/-- A tree below `/` and the directory that relative paths start from. -/
structure FileTree where
  root : Node
  current : List String
  deriving Repr

namespace FileTree

/-- A step of a path. `stay` is an empty part or a `.`, which only a directory can have. -/
inductive Step where
  | top
  | stay
  | up
  | down (name : String)
  deriving DecidableEq, Repr

def steps (p : FilePath) : List Step :=
  let step (part : List Char) : Step :=
    if part = [] ∨ part = ['.'] then .stay
    else if part = ['.', '.'] then .up
    else .down (String.ofList part)
  match FilePath.splitOn '/' p.text.toList with
  | [] :: r => .top :: r.map step
  | parts => parts.map step

/-- Where a path leads: to a node, or to a name that a directory has no entry for. -/
inductive Place where
  | taken (names : List String)
  | vacant (dir : List String) (name : String)
  deriving DecidableEq, Repr

def linkLimit : Nat := 40

/-- Follows steps from a directory. A link at the end is followed if `final` says so. -/
def follow (root : Node) (final : Bool) (links : Nat) (at_ : List String) (todo : List Step) :
    Except FileError Place :=
  match todo with
  | [] => .ok (.taken at_)
  | .top :: r => follow root final links [] r
  | step :: r =>
    match root.at? at_ with
    | some (.dir entries) =>
      match step with
      | .top | .stay => follow root final links at_ r
      | .up => follow root final links at_.dropLast r
      | .down name =>
        match Node.child? entries name with
        | none => if r.isEmpty then .ok (.vacant at_ name) else .error .notFound
        | some (.link target) =>
          if r.isEmpty && !final then .ok (.taken (at_ ++ [name]))
          else match links with
            | 0 => .error .tooManyLinks
            | links + 1 => follow root final links at_ (steps target ++ r)
        | some _ => follow root final links (at_ ++ [name]) r
    | _ => .error .notDirectory
termination_by (links, todo.length)

def locate (t : FileTree) (p : FilePath) (final : Bool) : Except FileError Place :=
  if p.text = "" then .error .notFound
  else follow t.root final linkLimit t.current (steps p)

def canonicalNames (t : FileTree) (p : FilePath) : Except FileError (List String) := do
  match ← t.locate p true with
  | .taken names => return names
  | .vacant _ _ => throw .notFound

def pathOf (names : List String) : FilePath := ⟨"/" ++ "/".intercalate names⟩

def canonical (t : FileTree) (p : FilePath) : Except FileError FilePath :=
  return pathOf (← t.canonicalNames p)

def node (t : FileTree) (p : FilePath) : Except FileError Node := do
  match t.root.at? (← t.canonicalNames p) with
  | some n => return n
  | none => throw .notFound

/-! ## Questions -/

def isFile (t : FileTree) (p : FilePath) : Bool :=
  match t.node p with
  | .ok (.file _) => true
  | _ => false

def isDir (t : FileTree) (p : FilePath) : Bool :=
  match t.node p with
  | .ok (.dir _) => true
  | _ => false

def isThere (t : FileTree) (p : FilePath) : Bool :=
  match t.node p with
  | .ok _ => true
  | _ => false

/-- Whether a path leads to something, if only to a link. -/
def isTaken (t : FileTree) (p : FilePath) : Bool :=
  match t.locate p false with
  | .ok (.taken _) => true
  | _ => false

def readText (t : FileTree) (p : FilePath) : Except FileError String := do
  match ← t.node p with
  | .file (.text s) => return s
  | .file (.binary _) => throw .notText
  | .dir _ => throw .isDirectory
  | .link _ => throw .notFound

def content? (t : FileTree) (p : FilePath) : Option Content :=
  match t.node p with
  | .ok (.file c) => some c
  | _ => none

def entries (t : FileTree) (p : FilePath) : Except FileError (List (String × Node)) := do
  match ← t.node p with
  | .dir entries => return entries
  | _ => throw .notDirectory

/-! ## Changes -/

def withoutEnd (p : FilePath) : FilePath :=
  ⟨String.ofList ((p.text.toList.reverse.dropWhile (· = '/')).reverse)⟩

/-- Writes a file, which is made if there is none; its directory must be there. A path with a separator
at its end is one of a directory, whether it is there or not. -/
def write (t : FileTree) (p : FilePath) (text : String) : Except FileError FileTree := do
  let file := Node.file (.text text)
  if withoutEnd p ≠ p then
    if (withoutEnd p).text ≠ "" then let _ ← t.locate (withoutEnd p) false
    throw .isDirectory
  match ← t.locate p true with
  | .vacant dir name => return { t with root := t.root.put (dir ++ [name]) file }
  | .taken names =>
    match t.root.at? names with
    | some (.dir _) => throw .isDirectory
    | _ => return { t with root := t.root.put names file }

def makeDir (t : FileTree) (p : FilePath) : Except FileError FileTree := do
  match ← t.locate p false with
  | .vacant dir name => return { t with root := t.root.put (dir ++ [name]) .emptyDir }
  | .taken _ => throw .taken

end FileTree

namespace Node

def plant (n : Node) (base : List String) (p : FilePath) (new : Node) : Node :=
  let names := p.components.filterMap fun
    | .name s => some (String.ofList s)
    | _ => none
  n.put (base ++ names) new

end Node

end RuleLint
