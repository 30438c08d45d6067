/-!
# File paths

A path is kept as it was written. What it denotes is its list of components: repeated separators,
separators at the end and inner `.` do not count. Two paths are the same when their components are,
and paths are ordered by their components.
-/

namespace RuleLint

/-- A component of a path. The order of the constructors is the order of components. -/
inductive Component where
  | root
  | here
  | parent
  | name (text : List Char)
  deriving DecidableEq, Repr

namespace Component

def rank : Component → Nat
  | root => 0
  | here => 1
  | parent => 2
  | name _ => 3

/-- Texts are compared character by character, by code point. -/
def compareText : List Char → List Char → Ordering
  | [], [] => .eq
  | [], _ :: _ => .lt
  | _ :: _, [] => .gt
  | a :: s, b :: t => (compare a.toNat b.toNat).then (compareText s t)

def compare : Component → Component → Ordering
  | name s, name t => compareText s t
  | a, b => Ord.compare a.rank b.rank

def text : Component → List Char
  | root => ['/']
  | here => ['.']
  | parent => ['.', '.']
  | name s => s

end Component

structure FilePath where
  text : String
  deriving DecidableEq, Repr, Inhabited

namespace FilePath

def splitOn (sep : Char) : List Char → List (List Char)
  | [] => [[]]
  | c :: r =>
    if c = sep then [] :: splitOn sep r
    else match splitOn sep r with
      | [] => [[c]]
      | p :: ps => (c :: p) :: ps

def componentOf : List Char → Option Component
  | [] => none
  | ['.'] => none
  | ['.', '.'] => some .parent
  | s => some (.name s)

def isAbsolute (p : FilePath) : Bool := p.text.toList.head? == some '/'

/-- The components of a path. A `.` counts at the very start of a relative path only. -/
def components (p : FilePath) : List Component :=
  let parts := splitOn '/' p.text.toList
  let tail := parts.filterMap componentOf
  if p.isAbsolute then .root :: tail
  else if parts.head? = some ['.'] then .here :: tail
  else tail

def same (p q : FilePath) : Bool := p.components == q.components

def compareComponents : List Component → List Component → Ordering
  | [], [] => .eq
  | [], _ :: _ => .lt
  | _ :: _, [] => .gt
  | a :: s, b :: t => (a.compare b).then (compareComponents s t)

def compare (p q : FilePath) : Ordering := compareComponents p.components q.components

def le (p q : FilePath) : Bool := compare p q != .gt

/-- `q` as seen from `p`: an absolute path stays as it is. -/
def join (p q : FilePath) : FilePath :=
  if q.isAbsolute then q
  else if p.text = "" ∨ p.text.toList.getLast? = some '/' then ⟨p.text ++ q.text⟩
  else ⟨p.text ++ "/" ++ q.text⟩

def fileName? (p : FilePath) : Option (List Char) :=
  match p.components.getLast? with
  | some (.name s) => some s
  | _ => none

/-- What follows the last point of a name, unless that point comes first. -/
def extensionOf (name : List Char) : Option (List Char) :=
  let tail := name.reverse.takeWhile (· != '.')
  match name.reverse.dropWhile (· != '.') with
  | [] => none
  | _ :: before => if before = [] then none else some tail.reverse

def extension? (p : FilePath) : Option String :=
  (p.fileName?.bind extensionOf).map String.ofList

end FilePath

end RuleLint
