import RuleLint.FileTree.Basic

/-!
# Changes of file trees

What a program does to files: it writes some and makes directories. Changes are made one after the
other up to the first that cannot be made; those before it stay.
-/

namespace RuleLint

inductive Change where
  | write (path : FilePath) (text : String)
  | makeDirs (path : FilePath)
  deriving DecidableEq, Repr

namespace FileTree

/-- The paths that a path goes through, the path itself first. -/
def pathsTo (p : FilePath) : List FilePath :=
  let parts := (p.components.map Component.text).map String.ofList
  let paths := (List.range (parts.length + 1)).map fun n =>
    match parts.take n with
    | "/" :: names => FilePath.mk ("/" ++ "/".intercalate names)
    | names => ⟨"/".intercalate names⟩
  (paths.drop 1).reverse

/-- Makes the first of some directories, each of which is to be in the next. -/
def makeFirst (t : FileTree) : List FilePath → Except FileError FileTree
  | [] => .ok t
  | p :: outer =>
    let settle (t : FileTree) (e : FileError) := if t.isDir p then .ok t else .error e
    match t.makeDir p with
    | .ok made => .ok made
    | .error .notFound =>
      match makeFirst t outer with
      | .error e => .error e
      | .ok t =>
        match t.makeDir p with
        | .ok made => .ok made
        | .error e => settle t e
    | .error e => settle t e

def apply (t : FileTree) : Change → Except FileError FileTree
  | .write path text => t.write path text
  | .makeDirs path => t.makeFirst (pathsTo path)

/-- Makes changes up to the first that cannot be made: those made, the tree then, and the error. -/
def applyAll (t : FileTree) : List Change → List Change × FileTree × Option FileError
  | [] => ([], t, none)
  | c :: r =>
    match t.apply c with
    | .error e => ([], t, some e)
    | .ok t =>
      let (made, t, e) := applyAll t r
      (c :: made, t, e)

end FileTree

end RuleLint
