import RuleLint.FileTree.Basic
import RuleLint.Glob.Pattern

/-!
# Expanding globs

A glob is expanded against a file tree component by component. A component without special
characters is looked up; any other is compared with the entries of a directory. Links to directories
are followed. Paths are built by joining names, so a `..` of the glob stays in them.
-/

namespace RuleLint.Glob

structure Reached where
  path : FilePath
  isDir : Bool

/-- A pattern for paths: one for each component below `/`. `dirOnly` tells that only directories match. -/
structure PathPattern where
  parts : List Pattern
  dirOnly : Bool

/-- The parts of a text between separators; nothing follows a separator at the end. -/
def partsOf (cs : List Char) : List (List Char) :=
  let parts := FilePath.splitOn '/' cs
  if parts.getLast? = some [] then parts.dropLast else parts

def PathPattern.ofText? (s : String) : Option PathPattern := do
  let _ ← Pattern.ofText? s
  let cs := s.toList
  let parts ← (partsOf (cs.drop 1)).mapM fun p => Pattern.ofText? (String.ofList p)
  return ⟨parts, cs.getLast? = some '/'⟩

def PathPattern.admits (g : PathPattern) (r : Reached) : Bool := !g.dirOnly || r.isDir

/-- Patterns without the recursive ones at their start, all but the last of which are superfluous. -/
def afterRecursive : List Pattern → List Pattern
  | [] => []
  | p :: r => if p.isRecursive then afterRecursive r else p :: r

mutual

/-- The paths that match, below a path that has been reached, the patterns left. The first argument
bounds the depth of the search. -/
def below (t : FileTree) (g : PathPattern) : Nat → List Pattern → Reached → List FilePath
  | 0, _, _ => []
  | _, [], _ => []
  | n + 1, p :: rest, dir =>
    match p.literal? with
    | some s =>
      let path := dir.path.join ⟨s⟩
      let next : Reached := ⟨path, t.isDir path⟩
      let special := s = "." ∨ s = ".."
      if if special then dir.isDir else t.isTaken path then
        if rest.isEmpty then (if g.admits next then [path] else []) else below t g n rest next
      else []
    | none =>
      if dir.isDir then
        let children := ((t.entries dir.path).toOption.getD []).flatMap fun e =>
          let path := dir.path.join ⟨e.1⟩
          at_ t g n (p :: rest) ⟨path, t.isDir path⟩
        let special := if p.tokens.head? = some (.char '.') then
            [".", ".."].flatMap fun s =>
              if p.matchesText s.toList then
                let path := dir.path.join ⟨s⟩
                let next : Reached := ⟨path, t.isDir path⟩
                if rest.isEmpty then (if g.admits next then [path] else []) else below t g n rest next
              else []
          else []
        special ++ children
      else []

/-- The paths that match the patterns left, the first of which is compared with the last component
of the path. -/
def at_ (t : FileTree) (g : PathPattern) : Nat → List Pattern → Reached → List FilePath
  | 0, _, _ => []
  | _, [], _ => []
  | n + 1, p :: rest, here =>
    if p.isRecursive then
      match afterRecursive rest with
      | [] => if here.isDir then here.path :: below t g n [p] here else []
      | next :: more =>
        named t g n next more here ++ (if here.isDir then below t g n (p :: next :: more) here else [])
    else named t g n p rest here

/-- The paths that match when a pattern is compared with the name of a path. -/
def named (t : FileTree) (g : PathPattern) : Nat → Pattern → List Pattern → Reached → List FilePath
  | 0, _, _, _ => []
  | n + 1, p, rest, here =>
    match here.path.fileName? with
    | none => []
    | some name =>
      if p.matchesText name then
        if rest.isEmpty then (if g.admits here then [here.path] else []) else below t g n rest here
      else []

end

/-- A bound for the depth of a search: it descends directories, enters links and uses up patterns. -/
def searchDepth (t : FileTree) (g : PathPattern) : Nat :=
  3 * ((FileTree.linkLimit + 1) * (t.root.depth + 2) + g.parts.length + 1)

def PathPattern.expand (t : FileTree) (g : PathPattern) : List FilePath :=
  below t g (searchDepth t g) g.parts ⟨⟨"/"⟩, true⟩

end RuleLint.Glob
