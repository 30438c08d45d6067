import RuleLint.Command.Program
import RuleLint.Report.Guid
import Std.Time.Zoned

/-!
# The command line

The files that a command line is about are read into a tree, the program does what it is asked for on
that tree, and the changes that it makes are made to the files.
-/

namespace RuleLint.CommandLine

/-! ## Reading files -/

def attempt {α : Type} (action : IO α) : IO (Option α) := do
  try return some (← action) catch _ => return none

def realPath? (path : String) : IO (Option String) :=
  attempt do return (← IO.FS.realPath path).toString

/-- The kind of what is at a path, a link not being followed. -/
def kind? (path : String) : IO (Option IO.FS.FileType) :=
  attempt do return (← (System.mkFilePath [path]).symlinkMetadata).type

def readFile (path : String) : IO (Option Node) :=
  attempt do
    let bytes ← IO.FS.readBinFile path
    return .file (match String.fromUTF8? bytes with
      | some s => .text s
      | none => .binary bytes.toList)

def readLink (path : String) : IO (Option Node) := do
  return (← realPath? path).map fun target => .link ⟨target⟩

/-- What is at a path, with all that is below it, and where the links in it lead. -/
partial def readBelow (path : String) : IO (Option Node × List String) := do
  match ← kind? path with
  | some .dir =>
    let mut below := Node.emptyDir
    let mut targets := []
    for entry in (← attempt (System.mkFilePath [path]).readDir).getD #[] do
      let (node, more) ← readBelow entry.path.toString
      targets := more ++ targets
      if let some node := node then below := below.put [entry.fileName] node
    return (some below, targets)
  | some .file => return (← readFile path, [])
  | some .symlink => return (← readLink path, (← realPath? path).toList)
  | _ => return (none, [])

/-- Adds all that is below paths without links, and below those that links in it lead to. -/
partial def addBelow (t : FileTree) (done : List String) : List String → IO FileTree
  | [] => return t
  | path :: rest => do
    if done.contains path then addBelow t done rest
    else
      let (node, targets) ← readBelow path
      let root := node.elim t.root fun n => t.root.plant [] ⟨path⟩ n
      addBelow { t with root } (path :: done) (targets ++ rest)

/-- Adds what is at paths, each of which is in the next. -/
def addOnWay (t : FileTree) : List FilePath → IO FileTree
  | [] => return t
  | p :: outer => do
    let t ← addOnWay t outer
    if t.isTaken p then return t
    let node ← match ← kind? p.text with
      | some .dir => pure (some .emptyDir)
      | some .file => readFile p.text
      | some .symlink => readLink p.text
      | _ => pure none
    match t.locate p false, node with
    | .ok (.vacant dir name), some n =>
      let t := { t with root := t.root.put (dir ++ [name]) n }
      match n with
      | .link target => addBelow t [] [target.text]
      | _ => return t
    | _, _ => return t

def addPath (t : FileTree) (p : FilePath) (search : Bool) : IO FileTree := do
  if p.text = "" then return t
  let t ← addOnWay t (FileTree.pathsTo p)
  match search, ← realPath? p.text with
  | true, some real => addBelow t [] [real]
  | _, _ => return t

def filesFor (request : Command.Request) : IO FileTree := do
  let here := (← realPath? ".").getD "/"
  let names := (FilePath.mk here).components.filterMap fun
    | .name s => some (String.ofList s)
    | _ => none
  let t : FileTree := { root := Node.emptyDir.put names .emptyDir, current := names }
  match request with
  | .command c options operands =>
    let run := Command.Options.run options c operands none
    let mut t ← addPath t run.base true
    for p in [Config.fileName, Discovery.domainsDir] ++ run.configPath.toList ++ run.rulePaths ++
        ((Command.Options.value? options "output").map FilePath.mk).toList do
      t ← addPath t p false
    match Linting.loadConfig t run with
    | .ok config => addPath t (run.base.join config.domainsDir) true
    | .error _ => return t
  | _ => return t

/-! ## Running -/

def today : IO Date := do
  let d ← Std.Time.PlainDate.now
  return ⟨d.year.toInt, d.month.val.toNat, d.day.val.toNat⟩

def newGuid : IO String := do
  return Guid.ofBytes (← (List.range 16).mapM fun _ => return UInt8.ofNat (← IO.rand 0 255))

def mayColor : IO Bool := do
  let wanted := (← IO.getEnv "NO_COLOR").all (· = "")
  return wanted && (← (← IO.getStdout).isTty)

def perform : Change → IO Unit
  | .write path text => IO.FS.writeFile path.text text
  | .makeDirs path => IO.FS.createDirAll path.text

def printNotice (n : Notice) : IO Unit := do
  let fields := String.join (n.fields.map fun f => " " ++ f.1 ++ "=" ++ f.2)
  IO.eprintln ((if n.isError then "ERROR " else "WARN ") ++ n.message ++ fields)

def run (words : List String) : IO UInt32 := do
  let t ← filesFor (Command.programSpec.request words)
  let env : Command.Environment :=
    { today := ← today, guid := ← newGuid, color := ← mayColor }
  let o := Command.execute env t words
  o.notices.forM printNotice
  o.changes.forM perform
  IO.eprint o.stderr
  IO.print o.stdout
  return UInt32.ofNat o.exitCode

end RuleLint.CommandLine

def main (words : List String) : IO UInt32 := do
  try RuleLint.CommandLine.run words
  catch e =>
    IO.eprintln ("error: " ++ toString e)
    return UInt32.ofNat RuleLint.LintError.exitCode
