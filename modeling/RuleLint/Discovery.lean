import RuleLint.Glob.Expand
import RuleLint.Glob.Ignore
import RuleLint.Notice

/-!
# Finding files

The files of a rule set are those that match one of its patterns below a base directory, less those
that match an exclusion and, if asked for, those that the ignore file of the base leaves out. Paths
are absolute, in order, and each occurs once. Rule documents are the files with their suffix in a
directory.
-/

namespace RuleLint.Discovery

def domainsDir : FilePath := ⟨".flight/domains"⟩

def rulesSuffix : String := ".rules.json"

def defaultExcludes : List String :=
  ["**/node_modules/**", "**/bower_components/**", "**/vendor/**", "**/.venv/**", "**/venv/**",
   "**/dist/**", "**/build/**", "**/target/**", "**/.next/**", "**/.git/**", "**/.hg/**",
   "**/.svn/**", "**/.idea/**", "**/.vscode/**", "**/coverage/**", "**/.cache/**",
   "**/__pycache__/**", "**/.pytest_cache/**", "**/fixtures/**", "**/test-fixtures/**",
   "**/.flight/**"]

structure Options where
  extraExcludes : List String := []
  respectIgnoreFile : Bool := false

/-- A pattern without the `./` at its start. -/
def trimHere : List Char → List Char
  | '.' :: '/' :: r => trimHere r
  | r => r

def trimHereText (s : String) : String := String.ofList (trimHere s.toList)

def insertPath (p : FilePath) : List FilePath → List FilePath
  | [] => [p]
  | q :: r =>
    match p.compare q with
    | .lt => p :: q :: r
    | .eq => q :: r
    | .gt => q :: insertPath p r

/-- The paths of a list in order, each once. -/
def sortPaths (paths : List FilePath) : List FilePath :=
  paths.foldl (fun acc p => insertPath p acc) []

/-! ## Exclusion -/

/-- The patterns that can be used among texts, and a notice for each that cannot. -/
def excludePatterns (texts : List String) : Noted (List Glob.Pattern) :=
  texts.foldr (fun s (patterns, notices) =>
    let s := trimHereText s
    match Glob.Pattern.ofText? s with
    | some p => (p :: patterns, notices)
    | none => (patterns, .badExclude s :: notices)) ([], [])

/-- The parts of a path that count when it is shown: none is empty or `.` at either end. -/
def trimParts (parts : List (List Char)) : List (List Char) :=
  let blank (p : List Char) : Bool := p = [] || p = ['.']
  ((parts.dropWhile blank).reverse.dropWhile blank).reverse

def relativeTo (base path : FilePath) : Option (List Char) :=
  if base.components.isPrefixOf path.components then
    let parts := FilePath.splitOn '/' path.text.toList
    let left := skipNames (base.components.length - 1) (parts.drop 1)
    some (['/'].intercalate (trimParts left))
  else none
where
  /-- Passes over parts until `n` of them have counted. -/
  skipNames : Nat → List (List Char) → List (List Char)
    | 0, parts => parts
    | _, [] => []
    | n + 1, p :: r =>
      if (FilePath.componentOf p).isSome then skipNames n r else skipNames (n + 1) r

def ignoreLines (t : FileTree) (base : FilePath) : Noted (List Ignore.Line) :=
  let path := base.join ⟨".gitignore"⟩
  match t.content? path with
  | none => ([], [])
  | some (.text s) =>
    let (lines, fine) := Ignore.parse s
    (lines, if fine then [] else [.badIgnoreFile path])
  | some (.binary bytes) =>
    ((Ignore.parse (Ignore.readableStart bytes)).1, [.badIgnoreFile path])

def ignorePath (base path : FilePath) : List Char :=
  let b := base.text.toList
  let p := path.text.toList
  if b.isPrefixOf p then
    match p.drop b.length with
    | '/' :: r => r
    | r => r
  else p

/-! ## Files -/

/-- The files below a base directory that a pattern matches; an unusable pattern matches none. -/
def matching (t : FileTree) (base : FilePath) (pattern : String) : Noted (List FilePath) :=
  let pattern := trimHereText pattern
  let escaped := (Glob.Pattern.escape base.text).toList.reverse.dropWhile (· = '/')
  match Glob.PathPattern.ofText? (String.ofList escaped.reverse ++ "/" ++ pattern) with
  | none => ([], [.badFilePattern pattern])
  | some g => ((g.expand t).filter t.isFile, [])

def keeps (base : FilePath) (excludes : List Glob.Pattern) (lines : List Ignore.Line)
    (path : FilePath) : Bool :=
  match relativeTo base path with
  | none => false
  | some relative =>
    !(excludes.any fun p => p.matchesText relative) && !Ignore.ignores lines (ignorePath base path)

def files (t : FileTree) (patterns excludes : List String) (base : FilePath) (options : Options) :
    Noted (List FilePath) :=
  match t.canonical base with
  | .error _ => ([], [.unresolvedBase base])
  | .ok base =>
    let (excluded, excludeNotices) :=
      excludePatterns (defaultExcludes ++ excludes ++ options.extraExcludes)
    let (lines, ignoreNotices) := if options.respectIgnoreFile then ignoreLines t base else ([], [])
    let found := patterns.map (matching t base)
    let paths := (found.flatMap (·.1)).filter (keeps base excluded lines)
    (sortPaths paths, excludeNotices ++ ignoreNotices ++ found.flatMap (·.2))

/-! ## Rule documents -/

def ruleSetsIn (t : FileTree) (dir : FilePath) : List FilePath :=
  let isDocument : String × Node → Bool
    | (name, .file _) => rulesSuffix.toList.isSuffixOf name.toList
    | _ => false
  match t.entries dir with
  | .ok entries => sortPaths ((entries.filter isDocument).map fun e => dir.join ⟨e.1⟩)
  | .error _ => []

def ruleSets (t : FileTree) (base : FilePath) : List FilePath := ruleSetsIn t (base.join domainsDir)

end RuleLint.Discovery
