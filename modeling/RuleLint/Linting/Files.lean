import RuleLint.Linting.QueryCache
import RuleLint.Notice

/-!
# Linting files

The findings of rules in files of a tree. Every file is read once and its text is read into one tree.
A rule that cannot run is left out from then on, and a file that cannot be read is passed over. The
findings are put in order of files; those of one file stay in order of rules.
-/

namespace RuleLint.Linting

structure FileResult where
  ran : Bool
  findings : List Finding

def FileResult.none : FileResult := ⟨false, []⟩

def FileResult.add (result : FileResult) : Option (List Finding) → FileResult
  | .none => result
  | some found => ⟨true, found ++ result.findings⟩

/-- The findings of the rules at some places in a text, rule after rule. The tree of the text is known
if a rule needs it. -/
def onText (r : Registry) (file : FilePath) (source : String) (tree : Option Tree) :
    QueryCache → List Nat → FileResult × QueryCache
  | c, [] => (.none, c)
  | c, i :: rest =>
    let (found, c) := c.find r file source tree i
    let (result, c) := onText r file source tree c rest
    (result.add found, c)

def treeFor (r : Registry) (c : QueryCache) (language : Option Language) (source : String)
    (places : List Nat) : Option (Except LintError Tree) :=
  if places.any c.needsTree then
    language.map fun l => (r.grammarOf l).map fun g => Syntax.parse g source.toList
  else .none

def onFile (r : Registry) (t : FileTree) (c : QueryCache) (file : FilePath) :
    Noted (FileResult × QueryCache) :=
  let language := Language.ofPath? file
  let places := c.applicable language
  if places.isEmpty then ((.none, c), [])
  else match t.readText file with
    | .error _ => ((.none, c), [.unreadable file])
    | .ok source =>
      match treeFor r c language source places with
      | .none => (onText r file source .none c places, [])
      | some (.ok tree) => (onText r file source (some tree) c places, [])
      | some (.error _) => (onText r file source .none c places, [.unparsable file])

def onFiles (r : Registry) (t : FileTree) :
    QueryCache → List FilePath → Noted (List FileResult × QueryCache)
  | c, [] => (([], c), [])
  | c, file :: files =>
    let ((result, c), notices) := onFile r t c file
    let ((results, c), more) := onFiles r t c files
    ((result :: results, c), notices ++ more)

def sortByFile (findings : List Finding) : List Finding :=
  findings.mergeSort fun a b => a.file.le b.file

def startNotices (rules : List Rule) : List Notice :=
  (rules.filter fun rule => rule.language?.isSome && rule.query?.isNone).map fun rule =>
    .emptyQuery rule.id

def files (r : Registry) (t : FileTree) (domain : String) (rules : List Rule)
    (paths : List FilePath) : Noted Summary :=
  let ((results, c), notices) := onFiles r t (.start r rules) paths
  ({ domain
     filesLinted := results.countP (·.ran)
     findings := sortByFile (results.flatMap (·.findings))
     errors := c.errors },
   startNotices rules ++ notices ++ c.errors.map fun e => .skippedRule domain e.ruleId)

end RuleLint.Linting
