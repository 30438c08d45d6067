import RuleLint.Command.Arguments
import RuleLint.FileTree.Change
import RuleLint.Linting.Run

/-!
# The program

What each command does to a file tree, what it prints, and its exit code. An error is printed and ends
a command with its exit code; nothing is printed on standard output then.
-/

namespace RuleLint.Command

structure Environment where
  today : Date
  guid : String
  color : Bool

structure Outcome where
  exitCode : Nat
  stdout : String
  stderr : String
  tree : FileTree
  changes : List Change
  notices : List Notice

namespace Outcome

def printed (t : FileTree) (text : String) : Outcome := ⟨0, text, "", t, [], []⟩

def refused (t : FileTree) (text : String) : Outcome := ⟨LintError.exitCode, "", text, t, [], []⟩

end Outcome

def errorText (e : LintError) : String := "error: " ++ e.message ++ "\n"

def failed (t : FileTree) (e : LintError) : Outcome := .refused t (errorText e)

/-! ## Options -/

abbrev Options := List (String × String)

namespace Options

def value? (o : Options) (name : String) : Option String := (o.find? fun p => p.1 = name).map (·.2)

def flag (o : Options) (name : String) : Bool := (o.value? name).isSome

def value (o : Options) (c : CommandSpec) (name : String) : String :=
  let spec := c.options.find? fun s => s.long = name
  (o.value? name).getD (((spec.bind (·.value)).bind (·.default)).getD "")

def run (o : Options) (c : CommandSpec) (operands : List String) (floor : Option Severity) :
    Linting.RunOptions where
  rulePaths := operands.map (⟨·⟩)
  auto := o.flag "auto"
  base := ⟨o.value c "base"⟩
  configPath := (o.value? "config").map (⟨·⟩)
  floor

end Options

/-! ## Linting -/

def floorOf (o : Options) : Except LintError (Option Severity) :=
  match o.value? "severity" with
  | none => .ok none
  | some s =>
    match Severity.ofText? s with
    | some v => .ok (some v)
    | none => .error (.config ("unknown severity '" ++ s ++ "'"))

def formatOf (o : Options) : Except LintError ReportFormat :=
  let name := o.value lintSpec "format"
  match ReportFormat.ofText? name with
  | some f => .ok f
  | none => .error (.config ("unknown format '" ++ name ++ "'"))

def ruleErrorsText (r : Linting.Report) : String :=
  String.join <| r.ruleErrors.map fun e =>
    "error: " ++ e.1 ++ ": rule " ++ e.2.ruleId ++ " skipped: " ++ e.2.message ++ "\n"

def deliver (env : Environment) (t : FileTree) (o : Options) (format : ReportFormat)
    (r : Linting.Report) : Outcome :=
  let errors := ruleErrorsText r
  match o.value? "output" with
  | none =>
    { Outcome.printed t (r.render format env.guid (env.color && !o.flag "no-color")) with
      exitCode := r.exitCode, stderr := errors }
  | some out =>
    let change := Change.write ⟨out⟩ (r.render format env.guid false)
    match t.apply change with
    | .ok tree => ⟨r.exitCode, "", errors, tree, [change], []⟩
    | .error e => .refused t (errors ++ errorText (.file e))

def lint (env : Environment) (t : FileTree) (o : Options) (operands : List String) : Outcome :=
  let prepared := do
    let format ← formatOf o
    return (format, ← floorOf o)
  match prepared with
  | .error e => failed t e
  | .ok (format, floor) =>
    let (report, notices) := Linting.run t env.today (o.run lintSpec operands floor)
    match report with
    | .error e => { failed t e with notices }
    | .ok r => { deliver env t o format r with notices }

/-! ## Listing rules -/

inductive ListFormat where
  | table
  | json
  deriving DecidableEq, Repr

def ListFormat.ofText (s : String) : Except LintError ListFormat :=
  match Text.small s with
  | "table" => .ok table
  | "json" => .ok json
  | _ => .error (.config ("unknown format '" ++ s ++ "' (expected table or json)"))

def ruleValue (domain : String) (r : Rule) : Json :=
  .obj [("domain", .str domain), ("id", .str r.id), ("title", .str r.title),
    ("severity", .str r.severity.name), ("type", .str r.check.kind),
    ("language", .option .str r.language?), ("message", .str r.message)]

def ruleRow (domain id title severity kind language : String) : String :=
  " ".intercalate [Text.padEnd 12 domain, Text.padEnd 6 id, Text.padEnd 32 title,
    Text.padEnd 9 severity, Text.padEnd 5 kind, language] ++ "\n"

def ruleList (format : ListFormat) (rules : List (String × Rule)) : String :=
  match format with
  | .json => (Json.arr (rules.map fun r => ruleValue r.1 r.2)).pretty ++ "\n"
  | .table =>
    ruleRow "DOMAIN" "ID" "TITLE" "SEVERITY" "TYPE" "LANGUAGE" ++
      String.ofList (List.replicate 80 '-') ++ "\n" ++
      String.join (rules.map fun (domain, r) =>
        ruleRow domain r.id r.title r.severity.name r.check.kind (r.language?.getD "-"))

def listRules (env : Environment) (t : FileTree) (o : Options) (operands : List String) : Outcome :=
  match ListFormat.ofText (o.value listRulesSpec "format") with
  | .error e => failed t e
  | .ok format =>
    let (setup, notices) := Linting.setup t env.today (o.run listRulesSpec operands none)
    match setup with
    | .error e => { failed t e with notices }
    | .ok (_, sets) =>
      let rules := sets.flatMap fun s => s.rules.map fun r => (s.domain, r)
      { Outcome.printed t (ruleList format rules) with notices }

/-! ## Starting a project -/

def here : FilePath := ⟨"."⟩

/-- Writes the first configuration of a project and makes the directory of its rule documents. A
configuration that is there already is kept unless `force` says otherwise. -/
def startProject (t : FileTree) (dir : FilePath) (force : Bool) :
    List Change × FileTree × Option LintError :=
  let path := dir.join Config.fileName
  if t.isThere path && !force then
    ([], t, some (.config (Config.fileName.text ++
      " already exists. Use --force to overwrite.")))
  else
    let (made, t, e) :=
      t.applyAll [.write path Config.starter, .makeDirs (dir.join Discovery.domainsDir)]
    (made, t, e.map .file)

def init (t : FileTree) (o : Options) : Outcome :=
  let (changes, tree, e) := startProject t here (o.flag "force")
  match e with
  | some e => { failed tree e with changes }
  | none =>
    { Outcome.printed tree ("Created " ++ Config.fileName.text ++ " and " ++ Discovery.domainsDir.text ++
        "/\n") with changes }

/-! ## Command lines -/

def execute (env : Environment) (t : FileTree) (words : List String) : Outcome :=
  match programSpec.request words with
  | .print text => .printed t text
  | .refuse text => .refused t text
  | .command c options operands =>
    if c.name = lintSpec.name then lint env t options operands
    else if c.name = listRulesSpec.name then listRules env t options operands
    else init t options

end RuleLint.Command
