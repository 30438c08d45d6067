import RuleLint.Digest.Sha256
import RuleLint.Finding
import RuleLint.Json.Printer
import RuleLint.Rule.Basic

/-!
# SARIF reports

All summaries as one run of the interchange format SARIF 2.1.0. A rule is named by its domain and
its identifier, and each name has one descriptor, the first. Rules that could not run are
notifications, not results. A result carries a fingerprint of what was found, not of where.
-/

namespace RuleLint.Sarif

def toolName : String := "flight-lint"

def toolVersion : String := "0.3.0"

def schemaUri : String :=
  "https://docs.oasis-open.org/sarif/sarif/v2.1.0/errata01/os/schemas/sarif-schema-2.1.0.json"

def ruleName (domain id : String) : String := domain ++ "/" ++ id

def textObject (text : String) : Json := .ofMembers [("text", .str text)]

/-! ## Descriptors -/

structure Descriptor where
  name : String
  domain : String
  rule : Rule

def descriptors (sets : List RuleSet) : List Descriptor :=
  let all := sets.flatMap fun s => s.rules.map fun r => ⟨ruleName s.domain r.id, s.domain, r⟩
  all.foldl (fun acc d => if acc.any (·.name = d.name) then acc else acc ++ [d]) []

def Descriptor.toJson (d : Descriptor) : Json :=
  .ofMembers [
    ("id", .str d.name), ("name", .str d.rule.title),
    ("shortDescription", textObject d.rule.title), ("fullDescription", textObject d.rule.message),
    ("defaultConfiguration", .ofMembers [("level", .str d.rule.severity.level.name)]),
    ("properties", .ofMembers <|
      [("domain", .str d.domain), ("ruleId", .str d.rule.id),
       ("severity", .str d.rule.severity.name), ("type", .str d.rule.check.kind)] ++
      (d.rule.language?.map fun l => ("language", .str l)).toList)]

/-! ## Results -/

def artifactUri (f : Finding) : String :=
  String.ofList (f.file.text.toList.map fun c => if c = '\\' then '/' else c)

/-- What a fingerprint is taken of: each part with a zero byte after it. -/
def fingerprintBytes (parts : List String) : List UInt8 :=
  parts.flatMap fun s => s.toUTF8.data.toList ++ [0]

def fingerprint (domain : String) (f : Finding) : String :=
  Sha256.hexText (Sha256.digest (fingerprintBytes [domain, f.ruleId, artifactUri f, f.snippet]))

def resultJson (known : List Descriptor) (domain : String) (f : Finding) : Json :=
  let name := ruleName domain f.ruleId
  .ofMembers <|
    [("ruleId", .str name), ("level", .str f.severity.level.name),
     ("message", textObject f.message),
     ("locations", .arr [.ofMembers [("physicalLocation", .ofMembers [
       ("artifactLocation", .ofMembers [("uri", .str (artifactUri f))]),
       ("region", .ofMembers [("startLine", .nat f.line), ("startColumn", .nat f.column)])])]]),
     ("partialFingerprints", .ofMembers [("flightLint/v1", .str (fingerprint domain f))]),
     ("properties", .ofMembers [("domain", .str domain)])] ++
    ((known.findIdx? fun d => d.name = name).map fun i => ("ruleIndex", .nat i)).toList

def notificationJson (domain : String) (e : RuleError) : Json :=
  .ofMembers [("level", .str Level.error.name), ("message", textObject e.message),
    ("descriptor", .ofMembers [("id", .str (ruleName domain e.ruleId))]),
    ("properties", .ofMembers [("domain", .str domain)])]

/-! ## Runs -/

def toJson (guid : String) (summaries : List Summary) (sets : List RuleSet) : Json :=
  let known := descriptors sets
  let notifications := summaries.flatMap fun s => s.errors.map (notificationJson s.domain)
  let results := summaries.flatMap fun s => s.findings.map (resultJson known s.domain)
  let driver := Json.ofMembers [("name", .str toolName), ("version", .str toolVersion),
    ("semanticVersion", .str toolVersion), ("rules", .arr (known.map Descriptor.toJson))]
  let run := Json.ofMembers [
    ("tool", .ofMembers [("driver", driver)]),
    ("invocations", .arr [.ofMembers [("executionSuccessful", .bool notifications.isEmpty),
      ("toolExecutionNotifications", .arr notifications)]]),
    ("results", .arr results),
    ("automationDetails", .ofMembers [
      ("id", .str (toolName ++ "/" ++ "+".intercalate (summaries.map (·.domain)) ++ "/")),
      ("guid", .str guid)])]
  .ofMembers [("$schema", .str schemaUri), ("version", .str "2.1.0"), ("runs", .arr [run])]

def render (guid : String) (summaries : List Summary) (sets : List RuleSet) : String :=
  (toJson guid summaries sets).pretty

end RuleLint.Sarif
