import RuleLint.Rule.Basic

/-!
# Rule documents

A rule set is written as a JSON document. The document is accepted as a whole or refused for the
first thing that is wrong with it, told with the index and, once it is known, the identifier of the
rule that it is about.
-/

namespace RuleLint

inductive MemberFault where
  | missing (key : String)
  | blank (key : String)
  | notText (key : String)
  | notTextOrNull (key : String)
  | notList (key : String)
  | itemNotText (key : String) (index : Nat)
  | notObject (key : String)
  | misshapen (key : String) (mismatch : Mismatch)

inductive RuleFault where
  | member (fault : MemberFault)
  | unknownSeverity (given : String)
  | astWithPattern
  | astWithoutLanguage
  | astWithoutQuery
  | grepWithQuery
  | grepWithoutPattern
  | badPattern (pattern : String) (error : Regex.Error)
  | unknownType (given : String)
  | duplicateId

inductive DocumentFault where
  | notJson (message : String)
  | notObject
  | member (fault : MemberFault)
  | rulesNotList
  | ruleNotObject (index : Nat)
  | ruleWithoutId (index : Nat) (fault : MemberFault)
  | rule (index : Nat) (id : String) (fault : RuleFault)

/-! ## Messages -/

def inQuotes (s : String) : String := "\"" ++ s ++ "\""

def MemberFault.message : MemberFault → String
  | missing key => "missing " ++ inQuotes key
  | blank key => inQuotes key ++ " must not be empty"
  | notText key => inQuotes key ++ " must be a string"
  | notTextOrNull key => inQuotes key ++ " must be a string or null"
  | notList key => inQuotes key ++ " must be a list"
  | itemNotText key i => inQuotes key ++ "[" ++ toString i ++ "] must be a string"
  | notObject key => inQuotes key ++ " must be an object"
  | misshapen key m => "invalid " ++ inQuotes key ++ ": " ++ m.message

def RuleFault.message : RuleFault → String
  | member f => f.message
  | unknownSeverity s =>
    "unknown severity " ++ inQuotes s ++ " (expected NEVER, MUST, SHOULD or GUIDANCE)"
  | astWithPattern => "ast rule must not carry a \"pattern\""
  | astWithoutLanguage => "ast rule requires a \"language\""
  | astWithoutQuery => "ast rule requires a non-empty \"query\""
  | grepWithQuery => "grep rule must not carry a \"query\""
  | grepWithoutPattern => "grep rule requires a non-empty \"pattern\""
  | badPattern p e => "invalid \"pattern\": " ++ e.message p
  | unknownType t => "unknown type " ++ inQuotes t ++ " (expected ast or grep)"
  | duplicateId => "duplicate rule id"

def DocumentFault.message : DocumentFault → String
  | notJson m => "invalid document: " ++ m
  | notObject => "invalid document: expected a top-level object"
  | member f => f.message
  | rulesNotList => "\"rules\" must be a list"
  | ruleNotObject i => "rules[" ++ toString i ++ "]: expected an object"
  | ruleWithoutId i f => "rules[" ++ toString i ++ "]: " ++ f.message
  | rule i id f => "rules[" ++ toString i ++ "] (id=" ++ id ++ "): " ++ f.message

/-! ## Members -/

/-- A text that must be there and hold more than blanks. -/
def requiredText (v : Json) (key : String) : Except MemberFault String :=
  match v.get? key with
  | some (.str s) => if Text.isBlankText s then .error (.blank key) else .ok s
  | some .null | none => .error (.missing key)
  | some _ => .error (.notText key)

def optionalText (v : Json) (key : String) : Except MemberFault (Option String) :=
  match v.get? key with
  | some (.str s) => .ok (some s)
  | some .null | none => .ok none
  | some _ => .error (.notTextOrNull key)

def textItems (key : String) : Nat → List Json → Except MemberFault (List String)
  | _, [] => .ok []
  | i, .str s :: r => (textItems key (i + 1) r).map (s :: ·)
  | i, _ :: _ => .error (.itemNotText key i)

/-- A list of texts; unless it is required, it may be missing or null. -/
def textList (v : Json) (key : String) (required : Bool) : Except MemberFault (List String) :=
  match v.get? key with
  | some (.arr items) => textItems key 0 items
  | some .null | none => if required then .error (.notList key) else .ok []
  | some _ => .error (.notList key)

/-- A value to be decoded, which must be an object unless it is missing or null. -/
def optionalObject {α : Type} (decode : Json → Except Mismatch α) (v : Json) (key : String) :
    Except MemberFault (Option α) :=
  match v.get? key with
  | some .null | none => .ok none
  | some (.obj members) =>
    match decode (.obj members) with
    | .ok a => .ok (some a)
    | .error m => .error (.misshapen key m)
  | some _ => .error (.notObject key)

/-! ## Rules -/

def astCheck (v : Json) (query pattern : Option String) : Except RuleFault RuleCheck := do
  if pattern.isSome then throw .astWithPattern
  match ← (optionalText v "language").mapError .member with
  | none | some "" => throw .astWithoutLanguage
  | some language =>
    match query with
    | none => throw .astWithoutQuery
    | some q => if Text.isBlankText q then throw .astWithoutQuery else return .ast language q

def grepCheck (query pattern : Option String) : Except RuleFault RuleCheck := do
  if query.isSome then throw .grepWithQuery
  match pattern with
  | none | some "" => throw .grepWithoutPattern
  | some p => return .grep (← (Regex.compile p).mapError (.badPattern p))

/-- What a rule looks for, by its type. A rule without a type is of type `grep`. -/
def ruleCheck (v : Json) (type query pattern : Option String) : Except RuleFault RuleCheck :=
  match type.getD "grep" with
  | "ast" => astCheck v query pattern
  | "grep" => grepCheck query pattern
  | other => .error (.unknownType other)

def ruleOf (id : String) (v : Json) : Except RuleFault Rule := do
  let title ← (requiredText v "title").mapError .member
  let given ← (requiredText v "severity").mapError .member
  let severity ← match Severity.ofName? given with
    | some s => pure s
    | none => throw (.unknownSeverity given)
  let message ← (requiredText v "message").mapError .member
  let query ← (optionalText v "query").mapError .member
  let pattern ← (optionalText v "pattern").mapError .member
  let type ← (optionalText v "type").mapError .member
  let check ← ruleCheck v type query pattern
  let provenance ← (optionalObject RuleProvenance.decode v "provenance").mapError .member
  return { id, title, severity, check, message, provenance }

def ruleAt (index : Nat) (v : Json) : Except DocumentFault Rule :=
  match v with
  | .obj members =>
    match requiredText (.obj members) "id" with
    | .error f => .error (.ruleWithoutId index f)
    | .ok id => (ruleOf id (.obj members)).mapError (.rule index id)
  | _ => .error (.ruleNotObject index)

def rulesFrom (seen : List String) (index : Nat) : List Json → Except DocumentFault (List Rule)
  | [] => .ok []
  | v :: r => do
    let rule ← ruleAt index v
    if seen.contains rule.id then throw (.rule index rule.id .duplicateId)
    return rule :: (← rulesFrom (rule.id :: seen) (index + 1) r)

/-! ## Documents -/

def RuleSet.ofJson (source : FilePath) (v : Json) : Except DocumentFault RuleSet := do
  let domain ← (requiredText v "domain").mapError .member
  let version ← (requiredText v "version").mapError .member
  let language ← (optionalText v "language").mapError .member
  let filePatterns ← (textList v "file_patterns" true).mapError .member
  let excludePatterns ← (textList v "exclude_patterns" false).mapError .member
  let provenance ← (optionalObject DomainProvenance.decode v "provenance").mapError .member
  match v.get? "rules" with
  | some (.arr items) =>
    let rules ← rulesFrom [] 0 items
    return { domain, version, language, filePatterns, excludePatterns, rules, provenance, source }
  | _ => throw .rulesNotList

def RuleSet.parse (source : FilePath) (text : String) : Except DocumentFault RuleSet :=
  match Json.parse text with
  | .error m => .error (.notJson m)
  | .ok (.obj members) => RuleSet.ofJson source (.obj members)
  | .ok _ => .error .notObject

end RuleLint
