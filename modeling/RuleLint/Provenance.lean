import RuleLint.Date
import RuleLint.Json.Decode

/-!
# Provenance

Where a rule or a domain comes from, and until when that was checked. Provenance never changes what
a rule matches. A rule is stale, and the audit of a domain overdue, when the date noted for it is a
date and lies before today.
-/

namespace RuleLint

structure Replacement where
  rule : String
  version : String
  date : Option String
  note : Option String
  deriving DecidableEq, Repr

inductive SourceReference where
  | url (url : String)
  | citation (url : String) (accessed quote : Option String)
  deriving DecidableEq, Repr

structure RuleProvenance where
  lastVerified : Option String
  confidence : Option String
  reverifyAfter : Option String
  supersededBy : Option Replacement
  sources : List SourceReference
  deriving DecidableEq, Repr

structure DomainProvenance where
  lastFullAudit : Option String
  auditedBy : Option String
  nextAuditDue : Option String
  sourcesConsulted : List SourceReference
  deriving DecidableEq, Repr

/-! ## Due dates -/

/-- Whether the text is a date before `today`. -/
def isPast (due : Option String) (today : Date) : Bool :=
  (due.bind Date.ofText?).any (·.before today)

def RuleProvenance.isStale (p : RuleProvenance) (today : Date) : Bool := isPast p.reverifyAfter today

def DomainProvenance.auditOverdue (p : DomainProvenance) (today : Date) : Bool :=
  isPast p.nextAuditDue today

/-! ## Reading -/

namespace Schema

def optionalText : Absence × Schema := (.default .null, .optional .text)

def sourceReference : Schema :=
  .either "SourceReference"
    [.text, .record "SourceReference::Detailed"
      [("url", .required, .text), ("accessed", optionalText), ("quote", optionalText)]]

def replacement : Schema :=
  .record "SupersededBy"
    [("replacement", .default (.str ""), .text), ("version", .default (.str ""), .text),
     ("date", optionalText), ("note", optionalText)]

def ruleProvenance : Schema :=
  .record "RuleProvenance"
    [("last_verified", optionalText), ("confidence", optionalText),
     ("re_verify_after", optionalText), ("superseded_by", .default .null, .optional replacement),
     ("sources", .default (.arr []), .list sourceReference)]

def domainProvenance : Schema :=
  .record "DomainProvenance"
    [("last_full_audit", optionalText), ("audited_by", optionalText),
     ("next_audit_due", optionalText),
     ("sources_consulted", .default (.arr []), .list sourceReference)]

end Schema

def textMember (v : Json) (key : String) : Option String := (v.get? key).bind Json.str?

def listMember (v : Json) (key : String) : List Json := ((v.get? key).bind Json.arr?).getD []

def SourceReference.ofJson : Json → SourceReference
  | .str s => url s
  | v => citation ((textMember v "url").getD "") (textMember v "accessed") (textMember v "quote")

def Replacement.ofJson (v : Json) : Replacement where
  rule := (textMember v "replacement").getD ""
  version := (textMember v "version").getD ""
  date := textMember v "date"
  note := textMember v "note"

def RuleProvenance.ofJson (v : Json) : RuleProvenance where
  lastVerified := textMember v "last_verified"
  confidence := textMember v "confidence"
  reverifyAfter := textMember v "re_verify_after"
  supersededBy :=
    match v.get? "superseded_by" with
    | none | some .null => none
    | some w => some (.ofJson w)
  sources := (listMember v "sources").map .ofJson

def DomainProvenance.ofJson (v : Json) : DomainProvenance where
  lastFullAudit := textMember v "last_full_audit"
  auditedBy := textMember v "audited_by"
  nextAuditDue := textMember v "next_audit_due"
  sourcesConsulted := (listMember v "sources_consulted").map .ofJson

namespace RuleProvenance

def decode (v : Json) : Except Mismatch RuleProvenance :=
  return .ofJson (← Schema.ruleProvenance.decode v)

def parse (text : String) : Except String RuleProvenance :=
  return .ofJson (← Json.parseAs Schema.ruleProvenance text)

end RuleProvenance

namespace DomainProvenance

def decode (v : Json) : Except Mismatch DomainProvenance :=
  return .ofJson (← Schema.domainProvenance.decode v)

def parse (text : String) : Except String DomainProvenance :=
  return .ofJson (← Json.parseAs Schema.domainProvenance text)

end DomainProvenance

/-! ## Writing -/

def SourceReference.toJson : SourceReference → Json
  | url s => .str s
  | citation u accessed quote =>
    .obj [("url", .str u), ("accessed", .option .str accessed), ("quote", .option .str quote)]

def Replacement.toJson (r : Replacement) : Json :=
  .obj [("replacement", .str r.rule), ("version", .str r.version), ("date", .option .str r.date),
    ("note", .option .str r.note)]

def RuleProvenance.toJson (p : RuleProvenance) : Json :=
  .obj [("last_verified", .option .str p.lastVerified), ("confidence", .option .str p.confidence),
    ("re_verify_after", .option .str p.reverifyAfter),
    ("superseded_by", .option Replacement.toJson p.supersededBy),
    ("sources", .arr (p.sources.map SourceReference.toJson))]

def DomainProvenance.toJson (p : DomainProvenance) : Json :=
  .obj [("last_full_audit", .option .str p.lastFullAudit),
    ("audited_by", .option .str p.auditedBy), ("next_audit_due", .option .str p.nextAuditDue),
    ("sources_consulted", .arr (p.sourcesConsulted.map SourceReference.toJson))]

end RuleLint
