import RuleLint.Proofs.Json.Shapes
import RuleLint.Report.Format

/-!
# Reading summaries back

The list of summaries that a report is printed as is read back whatever texts it holds, but for what was
found at each place, which is not printed (`parseAll_listText`).
-/

namespace RuleLint

open Json (ReadsAs ReadsMember)

/-! ## Findings -/

namespace Finding

def withoutSnippet (f : Finding) : Finding := { f with snippet := "" }

def FitsWords (f : Finding) : Prop := f.line < UInt64.size ∧ f.column < UInt64.size

theorem ofJson_toJson (f : Finding) : ofJson f.toJson = f.withoutSnippet := by
  have hseverity : Severity.ofMember f.toJson "severity" = f.severity := by
    have htext : textOf f.toJson "severity" = f.severity.name := rfl
    rw [Severity.ofMember, htext, Severity.ofName?_name]
    rfl
  unfold ofJson
  rw [hseverity]
  rfl

theorem readsAs {f : Finding} (h : f.FitsWords) (depth : Nat) :
    ReadsAs (depth + 2) Schema.finding f.toJson f.toJson := by
  have hname : f.severity.name ∈ Severity.all.map Severity.name := by
    cases f.severity <;> decide
  have hline : ReadsAs (depth + 1) .count (.nat f.line) (.nat f.line) := .count _ (Nat.le_sub_one_of_lt h.1)
  have hcolumn : ReadsAs (depth + 1) .count (.nat f.column) (.nat f.column) :=
    .count _ (Nat.le_sub_one_of_lt h.2)
  refine ReadsAs.record (.cons ⟨rfl, _, _, rfl, .path _ _⟩ <| .cons ⟨rfl, _, _, rfl, hline⟩ <|
    .cons ⟨rfl, _, _, rfl, hcolumn⟩ <| .cons ⟨rfl, _, _, rfl, .text _ _⟩ <|
    .cons ⟨rfl, _, _, rfl, .variant _ hname⟩ <| .cons ⟨rfl, _, _, rfl, .text _ _⟩ .nil) ?_ rfl
  simp

end Finding

theorem RuleError.readsAs (e : RuleError) (depth : Nat) :
    ReadsAs (depth + 2) Schema.ruleError e.toJson e.toJson := by
  refine ReadsAs.record (.cons ⟨rfl, _, _, rfl, .text _ _⟩ <| .cons ⟨rfl, _, _, rfl, .text _ _⟩ .nil) ?_ rfl
  simp

/-! ## Summaries -/

namespace Summary

def withoutSnippets (s : Summary) : Summary := { s with findings := s.findings.map Finding.withoutSnippet }

def FitsWords (s : Summary) : Prop := s.filesLinted < UInt64.size ∧ ∀ f ∈ s.findings, f.FitsWords

/-- What a summary is read as: with its errors even if there are none. -/
def filled (s : Summary) : Json :=
  .obj [("domain", .str s.domain), ("files_linted", .nat s.filesLinted),
    ("results", .arr (s.findings.map Finding.toJson)), ("errors", .arr (s.errors.map RuleError.toJson))]

theorem ofJson_filled (s : Summary) : ofJson s.filled = s.withoutSnippets := by
  have hfindings : (s.findings.map Finding.toJson).map Finding.ofJson =
      s.findings.map Finding.withoutSnippet := by
    rw [List.map_map]
    exact List.map_congr_left fun f _ => f.ofJson_toJson
  have herrors : (s.errors.map RuleError.toJson).map RuleError.ofJson = s.errors := by
    rw [List.map_map]
    exact List.map_id _
  rw [withoutSnippets, ← hfindings]
  conv_rhs => rw [← herrors]
  rfl

theorem readsAs {s : Summary} (h : s.FitsWords) (depth : Nat) :
    ReadsAs (depth + 4) Schema.summary s.toJson s.filled := by
  have hcount : ReadsAs (depth + 3) .count (.nat s.filesLinted) (.nat s.filesLinted) :=
    .count _ (Nat.le_sub_one_of_lt h.1)
  have hfindings : ReadsAs (depth + 3) (.list Schema.finding) (.arr (s.findings.map Finding.toJson))
      (.arr (s.findings.map Finding.toJson)) :=
    ReadsAs.list (List.forall₂_same.mpr (List.forall_mem_map.mpr fun f hf => Finding.readsAs (h.2 f hf) depth))
  have herrors : ReadsAs (depth + 3) (.list Schema.ruleError) (.arr (s.errors.map RuleError.toJson))
      (.arr (s.errors.map RuleError.toJson)) :=
    ReadsAs.list (List.forall₂_same.mpr (List.forall_mem_map.mpr fun e _ => e.readsAs depth))
  unfold toJson filled
  split
  · rename_i hnone
    refine ReadsAs.record (.cons ⟨rfl, _, _, rfl, .text _ _⟩ <| .cons ⟨rfl, _, _, rfl, hcount⟩ <|
      .cons ⟨rfl, _, _, rfl, hfindings⟩ .nil) ?_ ?_
    · simp
    · rw [List.isEmpty_iff.mp hnone]
      rfl
  · refine ReadsAs.record (.cons ⟨rfl, _, _, rfl, .text _ _⟩ <| .cons ⟨rfl, _, _, rfl, hcount⟩ <|
      .cons ⟨rfl, _, _, rfl, hfindings⟩ <| .cons ⟨rfl, _, _, rfl, herrors⟩ .nil) ?_ rfl
    simp

/-- The summaries of a report are read back from its text, but for what was found at each place. -/
theorem parseAll_listText {summaries : List Summary} (h : ∀ s ∈ summaries, s.FitsWords) :
    parseAll (listText summaries) = .ok (summaries.map withoutSnippets) := by
  have hreads : List.Forall₂ (ReadsAs 127 Schema.summary) (summaries.map toJson) (summaries.map filled) := by
    rw [List.forall₂_map_left_iff, List.forall₂_map_right_iff, List.forall₂_same]
    exact fun s hs => readsAs (h s hs) 123
  rw [parseAll, listText, (ReadsAs.list hreads).parseAs_pretty]
  refine congrArg Except.ok ?_
  rw [List.map_map]
  exact List.map_congr_left fun s _ => s.ofJson_filled

/-- A summary whose texts have to be escaped, with a number that is just kept. -/
def awkward : Summary :=
  ⟨"\"d\\", 0, [⟨⟨"/ä\n.go"⟩, UInt64.size - 1, 1, "\x01", .never, "\t\x7f😀", "x"⟩], [⟨"B", "\u2028\r"⟩]⟩

theorem parseAll_listText_awkward : (∀ s ∈ [awkward, awkward], s.FitsWords) ∧
    parseAll (listText [awkward, awkward]) = .ok [awkward.withoutSnippets, awkward.withoutSnippets] := by
  have hfits : awkward.FitsWords := ⟨by decide, List.forall_mem_singleton.mpr ⟨by decide, by decide⟩⟩
  have hall : ∀ s ∈ [awkward, awkward], s.FitsWords := by simp [hfits]
  exact ⟨hall, parseAll_listText hall⟩

end Summary

end RuleLint
