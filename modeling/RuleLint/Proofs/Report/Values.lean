import RuleLint.Proofs.Json.Members
import RuleLint.Proofs.Report.Console

/-!
# Reports as values

The members of an object can be given in any order (`get?_ofMembers`), so both values are read member by
member.
-/

namespace RuleLint

/-! ## Summaries -/

namespace Summary

theorem toldInSummary_toJson (s : Summary) :
    toldInSummary s.toJson = s.findings.map (Finding.told s.domain) := by
  have hresults : itemsOf s.toJson "results" = s.findings.map Finding.toJson := rfl
  unfold toldInSummary
  rw [hresults, List.map_map]
  rfl

theorem errors_toJson (s : Summary) : itemsOf s.toJson "errors" = s.errors.map RuleError.toJson := by
  unfold toJson
  by_cases h : s.errors.isEmpty
  · rw [if_pos h, List.isEmpty_iff.mp h]
    rfl
  · rw [if_neg h]
    rfl

theorem toldIn_arr (summaries : List Summary) : toldIn (.arr (summaries.map toJson)) =
    summaries.flatMap fun s => s.findings.map (Finding.told s.domain) := by
  simp [toldIn, Json.arr?, List.flatMap_map, toldInSummary_toJson]

theorem errorsIn_arr (summaries : List Summary) : errorsIn (.arr (summaries.map toJson)) =
    summaries.flatMap fun s => s.errors.map RuleError.toJson := by
  simp [errorsIn, Json.arr?, List.flatMap_map, errors_toJson]

end Summary

/-! ## The interchange format -/

namespace Sarif

theorem toldInResult_resultJson (known : List Descriptor) (domain : String) (f : Finding) :
    toldInResult (resultJson known domain f) = (f.told domain).inSarif := by
  have hlevel : ((Severity.ofName? f.severity.name).map fun v => v.level.name).getD "" =
      f.severity.level.name := by
    rw [Severity.ofName?_name]
    rfl
  unfold toldInResult resultJson Told.inSarif Finding.told
  dsimp only
  rw [hlevel]
  cases known.findIdx? fun d => d.name = ruleName domain f.ruleId with
  | none =>
    simp [textOf, memberOf, firstOf, itemsOf, countOf, Json.str?, Json.arr?, Json.nat, textObject, artifactUri,
      ruleName]
  | some i =>
    simp [textOf, memberOf, firstOf, itemsOf, countOf, Json.str?, Json.arr?, Json.nat, textObject, artifactUri,
      ruleName]

theorem level_resultJson (known : List Descriptor) (domain : String) (f : Finding) :
    textOf (resultJson known domain f) "level" = f.severity.level.name := by
  have hresult := congrArg Told.severity (toldInResult_resultJson known domain f)
  rw [Told.inSarif, Finding.told, Severity.ofName?_name] at hresult
  exact hresult

section
variable (guid : String) (summaries : List Summary) (sets : List RuleSet)

theorem resultsIn_toJson : resultsIn (toJson guid summaries sets) =
    summaries.flatMap fun s => s.findings.map (resultJson (descriptors sets) s.domain) := by
  unfold resultsIn toJson
  simp [firstOf, itemsOf, Json.arr?]

theorem toldIn_toJson : toldIn (toJson guid summaries sets) =
    (summaries.flatMap fun s => s.findings.map (Finding.told s.domain)).map Told.inSarif := by
  have hresult : ∀ domain, toldInResult ∘ resultJson (descriptors sets) domain =
      Told.inSarif ∘ Finding.told domain :=
    fun domain => funext (toldInResult_resultJson _ domain)
  unfold toldIn
  rw [resultsIn_toJson, List.map_flatMap, List.map_flatMap]
  simp only [List.map_map, hresult]

theorem levelCount_toJson (level : Level) : levelCount level (toJson guid summaries sets) =
    Console.countLevel level (summaries.flatMap (·.findings)) := by
  have hname : ∀ v : Severity, v.level.name = level.name ↔ v.level = level := by
    intro v
    cases v <;> cases level <;> decide
  unfold levelCount Console.countLevel
  rw [resultsIn_toJson, ← List.countP_eq_length_filter, List.countP_flatMap, List.countP_flatMap]
  simp [Function.comp_def, List.countP_map, level_resultJson, hname]

theorem notificationsIn_toJson : notificationsIn (toJson guid summaries sets) =
    summaries.flatMap fun s => s.errors.map (notificationJson s.domain) := by
  unfold notificationsIn toJson
  simp [firstOf, itemsOf, Json.arr?]

theorem isSuccessful?_toJson : isSuccessful? (toJson guid summaries sets) =
    some (summaries.flatMap (·.errors)).isEmpty := by
  have hempty : (summaries.flatMap fun s => s.errors.map (notificationJson s.domain)).isEmpty =
      (summaries.flatMap (·.errors)).isEmpty := by
    rw [Bool.eq_iff_iff]
    simp
  rw [← hempty]
  unfold isSuccessful? toJson
  simp [firstOf, itemsOf, Json.arr?]

end

end Sarif

end RuleLint
