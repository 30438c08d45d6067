import RuleLint.Proofs.Report.Descriptors

/-!
# References to rules

Every result and every notification of a run is about a rule that has a descriptor
(`rule_references_sound`).
-/

namespace RuleLint

open Sarif (ruleName rulePairs ruleNames rulesIn resultsIn notificationsIn RefersTo)

namespace Linting

section
variable {t : FileTree} {today : Date} {o : RunOptions} {report : Report}

theorem finding_mem_rulePairs (h : (run t today o).1 = .ok report) {f : String × Finding}
    (hf : f ∈ report.owned) : (f.1, f.2.ruleId) ∈ rulePairs report.ruleSets := by
  obtain ⟨s, hs, hf⟩ := List.mem_flatMap.mp hf
  obtain ⟨found, hfound, rfl⟩ := List.mem_map.mp hf
  obtain ⟨set, hset, hfrom⟩ := exists_comesFrom h hs
  obtain ⟨rule, hrule, hid⟩ := hfrom.findings found hfound
  rw [hfrom.domain, ← hid]
  exact Sarif.mem_rulePairs hset hrule

theorem error_mem_rulePairs (h : (run t today o).1 = .ok report) {e : String × RuleError}
    (he : e ∈ report.ruleErrors) : (e.1, e.2.ruleId) ∈ rulePairs report.ruleSets := by
  obtain ⟨s, hs, he⟩ := List.mem_flatMap.mp he
  obtain ⟨error, herror, rfl⟩ := List.mem_map.mp he
  obtain ⟨set, hset, hfrom⟩ := exists_comesFrom h hs
  obtain ⟨rule, hrule, hid⟩ := hfrom.errors error herror
  rw [hfrom.domain, ← hid]
  exact Sarif.mem_rulePairs hset hrule

end

theorem resultsIn_sarif (report : Report) (guid : String) : resultsIn (report.sarif guid) =
    report.owned.map fun f => Sarif.resultJson (Sarif.descriptors report.ruleSets) f.1 f.2 := by
  rw [Report.sarif, Sarif.resultsIn_toJson, Report.owned, List.map_flatMap]
  simp only [List.map_map]
  rfl

theorem notificationsIn_sarif (report : Report) (guid : String) : notificationsIn (report.sarif guid) =
    report.ruleErrors.map fun e => Sarif.notificationJson e.1 e.2 := by
  rw [Report.sarif, Sarif.notificationsIn_toJson, Report.ruleErrors, List.map_flatMap]
  simp only [List.map_map]
  rfl

/-- The descriptors in a report on a run have the names of all rules, each name once and in the order in which
the names come up. There is a result for each finding that counts, and it gives the place of the descriptor with
the name of its rule. There is a notification for each rule that could not run, and there is a descriptor with
the name that it gives. -/
theorem rule_references_sound {t : FileTree} {today : Date} {o : RunOptions} {report : Report}
    (h : (run t today o).1 = .ok report) (guid : String) :
    ((rulesIn (report.sarif guid)).map (·.get? "id") =
        (ruleNames report.ruleSets).eraseDups.map (fun name => some (.str name)) ∧
      (ruleNames report.ruleSets).eraseDups.Nodup) ∧
    List.Forall₂ (fun f result => ∃ d, RefersTo (report.sarif guid) result d ∧
        d.get? "id" = some (.str (ruleName f.1 f.2.ruleId)) ∧
        result.get? "ruleId" = some (.str (ruleName f.1 f.2.ruleId)))
      report.owned (resultsIn (report.sarif guid)) ∧
    List.Forall₂ (fun e notification => ∃ d ∈ rulesIn (report.sarif guid),
        d.get? "id" = some (.str (ruleName e.1 e.2.ruleId)) ∧
        (memberOf notification "descriptor").get? "id" = some (.str (ruleName e.1 e.2.ruleId)))
      report.ruleErrors (notificationsIn (report.sarif guid)) := by
  have hrules : rulesIn (report.sarif guid) = (Sarif.descriptors report.ruleSets).map Sarif.Descriptor.toJson :=
    Sarif.rulesIn_toJson
  refine ⟨⟨?_, Sarif.nodup_eraseDups _⟩, ?_, ?_⟩
  · rw [← Sarif.map_name_descriptors, hrules, List.map_map, List.map_map]
    exact List.map_congr_left fun d _ => Sarif.id_toJson d
  · rw [resultsIn_sarif, List.forall₂_map_right_iff, List.forall₂_same]
    intro f hf
    obtain ⟨d, hd, hname⟩ := Sarif.exists_descriptor (finding_mem_rulePairs h hf)
    exact ⟨d.toJson, Sarif.refersTo_of_find? hd, hname ▸ Sarif.id_toJson d, Sarif.ruleId_resultJson ..⟩
  · rw [notificationsIn_sarif, List.forall₂_map_right_iff, List.forall₂_same]
    intro e he
    obtain ⟨d, hd, hname⟩ := Sarif.exists_descriptor (error_mem_rulePairs h he)
    refine ⟨d.toJson, ?_, hname ▸ Sarif.id_toJson d, Sarif.descriptor_notificationJson ..⟩
    rw [hrules]
    exact List.mem_map_of_mem (List.mem_of_find?_eq_some hd)

theorem rule_references_sound_twoDocuments : ∃ report,
    (run twoDocuments ⟨2024, 1, 1⟩ { plainOptions with rulePaths := [⟨"r"⟩] }).1 = .ok report ∧
    report.owned = [("d", ⟨⟨"/a"⟩, 1, 1, "A", .must, "m", "x"⟩)] ∧
    ∃ result d, resultsIn (report.sarif "") = [result] ∧ RefersTo (report.sarif "") result d ∧
      result.get? "ruleId" = some (.str "d/A") ∧ d.get? "id" = some (.str "d/A") := by
  obtain ⟨s, hrun⟩ := run_pattern ⟨2024, 1, 1⟩
  obtain ⟨-, hresults, -⟩ := rule_references_sound hrun ""
  obtain ⟨result, rest, hfirst, hrest, hone⟩ := List.forall₂_cons_left_iff.mp hresults
  obtain ⟨d, hrefers, hd, hname⟩ := hfirst
  obtain rfl := List.forall₂_nil_left_iff.mp hrest
  exact ⟨_, hrun, rfl, result, d, hone, hrefers, hname, hd⟩

end Linting

end RuleLint
