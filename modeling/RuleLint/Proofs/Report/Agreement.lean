import RuleLint.Proofs.Discovery
import RuleLint.Proofs.Linting.Setup
import RuleLint.Proofs.Linting.Verdict
import RuleLint.Proofs.Report.Values

/-!
# The forms of a report agree

Linting sorts the findings of a rule set by file, no file is found under two names, and the policy keeps
both (`grouped_of_run`). So the report for people tells the results that the values tell, in their order
(`forms_agree`).
-/

namespace RuleLint

open Console (Grouped)

/-! ## Findings of a run -/

theorem Policy.grouped_apply {l : List Finding} (h : Grouped l) (p : Policy) (domain : String) :
    Grouped (p.apply domain l) := by
  unfold apply
  constructor
  · exact List.Pairwise.filter _ (List.pairwise_map.mpr (List.Pairwise.filter _ h.byFile))
  · have hmem : ∀ f ∈ p.apply domain l, ∃ g ∈ l, g.file = f.file := by
      intro f hf
      obtain ⟨g, hg, rfl⟩ := List.mem_map.mp (List.mem_filter.mp hf).1
      exact ⟨g, (List.mem_filter.mp hg).1, rfl⟩
    intro f hf g hg hsame
    obtain ⟨f', hf', hfile⟩ := hmem f hf
    obtain ⟨g', hg', hgile⟩ := hmem g hg
    rw [← hfile, ← hgile] at hsame ⊢
    exact h.oneName f' hf' g' hg' hsame

namespace Linting

section
variable {r : Registry} {t : FileTree} {today : Date} {o : RunOptions}

theorem file_mem_of_findings {domain : String} {rules : List Rule} {paths : List FilePath} {f : Finding}
    (h : f ∈ (files r t domain rules paths).1.findings) : f.file ∈ paths := by
  rw [files_eq] at h
  obtain ⟨v, hv, hf⟩ := List.mem_flatMap.mp ((sortByFile_perm _).mem_iff.mp h)
  rw [file_of_mem_outcome hf]
  exact (mem_of_mem_visits hv).2

theorem grouped_files {paths : List FilePath} (h : Discovery.Ascending paths) (domain : String)
    (rules : List Rule) : Grouped (files r t domain rules paths).1.findings := by
  constructor
  · rw [files_eq]
    exact byFile_sortByFile _
  · intro f hf g hg
    exact Discovery.eq_of_same h (file_mem_of_findings hf) (file_mem_of_findings hg)

theorem grouped_of_run {report : Report} (h : (run t today o).1 = .ok report) :
    ∀ s ∈ report.summaries, Grouped s.findings := by
  obtain ⟨c, sets, _, rfl⟩ := run_eq_ok.mp h
  intro s hs
  obtain ⟨n, hn, rfl⟩ := List.mem_map.mp hs
  obtain ⟨set, _, rfl⟩ := List.mem_map.mp hn
  exact Policy.grouped_apply (grouped_files (Discovery.ascending_files ..) _ _) _ _

theorem effective_of_run {report : Report} (h : (run t today o).1 = .ok report) :
    report.verdict.effective = (report.summaries.flatMap (·.findings)).length := by
  obtain ⟨c, sets, _, rfl⟩ := run_eq_ok.mp h
  rfl

theorem pass_of_run {report : Report} (h : (run t today o).1 = .ok report) :
    report.verdict.pass ↔ Console.countLevel .error (report.summaries.flatMap (·.findings)) = 0 := by
  have hlevel : ∀ v : Severity, v.isBlocking ↔ v.level = .error := by
    intro v
    cases v <;> decide
  have hpass : ∀ l : List Finding, (!l.any fun f => f.severity.isBlocking) ↔
      Console.countLevel .error l = 0 := by
    intro l
    simp [Console.countLevel, ← hlevel]
  obtain ⟨c, sets, _, rfl⟩ := run_eq_ok.mp h
  exact hpass _

end

/-! ## Forms -/

/-- The forms of a report on a run tell the same: the report for people, the list of summaries and the
interchange format hold the same results in the same order, as many as count. -/
theorem forms_agree {t : FileTree} {today : Date} {o : RunOptions} {report : Report}
    (h : (run t today o).1 = .ok report) (guid : String) :
    (∀ format color, report.render format guid color = match format with
      | .text => renderSpans color report.spans
      | .json => report.json.pretty
      | .sarif => (report.sarif guid).pretty) ∧
    (Console.toldIn report.spans = Summary.toldIn report.json ∧
      Sarif.toldIn (report.sarif guid) = (Summary.toldIn report.json).map Told.inSarif ∧
      Summary.toldIn report.json = report.results ∧ report.results.length = report.verdict.effective) ∧
    (∀ level, Console.footerCount level report.spans = Sarif.levelCount level (report.sarif guid)) ∧
    (Console.footerCount .error report.spans = 0 ↔ Console.passMark ∈ report.spans) ∧
    ((Sarif.isSuccessful? (report.sarif guid) = some false ↔ Console.ruleErrorMark ∈ report.spans) ∧
      (Console.ruleErrorMark ∈ report.spans ↔ report.exitCode = 2)) ∧
    (Sarif.notificationsIn (report.sarif guid)).length = report.spans.count Console.ruleErrorMark ∧
    report.spans.count Console.ruleErrorMark = (Summary.errorsIn report.json).length := by
  have htold : Console.toldIn report.spans = Summary.toldIn report.json := by
    rw [Report.json, Summary.toldIn_arr]
    exact Console.toldIn_spans (grouped_of_run h) _
  have hsarif : Sarif.toldIn (report.sarif guid) = (Summary.toldIn report.json).map Told.inSarif := by
    rw [Report.json, Summary.toldIn_arr]
    exact Sarif.toldIn_toJson ..
  have hresults : Summary.toldIn report.json = report.results := Summary.toldIn_arr report.summaries
  have hlength : report.results.length = report.verdict.effective := by
    rw [Report.results, effective_of_run h]
    simp [List.length_flatMap]
  have hfooter : ∀ level, Console.footerCount level report.spans =
      Console.countLevel level (report.summaries.flatMap (·.findings)) :=
    fun level => Console.footerCount_spans level _ _
  have hlevels : ∀ level, Sarif.levelCount level (report.sarif guid) =
      Console.countLevel level (report.summaries.flatMap (·.findings)) :=
    fun level => Sarif.levelCount_toJson _ _ _ level
  have hmarks : report.spans.count Console.ruleErrorMark = (report.summaries.flatMap (·.errors)).length :=
    Console.count_ruleErrorMark _ _
  have hmark : Console.ruleErrorMark ∈ report.spans ↔ report.summaries.flatMap (·.errors) ≠ [] := by
    rw [← List.count_pos_iff, hmarks, List.length_pos_iff]
  refine ⟨fun format => report.render_eq format guid, ⟨htold, hsarif, hresults, hlength⟩, ?_, ?_, ⟨?_, ?_⟩, ?_, ?_⟩
  · intro level
    rw [hfooter, hlevels]
  · rw [hfooter, ← pass_of_run h]
    exact Console.passMark_mem.symm
  · rw [hmark, Report.sarif, Sarif.isSuccessful?_toJson]
    simp
  · rw [hmark, Report.exitCode_eq_two]
    simp
  · rw [hmarks, Report.sarif, Sarif.notificationsIn_toJson]
    simp [List.length_flatMap]
  · rw [hmarks, Report.json, Summary.errorsIn_arr]
    simp [List.length_flatMap]

theorem forms_agree_twoDocuments : ∃ report,
    (run twoDocuments ⟨2024, 1, 1⟩ { plainOptions with rulePaths := [⟨"r"⟩] }).1 = .ok report ∧
    Console.toldIn report.spans = [⟨"d", "/a", 1, 1, "MUST", "m", "A"⟩] ∧
    Sarif.toldIn (report.sarif "") = [⟨"d", "/a", 1, 1, "error", "m", "d/A"⟩] ∧
    Sarif.levelCount .error (report.sarif "") = 1 ∧ Console.passMark ∉ report.spans := by
  obtain ⟨s, hread, hreport⟩ := report_pattern
  have hrun : (run twoDocuments ⟨2024, 1, 1⟩ { plainOptions with rulePaths := [⟨"r"⟩] }).1 =
      .ok ⟨[s], [patternSummary], ⟨false, 1, 1, some .must, .guidance⟩⟩ :=
    run_eq_ok.mpr ⟨Config.default, [s], loads_plainOptions (by cbv) hread, hreport.symm⟩
  obtain ⟨-, ⟨htext, hsarif, -⟩, hfooter, hpass, -⟩ := forms_agree hrun ""
  have hjson : Summary.toldIn (Report.json ⟨[s], [patternSummary], ⟨false, 1, 1, some .must, .guidance⟩⟩) =
      [⟨"d", "/a", 1, 1, "MUST", "m", "A"⟩] := Summary.toldIn_arr [patternSummary]
  have hcount : Console.footerCount .error
      (Report.spans ⟨[s], [patternSummary], ⟨false, 1, 1, some .must, .guidance⟩⟩) = 1 :=
    Console.footerCount_spans ..
  refine ⟨_, hrun, htext.trans hjson, hsarif.trans ?_, (hfooter .error).symm.trans hcount, ?_⟩
  · rw [hjson]
    decide
  · rw [← hpass, hcount]
    decide

end Linting

end RuleLint
