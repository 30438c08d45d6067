import Mathlib.Data.List.Forall2
import RuleLint.Proofs.Linting.Independence
import RuleLint.Proofs.Linting.Setup

/-!
# Where findings come from

A run reports on its rule sets in order, and what a summary tells is about rules of the rule set at the same
place (`comesFrom_of_run`).
-/

namespace RuleLint.Linting

structure ComesFrom (set : RuleSet) (s : Summary) : Prop where
  domain : s.domain = set.domain
  findings : ∀ f ∈ s.findings, ∃ rule ∈ set.rules, rule.id = f.ruleId
  errors : ∀ e ∈ s.errors, ∃ rule ∈ set.rules, rule.id = e.ruleId

section
variable {r : Registry} {t : FileTree} {today : Date} {o : RunOptions}

theorem comesFrom_ruleSetSummary (c : Config) (base : FilePath) (set : RuleSet) :
    ComesFrom set (ruleSetSummary r t c base set).1 := by
  unfold ruleSetSummary
  dsimp only
  rw [files_eq]
  refine ⟨rfl, fun f hf => ?_, fun e he => ?_⟩
  · obtain ⟨v, _, hf⟩ := List.mem_flatMap.mp ((sortByFile_perm _).mem_iff.mp hf)
    obtain ⟨rule, hrule, hf⟩ := List.mem_flatMap.mp hf
    exact ⟨rule, hrule, (ruleId_of_mem_found hf).symm⟩
  · obtain ⟨rule, hrule, he⟩ := List.mem_filterMap.mp he
    obtain ⟨_, _, rfl⟩ := Option.map_eq_some_iff.mp he
    exact ⟨rule, hrule, rfl⟩

theorem ComesFrom.applyPolicy {set : RuleSet} {s : Summary} (h : ComesFrom set s) (p : Policy) :
    ComesFrom set (applyPolicy p s) := by
  refine ⟨h.domain, fun f hf => ?_, h.errors⟩
  obtain ⟨g, hg, rfl⟩ := List.mem_map.mp (List.mem_filter.mp hf).1
  exact h.findings g (List.mem_filter.mp hg).1

/-- The summaries of a run are about the rules of its rule sets, one about each. -/
theorem comesFrom_of_run {report : Report} (h : (run t today o).1 = .ok report) :
    List.Forall₂ ComesFrom report.ruleSets report.summaries := by
  obtain ⟨c, sets, _, rfl⟩ := run_eq_ok.mp h
  unfold reportOn
  dsimp only
  rw [List.map_map, List.forall₂_map_right_iff, List.forall₂_same]
  exact fun set _ => (comesFrom_ruleSetSummary _ _ set).applyPolicy _

theorem exists_comesFrom {report : Report} (h : (run t today o).1 = .ok report) {s : Summary}
    (hs : s ∈ report.summaries) : ∃ set ∈ report.ruleSets, ComesFrom set s := by
  have hfrom := comesFrom_of_run h
  obtain ⟨i, hi, rfl⟩ := List.mem_iff_getElem.mp hs
  have hlt : i < report.ruleSets.length := hfrom.length_eq ▸ hi
  exact ⟨report.ruleSets[i], List.getElem_mem hlt, hfrom.get hlt hi⟩

end

end RuleLint.Linting
