import RuleLint.Proofs.Linting.Composition
import RuleLint.Proofs.Policy

/-!
# Runs with other floors

The rule sets of a run and what they find do not depend on the floor of severities. So runs that differ in their floors
alone succeed together, and the report with a higher floor is the one with a lower floor of which some findings are
hidden (`floor_hides`).
-/

namespace RuleLint

/-! ## Findings that are hidden -/

def Summary.hiding (floor : Severity) (s : Summary) : Summary :=
  { s with findings := s.findings.filter (floor ≤ ·.severity) }

theorem Severity.max?_filter_le (m : Severity) (l : List Severity) :
    (l.filter (m ≤ ·)).max? = l.max?.filter (m ≤ ·) := by
  have hmax : ∀ v w : Severity, (some (max v w)).filter (m ≤ ·) =
      if m ≤ v then some (((some w).filter (m ≤ ·)).elim v (max v)) else (some w).filter (m ≤ ·) := by
    intro v w
    cases m <;> cases v <;> cases w <;> rfl
  induction l with
  | nil => rfl
  | cons v l ih =>
    rw [List.filter_cons, List.max?_cons]
    cases hl : l.max? with
    | none =>
      rw [hl] at ih
      by_cases hv : m ≤ v <;> simp [Option.filter, hv, List.max?_cons, ih]
    | some w =>
      rw [hl] at ih
      rw [Option.elim_some, hmax]
      by_cases hv : m ≤ v <;> simp [hv, List.max?_cons, ih]

section
variable {p q : Policy} {l : List Finding} {m : Severity} {total : Nat}

theorem Policy.total_evaluate : (p.evaluate total l).total = total := rfl

theorem Policy.highest_evaluate_filter :
    (q.evaluate total (l.filter (m ≤ ·.severity))).highest = (p.evaluate total l).highest.filter (m ≤ ·) := by
  unfold evaluate
  dsimp only
  rw [← Severity.max?_filter_le, List.filter_map]
  rfl

/-- What blocks is not below the floors up to `must`. -/
theorem Policy.pass_evaluate_filter (hm : m ≤ .must) :
    (q.evaluate total (l.filter (m ≤ ·.severity))).pass = (p.evaluate total l).pass := by
  have hblocks : ∀ f : Finding, f.severity.isBlocking → m ≤ f.severity := fun f hf =>
    Severity.le_trans hm (Severity.must_le_of_isBlocking hf)
  rw [← Bool.not_inj_iff, Bool.eq_iff_iff, Bool.not_eq_true', Bool.not_eq_true', pass_evaluate, pass_evaluate]
  simp only [List.mem_filter, decide_eq_true_eq]
  constructor
  · rintro ⟨f, ⟨hf, -⟩, hblocking⟩
    exact ⟨f, hf, hblocking⟩
  · rintro ⟨f, hf, hblocking⟩
    exact ⟨f, ⟨hf, hblocks f hblocking⟩, hblocking⟩

end

namespace Linting

/-! ## Reports -/

def reportAt (t : FileTree) (c : Config) (base : FilePath) (sets : List RuleSet) (floor : Severity) : Report :=
  (reportOn .full t (withFloor c (some floor)) base sets).1

section
variable {t : FileTree} {c : Config} {base : FilePath} {sets : List RuleSet} {m m' : Severity}

/-- What a rule set finds does not depend on the floor. -/
theorem ruleSetSummary_withFloor (floor : Option Severity) (s : RuleSet) :
    ruleSetSummary .full t (withFloor c floor) base s = ruleSetSummary .full t c base s := by
  have hexclude : (withFloor c floor).exclude = c.exclude := rfl
  have hignore : (withFloor c floor).respectIgnoreFile = c.respectIgnoreFile := rfl
  rw [ruleSetSummary, hexclude, hignore, ruleSetSummary]

theorem summaries_reportAt_eq (m : Severity) : (reportAt t c base sets m).summaries =
    sets.map fun s => applyPolicy { c.policy with floor := m } (ruleSetSummary .full t c base s).1 := by
  unfold reportAt reportOn
  simp only [List.map_map]
  refine List.map_congr_left fun s _ => ?_
  rw [Function.comp_apply, ruleSetSummary_withFloor]
  rfl

/-- The verdict is on the findings that count, out of those found, on which the floor has no part. -/
theorem verdict_reportAt_eq (m : Severity) : (reportAt t c base sets m).verdict =
    ({ c.policy with floor := m } : Policy).evaluate
      (sets.flatMap fun s => (ruleSetSummary .full t c base s).1.findings).length
      ((reportAt t c base sets m).summaries.flatMap (·.findings)) := by
  unfold reportAt reportOn
  simp only [List.flatMap_map, ruleSetSummary_withFloor]
  rfl

theorem total_reportAt (m m' : Severity) :
    (reportAt t c base sets m').verdict.total = (reportAt t c base sets m).verdict.total := by
  rw [verdict_reportAt_eq, verdict_reportAt_eq, Policy.total_evaluate, Policy.total_evaluate]

theorem ruleErrors_reportAt (m m' : Severity) :
    (reportAt t c base sets m').ruleErrors = (reportAt t c base sets m).ruleErrors := by
  unfold Report.ruleErrors
  rw [summaries_reportAt_eq, summaries_reportAt_eq, List.flatMap_map, List.flatMap_map]
  rfl

theorem summaries_reportAt (h : m ≤ m') : (reportAt t c base sets m').summaries =
    (reportAt t c base sets m).summaries.map (Summary.hiding m') := by
  rw [summaries_reportAt_eq, summaries_reportAt_eq, List.map_map]
  refine List.map_congr_left fun s _ => ?_
  unfold applyPolicy
  rw [Policy.apply_floor _ _ _ h]
  rfl

theorem findings_reportAt (h : m ≤ m') : (reportAt t c base sets m').summaries.flatMap (·.findings) =
    ((reportAt t c base sets m).summaries.flatMap (·.findings)).filter (m' ≤ ·.severity) := by
  rw [summaries_reportAt h, List.flatMap_map, List.filter_flatMap]
  rfl

theorem effective_reportAt (h : m ≤ m') :
    (reportAt t c base sets m').verdict.effective ≤ (reportAt t c base sets m).verdict.effective := by
  rw [verdict_reportAt_eq, verdict_reportAt_eq, findings_reportAt h]
  exact List.length_filter_le _ _

theorem highest_reportAt (h : m ≤ m') : (reportAt t c base sets m').verdict.highest =
    (reportAt t c base sets m).verdict.highest.filter (m' ≤ ·) := by
  rw [verdict_reportAt_eq, verdict_reportAt_eq, findings_reportAt h]
  exact Policy.highest_evaluate_filter

theorem pass_reportAt (hm : m ≤ .must) :
    (reportAt t c base sets m).verdict.pass = (reportAt t c base sets .guidance).verdict.pass := by
  rw [verdict_reportAt_eq, verdict_reportAt_eq, findings_reportAt (Severity.guidance_le m)]
  exact Policy.pass_evaluate_filter hm

theorem exitCode_reportAt_must (hm : m ≤ .must) :
    (reportAt t c base sets m).exitCode = (reportAt t c base sets .guidance).exitCode := by
  have herrors : ((reportAt t c base sets m).summaries.any fun s => !s.errors.isEmpty) =
      (reportAt t c base sets .guidance).summaries.any fun s => !s.errors.isEmpty := by
    rw [summaries_reportAt_eq, summaries_reportAt_eq, List.any_map, List.any_map]
    rfl
  unfold Report.exitCode
  rw [herrors, pass_reportAt hm]

end

/-! ## Runs -/

theorem loads_floor {t : FileTree} {o : RunOptions} {c : Config} {sets : List RuleSet} (floor : Option Severity) :
    Loads t { o with floor } c sets ↔ Loads t o c sets := Iff.rfl

/-- A higher floor only hides findings, and a policy leaves alone what it has left. So the runs with other floors
report on the same rule sets, the reports differ in what is hidden, and nothing that blocks is hidden by a floor up to
`must`. -/
theorem floor_hides :
    (∀ (p : Policy) (domain : String) (l : List Finding) (m m' : Severity), m ≤ m' →
      ({ p with floor := m' } : Policy).apply domain l =
        (({ p with floor := m } : Policy).apply domain l).filter (m' ≤ ·.severity)) ∧
    (∀ (p : Policy) (domain : String) (l : List Finding), p.apply domain (p.apply domain l) = p.apply domain l) ∧
    ∀ (t : FileTree) (today : Date) (o : RunOptions) (r : Report), (run t today o).1 = .ok r →
      ∃ (c : Config) (at_ : Severity → Report), loadConfig t o = .ok c ∧
        (∀ floor, (run t today { o with floor }).1 = .ok (at_ (floor.getD c.policy.floor))) ∧
        (∀ m, (at_ m).verdict.total = r.verdict.total ∧ (at_ m).ruleErrors = r.ruleErrors) ∧
        (∀ m m', m ≤ m' → (at_ m').summaries = (at_ m).summaries.map (Summary.hiding m') ∧
          (at_ m').verdict.effective ≤ (at_ m).verdict.effective ∧
          (at_ m').verdict.highest = (at_ m).verdict.highest.filter (m' ≤ ·)) ∧
        ∀ m, m ≤ .must → (at_ m).verdict.pass = (at_ .guidance).verdict.pass ∧
          (at_ m).exitCode = (at_ .guidance).exitCode := by
  refine ⟨fun p domain l m m' h => p.apply_floor domain l h, fun p domain l => p.apply_apply domain l,
    fun t today o r hrun => ?_⟩
  obtain ⟨c, sets, hloads, rfl⟩ := run_eq_ok.mp hrun
  refine ⟨c, reportAt t c o.base sets, hloads.1, fun floor => ?_, fun m => ?_, fun m m' h => ?_, fun m hm => ?_⟩
  · exact run_eq_ok.mpr ⟨c, sets, (loads_floor floor).mpr hloads, rfl⟩
  · exact ⟨total_reportAt (o.floor.getD c.policy.floor) m, ruleErrors_reportAt (o.floor.getD c.policy.floor) m⟩
  · exact ⟨summaries_reportAt h, effective_reportAt h, highest_reportAt h⟩
  · exact ⟨pass_reportAt hm, exitCode_reportAt_must hm⟩

theorem floor_hides_twoDocuments : ∃ (r : Report) (at_ : Severity → Report),
    (run twoDocuments ⟨2024, 1, 1⟩ { plainOptions with rulePaths := [⟨"r"⟩] }).1 = .ok r ∧
    (∀ m, (run twoDocuments ⟨2024, 1, 1⟩ { plainOptions with rulePaths := [⟨"r"⟩], floor := some m }).1 =
      .ok (at_ m)) ∧
    r = at_ .guidance ∧ Severity.guidance ≤ .never ∧ Severity.must ≤ .must ∧
    ((at_ .must).verdict.pass = false ∧ (at_ .must).exitCode = 1) ∧
    (at_ .never).verdict.total = 1 ∧ (at_ .never).verdict.highest = none := by
  obtain ⟨s, hrun⟩ := run_pattern ⟨2024, 1, 1⟩
  obtain ⟨-, -, hruns⟩ := floor_hides
  obtain ⟨c, at_, hc, hall, htotal, hhides, hpass⟩ := hruns _ _ _ _ hrun
  obtain rfl : c = Config.default := Except.ok.inj (hc.symm.trans loadConfig_plainOptions)
  have hlowest : patternReport s = at_ .guidance := Except.ok.inj (hrun.symm.trans (hall none))
  have hle : Severity.guidance ≤ .never := by decide
  have hmust : Severity.must ≤ .must := by decide
  have hhighest := (hhides .guidance .never hle).2.2
  obtain ⟨hpassed, hcode⟩ := hpass .must hmust
  rw [← hlowest] at hhighest hpassed hcode
  exact ⟨_, at_, hrun, fun m => hall (some m), hlowest, hle, hmust, ⟨hpassed, hcode⟩, (htotal .never).1, hhighest⟩

end Linting

end RuleLint
