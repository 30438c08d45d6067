import RuleLint.Linting.Run
import RuleLint.Proofs.Linting.Errors

/-!
# Exit codes of reports

The policy overrides the severities of the findings that are not ignored and then drops those below the
floor, so a report is against the files exactly if a finding of the summaries before the policy blocks
(`pass_reportOn`). The policy leaves the errors of rules alone.
-/

namespace RuleLint

theorem Severity.isBlocking_iff {v : Severity} : v.isBlocking ↔ v = .never ∨ v = .must := by
  cases v <;> simp [isBlocking]

/-! ## Policies -/

namespace Policy

/-- The severity that a finding counts with: an override for its domain goes before one for all domains. -/
inductive CountsAs (p : Policy) (domain : String) (f : Finding) : Severity → Prop
  | inDomain {v : Severity} (h : p.override? (qualified domain f.ruleId) = some v) : CountsAs p domain f v
  | everywhere {v : Severity} (hdomain : p.override? (qualified domain f.ruleId) = none)
      (h : p.override? f.ruleId = some v) : CountsAs p domain f v
  | own (hdomain : p.override? (qualified domain f.ruleId) = none) (h : p.override? f.ruleId = none) :
      CountsAs p domain f f.severity

/-- A finding that fails a run: its rule is not ignored, and it counts as at least `floor` and as one of
the two highest severities. -/
structure Blocks (p : Policy) (floor : Severity) (domain : String) (f : Finding) : Prop where
  notIgnored : f.ruleId ∉ p.ignored
  notIgnoredInDomain : qualified domain f.ruleId ∉ p.ignored
  severe : ∃ v, p.CountsAs domain f v ∧ (v = .never ∨ v = .must) ∧ floor ≤ v

section
variable {p : Policy} {domain : String} {f : Finding} {l : List Finding}

theorem countsAs_iff {v : Severity} : p.CountsAs domain f v ↔ p.severityOf domain f = v := by
  unfold severityOf
  constructor
  · rintro (h | ⟨hdomain, h⟩ | ⟨hdomain, h⟩)
    · rw [h]
      rfl
    · rw [hdomain, h]
      rfl
    · rw [hdomain, h]
      rfl
  · rintro rfl
    cases hdomain : p.override? (qualified domain f.ruleId) with
    | some v => exact .inDomain hdomain
    | none =>
      cases h : p.override? f.ruleId with
      | some v => exact .everywhere hdomain h
      | none => exact .own hdomain h

theorem not_ignores_iff {id : String} :
    p.ignores domain id = false ↔ id ∉ p.ignored ∧ qualified domain id ∉ p.ignored := by
  simp [ignores]

theorem blocks_iff : p.Blocks p.floor domain f ↔ p.ignores domain f.ruleId = false ∧
    (p.severityOf domain f).isBlocking ∧ p.floor ≤ p.severityOf domain f := by
  rw [not_ignores_iff, Severity.isBlocking_iff]
  constructor
  · rintro ⟨hignored, hdomain, v, hv, hblocking, hfloor⟩
    obtain rfl := countsAs_iff.mp hv
    exact ⟨⟨hignored, hdomain⟩, hblocking, hfloor⟩
  · rintro ⟨⟨hignored, hdomain⟩, hblocking, hfloor⟩
    exact ⟨hignored, hdomain, _, countsAs_iff.mpr rfl, hblocking, hfloor⟩

/-- The floor of a policy has no part in what its findings count as. -/
theorem blocks_floor {v floor : Severity} :
    ({ p with floor := v } : Policy).Blocks floor domain f ↔ p.Blocks floor domain f := by
  have hcounts : ∀ w, ({ p with floor := v } : Policy).CountsAs domain f w ↔ p.CountsAs domain f w := by
    intro w
    rw [countsAs_iff, countsAs_iff]
    rfl
  constructor
  · rintro ⟨hignored, hdomain, w, hw, h⟩
    exact ⟨hignored, hdomain, w, (hcounts w).mp hw, h⟩
  · rintro ⟨hignored, hdomain, w, hw, h⟩
    exact ⟨hignored, hdomain, w, (hcounts w).mpr hw, h⟩

theorem exists_blocking_apply :
    (∃ g ∈ p.apply domain l, g.severity.isBlocking) ↔ ∃ f ∈ l, p.Blocks p.floor domain f := by
  simp only [blocks_iff, apply, List.mem_filter, List.mem_map, decide_eq_true_eq]
  constructor
  · rintro ⟨_, ⟨⟨f, ⟨hf, hignored⟩, rfl⟩, hfloor⟩, hblocking⟩
    exact ⟨f, hf, by simpa using hignored, hblocking, hfloor⟩
  · rintro ⟨f, hf, hignored, hblocking, hfloor⟩
    exact ⟨_, ⟨⟨f, ⟨hf, by simpa using hignored⟩, rfl⟩, hfloor⟩, hblocking⟩

theorem pass_evaluate {total : Nat} :
    (p.evaluate total l).pass = false ↔ ∃ f ∈ l, f.severity.isBlocking := by
  simp [evaluate]

end

end Policy

namespace Linting

/-! ## Rule sets -/

def discovered (t : FileTree) (c : Config) (base : FilePath) (s : RuleSet) : List FilePath :=
  (Discovery.files t s.filePatterns s.excludePatterns base
    { extraExcludes := c.exclude, respectIgnoreFile := c.respectIgnoreFile }).1

def HasRuleError (t : FileTree) (c : Config) (base : FilePath) (s : RuleSet) : Prop :=
  ∃ rule ∈ s.rules, ∃ e, CannotStart .full rule e ∨
    ∃ file ∈ discovered t c base s, RejectedIn .full t rule file e

def HasBlocking (t : FileTree) (c : Config) (base : FilePath) (floor : Severity) (s : RuleSet) : Prop :=
  ∃ f ∈ (files .full t s.domain s.rules (discovered t c base s)).1.findings,
    c.policy.Blocks floor s.domain f

section
variable {r : Registry} {t : FileTree} {c : Config} {base : FilePath} {s : RuleSet} {sets : List RuleSet}

theorem hasBlocking_withFloor {given : Option Severity} {floor : Severity} :
    HasBlocking t (withFloor c given) base floor s ↔ HasBlocking t c base floor s := by
  simp only [HasBlocking, withFloor, Policy.blocks_floor]
  rfl

theorem ruleSetSummary_eq : (ruleSetSummary r t c base s).1 =
    (files r t s.domain s.rules (discovered t c base s)).1 := rfl

theorem errors_ne_nil_iff : (ruleSetSummary .full t c base s).1.errors ≠ [] ↔ HasRuleError t c base s := by
  have herror : ∀ rule, (∃ e, error? .full t rule (discovered t c base s) = some e) ↔
      ∃ e, CannotStart .full rule e ∨
        ∃ file ∈ discovered t c base s, RejectedIn .full t rule file e := by
    intro rule
    simp only [error?_iff]
    constructor
    · rintro ⟨e, hstart | ⟨_, hrejected⟩⟩
      · exact ⟨e, .inl hstart⟩
      · exact ⟨e, .inr hrejected⟩
    · rintro ⟨e, h⟩
      -- `error?_iff` counts a rejection only if the rule can start
      by_cases hstart : ∃ e, CannotStart .full rule e
      · obtain ⟨e, he⟩ := hstart
        exact ⟨e, .inl he⟩
      · rw [not_exists] at hstart
        exact ⟨e, .inr ⟨hstart, h.resolve_left (hstart e)⟩⟩
  unfold HasRuleError
  simp only [← herror]
  rw [ruleSetSummary_eq, Ne, errors_eq_nil_iff]
  simp [Option.ne_none_iff_exists']

/-! ## Reports -/

namespace Report

theorem exitCode_eq_two {r : Report} : r.exitCode = 2 ↔ ∃ s ∈ r.summaries, s.errors ≠ [] := by
  have herrors : (r.summaries.any fun s => !s.errors.isEmpty) ↔ ∃ s ∈ r.summaries, s.errors ≠ [] := by simp
  rw [← herrors, exitCode]
  cases r.summaries.any fun s => !s.errors.isEmpty <;> cases r.verdict.pass <;> simp

theorem exitCode_eq_one {r : Report} : r.exitCode = 1 ↔ r.exitCode ≠ 2 ∧ r.verdict.pass = false := by
  unfold exitCode
  cases r.summaries.any fun s => !s.errors.isEmpty <;> cases r.verdict.pass <;> simp

theorem exitCode_eq_zero {r : Report} : r.exitCode = 0 ↔ r.exitCode ≠ 2 ∧ r.verdict.pass = true := by
  unfold exitCode
  cases r.summaries.any fun s => !s.errors.isEmpty <;> cases r.verdict.pass <;> simp

end Report

theorem exitCode_reportOn : (reportOn .full t c base sets).1.exitCode = 2 ↔
    ∃ s ∈ sets, HasRuleError t c base s := by
  rw [Report.exitCode_eq_two]
  simp only [← errors_ne_nil_iff]
  simp [reportOn, applyPolicy]

theorem pass_reportOn : (reportOn .full t c base sets).1.verdict.pass = false ↔
    ∃ s ∈ sets, HasBlocking t c base c.policy.floor s := by
  have hset : ∀ s, (∃ f ∈ (applyPolicy c.policy (ruleSetSummary .full t c base s).1).findings,
      f.severity.isBlocking) ↔ HasBlocking t c base c.policy.floor s := fun s =>
    Policy.exists_blocking_apply
  simp only [← hset]
  simp only [reportOn, Policy.pass_evaluate, List.mem_flatMap, List.mem_map]
  constructor
  · rintro ⟨f, ⟨_, ⟨_, ⟨s, hs, rfl⟩, rfl⟩, hf⟩, hblocking⟩
    exact ⟨s, hs, f, hf, hblocking⟩
  · rintro ⟨s, hs, f, hf, hblocking⟩
    exact ⟨f, ⟨_, ⟨_, ⟨s, hs, rfl⟩, rfl⟩, hf⟩, hblocking⟩

end

end Linting

end RuleLint
