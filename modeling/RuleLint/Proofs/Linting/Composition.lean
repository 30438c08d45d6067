import RuleLint.Proofs.Linting.Setup
import RuleLint.Proofs.Linting.Verdict

/-!
# Runs over several rule sets

The rule sets of a run do not know of each other. A run on some documents and then others reports what
the two runs on them report, one after the other; it fails if one of them does (`run_append`).
-/

namespace RuleLint

/-! ## Verdicts -/

instance : Std.Associative (max : Severity → Severity → Severity) where
  assoc a b c := by cases a <;> cases b <;> cases c <;> rfl

theorem max?_append {α : Type} [Max α] [Std.Associative (max : α → α → α)] (a b : List α) :
    (a ++ b).max? = max a.max? b.max? := by
  induction a with
  | nil => rw [List.nil_append]; cases b.max? <;> rfl
  | cons x a ih =>
    rw [List.cons_append, List.max?_cons, List.max?_cons, ih]
    cases a.max? with
    | none => cases b.max? <;> rfl
    | some y =>
      cases b.max? with
      | none => rfl
      | some z => exact congrArg some (Std.Associative.assoc x y z).symm

def Verdict.and (a b : Verdict) : Verdict where
  pass := a.pass && b.pass
  total := a.total + b.total
  effective := a.effective + b.effective
  highest := max a.highest b.highest
  floor := a.floor

theorem Policy.evaluate_append (p : Policy) (m n : Nat) (a b : List Finding) :
    p.evaluate (m + n) (a ++ b) = (p.evaluate m a).and (p.evaluate n b) := by
  unfold evaluate Verdict.and
  rw [List.any_append, Bool.not_or, List.length_append, List.map_append, max?_append]

namespace Linting

/-! ## Reports -/

def Report.append (a b : Report) : Report where
  ruleSets := a.ruleSets ++ b.ruleSets
  summaries := a.summaries ++ b.summaries
  verdict := a.verdict.and b.verdict

theorem reportOn_append (r : Registry) (t : FileTree) (c : Config) (base : FilePath)
    (a b : List RuleSet) :
    (reportOn r t c base (a ++ b)).1 = (reportOn r t c base a).1.append (reportOn r t c base b).1 := by
  unfold reportOn Report.append
  dsimp only
  rw [List.map_append, List.map_append, List.flatMap_append, List.flatMap_append, List.length_append,
    Policy.evaluate_append]

def resultCode : Except LintError Report → Nat
  | .ok r => r.exitCode
  | .error _ => LintError.exitCode

theorem Report.exitCode_le (r : Report) : r.exitCode ≤ 2 := by
  unfold exitCode
  split
  · exact Nat.le_refl 2
  · split <;> decide

theorem Report.exitCode_append (a b : Report) : (a.append b).exitCode = max a.exitCode b.exitCode := by
  unfold exitCode append Verdict.and
  dsimp only
  rw [List.any_append]
  cases a.summaries.any fun s => !s.errors.isEmpty <;> cases b.summaries.any fun s => !s.errors.isEmpty <;>
    cases a.verdict.pass <;> cases b.verdict.pass <;> rfl

theorem resultCode_le (x : Except LintError Report) : resultCode x ≤ 2 := by
  cases x with
  | ok r => exact r.exitCode_le
  | error e => exact Nat.le_refl 2

/-! ## Setup -/

/-- A run on documents that are given, none being looked for. -/
def RunOptions.given (o : RunOptions) (paths : List FilePath) : RunOptions :=
  { o with rulePaths := paths, auto := false }

theorem ruleSetPaths_given {t : FileTree} {o : RunOptions} {c : Config} {given paths : List FilePath}
    (hne : given ≠ []) :
    ruleSetPaths t (o.given given) c = .ok paths ↔ (∀ p ∈ given, t.isFile p) ∧ paths = given := by
  unfold ruleSetPaths RunOptions.given
  dsimp only
  rw [if_neg (by simp [hne])]
  cases hmissing : given.find? fun p => !t.isFile p with
  | some p =>
    have hp := List.find?_some hmissing
    simp only [reduceCtorEq, false_iff, not_and]
    intro hall
    rw [hall p (List.mem_of_find?_eq_some hmissing)] at hp
    cases hp
  | none =>
    have hall : ∀ p ∈ given, t.isFile p := by simpa using hmissing
    simp only [Bool.false_eq_true, if_false, addPaths, Except.ok.injEq]
    exact ⟨fun h => ⟨hall, h.symm⟩, fun h => h.2.symm⟩

theorem loads_given {t : FileTree} {o : RunOptions} {c : Config} {given : List FilePath}
    {sets : List RuleSet} (hne : given ≠ []) :
    Loads t (o.given given) c sets ↔
      loadConfig t o = .ok c ∧ (∀ p ∈ given, t.isFile p) ∧ RuleSet.AllRead t given sets := by
  unfold Loads
  simp only [ruleSetPaths_given hne]
  constructor
  · rintro ⟨hc, _, ⟨hfiles, rfl⟩, hsets⟩
    exact ⟨hc, hfiles, hsets⟩
  · rintro ⟨hc, hfiles, hsets⟩
    exact ⟨hc, given, ⟨hfiles, rfl⟩, hsets⟩

theorem allRead_append {t : FileTree} {ps qs : List FilePath} {sets : List RuleSet} :
    RuleSet.AllRead t (ps ++ qs) sets ↔
      ∃ a b, RuleSet.AllRead t ps a ∧ RuleSet.AllRead t qs b ∧ sets = a ++ b := by
  unfold RuleSet.AllRead
  induction ps generalizing sets with
  | nil =>
    simp only [List.nil_append, List.forall₂_nil_left_iff]
    constructor
    · exact fun h => ⟨[], sets, rfl, h, rfl⟩
    · rintro ⟨_, b, rfl, h, rfl⟩
      exact h
  | cons p ps ih =>
    simp only [List.cons_append, List.forall₂_cons_left_iff, ih]
    constructor
    · rintro ⟨s, _, hs, ⟨a, b, ha, hb, rfl⟩, rfl⟩
      exact ⟨s :: a, b, ⟨s, a, hs, ha, rfl⟩, hb, rfl⟩
    · rintro ⟨_, b, ⟨s, a, hs, ha, rfl⟩, hb, rfl⟩
      exact ⟨s, a ++ b, hs, ⟨a, b, ha, hb, rfl⟩, rfl⟩

section
variable {t : FileTree} {today : Date} {o : RunOptions} {ps qs : List FilePath}

theorem loads_append (hp : ps ≠ []) (hq : qs ≠ []) {c : Config} {sets : List RuleSet} :
    Loads t (o.given (ps ++ qs)) c sets ↔ ∃ a b, Loads t (o.given ps) c a ∧ Loads t (o.given qs) c b ∧
      sets = a ++ b := by
  rw [loads_given (List.append_ne_nil_of_left_ne_nil hp qs), allRead_append, List.forall_mem_append]
  simp only [loads_given hp, loads_given hq]
  constructor
  · rintro ⟨hc, ⟨hps, hqs⟩, a, b, ha, hb, rfl⟩
    exact ⟨a, b, ⟨hc, hps, ha⟩, ⟨hc, hqs, hb⟩, rfl⟩
  · rintro ⟨a, b, ⟨hc, hps, ha⟩, ⟨_, hqs, hb⟩, rfl⟩
    exact ⟨hc, ⟨hps, hqs⟩, a, b, ha, hb, rfl⟩

theorem run_append_eq_ok (hp : ps ≠ []) (hq : qs ≠ []) {r : Report} :
    (run t today (o.given (ps ++ qs))).1 = .ok r ↔
      ∃ a b, (run t today (o.given ps)).1 = .ok a ∧ (run t today (o.given qs)).1 = .ok b ∧
        r = a.append b := by
  simp only [run_eq_ok, loads_append hp hq]
  constructor
  · rintro ⟨c, _, ⟨a, b, ha, hb, rfl⟩, rfl⟩
    exact ⟨_, _, ⟨c, a, ha, rfl⟩, ⟨c, b, hb, rfl⟩, reportOn_append ..⟩
  · rintro ⟨_, _, ⟨c, a, ha, rfl⟩, ⟨c', b, hb, rfl⟩, rfl⟩
    -- the documents have no part in the configuration
    have hc : c = c' := Except.ok.inj (ha.1.symm.trans hb.1)
    subst hc
    exact ⟨c, a ++ b, ⟨a, b, ha, hb, rfl⟩, (reportOn_append ..).symm⟩

end

/-- A run on documents and then others gives a report exactly if the runs on the two lists do, and it is
then the one report and the other together. The exit code is the greater one in any case. -/
theorem run_append (t : FileTree) (today : Date) (o : RunOptions) {ps qs : List FilePath} (hp : ps ≠ [])
    (hq : qs ≠ []) :
    ((∃ r, (run t today (o.given (ps ++ qs))).1 = .ok r) ↔
      (∃ a, (run t today (o.given ps)).1 = .ok a) ∧ ∃ b, (run t today (o.given qs)).1 = .ok b) ∧
    (∀ r a b, (run t today (o.given (ps ++ qs))).1 = .ok r → (run t today (o.given ps)).1 = .ok a →
      (run t today (o.given qs)).1 = .ok b →
      r.ruleSets = a.ruleSets ++ b.ruleSets ∧ r.summaries = a.summaries ++ b.summaries ∧
      r.verdict.total = a.verdict.total + b.verdict.total ∧
      r.verdict.effective = a.verdict.effective + b.verdict.effective ∧
      r.verdict.pass = (a.verdict.pass && b.verdict.pass) ∧
      r.verdict.highest = max a.verdict.highest b.verdict.highest) ∧
    resultCode (run t today (o.given (ps ++ qs))).1 =
      max (resultCode (run t today (o.given ps)).1) (resultCode (run t today (o.given qs)).1) := by
  have happend : ∀ r, (run t today (o.given (ps ++ qs))).1 = .ok r ↔
      ∃ a b, (run t today (o.given ps)).1 = .ok a ∧ (run t today (o.given qs)).1 = .ok b ∧
        r = a.append b := fun r => run_append_eq_ok hp hq
  refine ⟨?_, ?_, ?_⟩
  · simp only [happend]
    constructor
    · rintro ⟨_, a, b, ha, hb, rfl⟩
      exact ⟨⟨a, ha⟩, b, hb⟩
    · rintro ⟨⟨a, ha⟩, b, hb⟩
      exact ⟨_, a, b, ha, hb, rfl⟩
  · intro r a b hr ha hb
    obtain ⟨a', b', ha', hb', rfl⟩ := (happend r).mp hr
    obtain rfl := Except.ok.inj (ha.symm.trans ha')
    obtain rfl := Except.ok.inj (hb.symm.trans hb')
    exact ⟨rfl, rfl, rfl, rfl, rfl, rfl⟩
  · cases hr : (run t today (o.given (ps ++ qs))).1 with
    | ok r =>
      obtain ⟨a, b, ha, hb, rfl⟩ := (happend r).mp hr
      rw [ha, hb]
      exact Report.exitCode_append a b
    | error e =>
      have hle := fun x => resultCode_le x
      cases ha : (run t today (o.given ps)).1 with
      | error e => exact (Nat.max_eq_left (hle _)).symm
      | ok a =>
        cases hb : (run t today (o.given qs)).1 with
        | error e => exact (Nat.max_eq_right (hle (.ok a))).symm
        | ok b =>
          rw [(happend _).mpr ⟨a, b, ha, hb, rfl⟩] at hr
          cases hr

theorem run_append_twoDocuments :
    ([⟨"r"⟩] : List FilePath) ≠ [] ∧ ([⟨"s"⟩] : List FilePath) ≠ [] ∧
    (∃ r, (run twoDocuments ⟨2024, 1, 1⟩ (plainOptions.given ([⟨"r"⟩] ++ [⟨"s"⟩]))).1 = .ok r) ∧
    resultCode (run twoDocuments ⟨2024, 1, 1⟩ (plainOptions.given ([⟨"r"⟩] ++ [⟨"s"⟩]))).1 = 1 := by
  have hr : ([⟨"r"⟩] : List FilePath) ≠ [] := List.cons_ne_nil _ _
  have hs : ([⟨"s"⟩] : List FilePath) ≠ [] := List.cons_ne_nil _ _
  obtain ⟨blocking, hread, hreport⟩ := report_pattern
  have hblocked : (reportOn .full twoDocuments Config.default ⟨"/"⟩ [blocking]).1.exitCode = 1 := by
    rw [hreport]
    rfl
  have hpassed : (reportOn .full twoDocuments Config.default ⟨"/"⟩ [noRules]).1.exitCode = 0 := by
    rw [Report.exitCode_eq_zero, ne_eq, exitCode_reportOn, ← Bool.not_eq_false, pass_reportOn]
    simp [HasRuleError, HasBlocking, noRules, files_eq, outcome, sortByFile]
  have hrun : ∀ {p : FilePath} {s : RuleSet}, twoDocuments.isFile p →
      RuleSet.read twoDocuments p = .ok s →
      (run twoDocuments ⟨2024, 1, 1⟩ (plainOptions.given [p])).1 =
        .ok (reportOn .full twoDocuments Config.default ⟨"/"⟩ [s]).1 := fun hfile hread =>
    run_eq_ok.mpr ⟨Config.default, _, loads_plainOptions hfile hread, rfl⟩
  have hfirst := hrun (by cbv) hread
  have hsecond := hrun (by cbv) read_noRules
  obtain ⟨hok, -, hcode⟩ := run_append twoDocuments ⟨2024, 1, 1⟩ plainOptions hr hs
  refine ⟨hr, hs, hok.mpr ⟨⟨_, hfirst⟩, _, hsecond⟩, ?_⟩
  rw [hcode, hfirst, hsecond]
  exact congrArg₂ max hblocked hpassed

end Linting

end RuleLint
