import RuleLint.Proofs.Linting.ByFile
import RuleLint.Proofs.Linting.Failure
import RuleLint.Proofs.Linting.Visit

/-!
# Rules do not interfere

In a run every rule finds what it finds in a run of its own, and fails as it fails there. So the other
rules of a rule set make no difference to a rule.
-/

namespace RuleLint

namespace Linting

/-- Parts of a list that are told apart by a key can be had back. -/
theorem filter_flatMap_of_nodup {α β κ : Type} [DecidableEq κ] {l : List α} {key : α → κ}
    {tag : β → κ} {f : α → List β} (hnd : (l.map key).Nodup)
    (htag : ∀ a ∈ l, ∀ b ∈ f a, tag b = key a) {a : α} (ha : a ∈ l) :
    (l.flatMap f).filter (tag · = key a) = f a := by
  induction l with
  | nil => simp at ha
  | cons c l ih =>
    rw [List.map_cons, List.nodup_cons] at hnd
    rw [List.forall_mem_cons] at htag
    rw [List.flatMap_cons, List.filter_append]
    rcases List.mem_cons.mp ha with rfl | hal
    · have hself : (f a).filter (tag · = key a) = f a :=
        List.filter_eq_self.mpr fun b hb => by simpa using htag.1 b hb
      have hrest : (l.flatMap f).filter (tag · = key a) = [] := by
        refine List.filter_eq_nil_iff.mpr fun b hb => ?_
        obtain ⟨c, hc, hbc⟩ := List.mem_flatMap.mp hb
        rw [htag.2 c hc b hbc, decide_eq_true_eq]
        exact fun h => hnd.1 (h ▸ List.mem_map_of_mem hc)
      rw [hself, hrest, List.append_nil]
    · have hfirst : (f c).filter (tag · = key a) = [] := by
        refine List.filter_eq_nil_iff.mpr fun b hb => ?_
        rw [htag.1 b hb, decide_eq_true_eq]
        exact fun h => hnd.1 (h ▸ List.mem_map_of_mem hal)
      rw [hfirst, ih hnd.2 htag.2 hal, List.nil_append]

section
variable {r : Registry} {t : FileTree} {domain : String} {rules : List Rule} {paths : List FilePath}
  {rule : Rule}

theorem findings_alone (r : Registry) (t : FileTree) (domain : String) (rule : Rule)
    (paths : List FilePath) :
    (files r t domain [rule] paths).1.findings =
      sortByFile ((visits paths).flatMap fun v => (found r t rule v.1 v.2).getD []) := by
  rw [files_eq]
  simp only [outcome, List.flatMap_cons, List.flatMap_nil, List.append_nil]

theorem errors_alone (r : Registry) (t : FileTree) (domain : String) (rule : Rule)
    (paths : List FilePath) :
    (files r t domain [rule] paths).1.errors = ((error? r t rule paths).map rule.errorOf).toList := by
  rw [files_eq]
  dsimp only
  rw [List.filterMap_eq_flatMap_toList, List.flatMap_cons, List.flatMap_nil, List.append_nil]

theorem errors_eq_flatMap (r : Registry) (t : FileTree) (domain : String) (rules : List Rule)
    (paths : List FilePath) :
    (files r t domain rules paths).1.errors =
      rules.flatMap fun rule => (files r t domain [rule] paths).1.errors := by
  simp only [errors_alone]
  rw [files_eq]
  dsimp only
  rw [List.filterMap_eq_flatMap_toList]

theorem ruleId_of_mem_errors {e : RuleError} (h : e ∈ (files r t domain [rule] paths).1.errors) :
    e.ruleId = rule.id := by
  rw [errors_alone, Option.mem_toList, Option.map_eq_some_iff] at h
  obtain ⟨_, _, rfl⟩ := h
  rfl

theorem ruleId_of_mem_found {visited : List FilePath} {file : FilePath} {f : Finding}
    (h : f ∈ (found r t rule visited file).getD []) : f.ruleId = rule.id := by
  obtain ⟨ms, hms⟩ := matches_of_found r t rule visited file
  rw [hms] at h
  obtain ⟨m, _, rfl⟩ := List.mem_map.mp h
  rfl

theorem findings_of_rule (h : (rules.map Rule.id).Nodup) (hrule : rule ∈ rules) :
    (files r t domain rules paths).1.findings.filter (fun f => f.ruleId = rule.id) =
      (files r t domain [rule] paths).1.findings := by
  rw [findings_alone, files_eq]
  dsimp only
  rw [filter_sortByFile, List.filter_flatMap]
  congr 1
  refine List.flatMap_congr fun v _ => ?_
  exact filter_flatMap_of_nodup h (fun a _ b hb => ruleId_of_mem_found hb) hrule

theorem errors_of_rule (h : (rules.map Rule.id).Nodup) (hrule : rule ∈ rules) :
    (files r t domain rules paths).1.errors.filter (fun e => e.ruleId = rule.id) =
      (files r t domain [rule] paths).1.errors := by
  rw [errors_eq_flatMap]
  exact filter_flatMap_of_nodup h (fun a _ b hb => ruleId_of_mem_errors hb) hrule

end

/-- Each rule of a rule set finds what it finds alone and has the error that it has alone, whatever rules
are there beside it. -/
theorem rules_independent (r : Registry) (t : FileTree) (domain : String) (paths : List FilePath)
    {rules : List Rule} (h : (rules.map Rule.id).Nodup) :
    (∀ rule ∈ rules, (files r t domain rules paths).1.findings.filter (fun f => f.ruleId = rule.id) =
      (files r t domain [rule] paths).1.findings) ∧
    (files r t domain rules paths).1.errors =
      rules.flatMap (fun rule => (files r t domain [rule] paths).1.errors) ∧
    ∀ others : List Rule, (others.map Rule.id).Nodup → ∀ rule ∈ rules, rule ∈ others →
      (files r t domain rules paths).1.findings.filter (fun f => f.ruleId = rule.id) =
        (files r t domain others paths).1.findings.filter (fun f => f.ruleId = rule.id) ∧
      (files r t domain rules paths).1.errors.filter (fun e => e.ruleId = rule.id) =
        (files r t domain others paths).1.errors.filter (fun e => e.ruleId = rule.id) := by
  refine ⟨fun rule hrule => findings_of_rule h hrule, errors_eq_flatMap r t domain rules paths, ?_⟩
  intro others hothers rule hrule hother
  constructor
  · rw [findings_of_rule h hrule, findings_of_rule hothers hother]
  · rw [errors_of_rule h hrule, errors_of_rule hothers hother]

def unknownLanguage : Rule := ⟨"B", "t", .never, .ast "cobol" "(_) @violation", "m", none⟩

theorem rules_independent_anyNode :
    ([unknownLanguage, anyNode].map Rule.id).Nodup ∧
    let t : FileTree := ⟨.dir [("a.tsx", .file (.text "<a/>")), ("b.ts", .file (.text "f()"))], []⟩
    let paths : List FilePath := [⟨"b.ts"⟩, ⟨"a.tsx"⟩]
    let both := (files .full t "d" [unknownLanguage, anyNode] paths).1
    let one := (files .full t "d" [anyNode] paths).1
    both.findings.filter (fun f => f.ruleId = "A") = one.findings ∧
      both.errors = (files .full t "d" [unknownLanguage] paths).1.errors ++ one.errors ∧
      both.errors.filter (fun e => e.ruleId = "A") = one.errors.filter fun e => e.ruleId = "A" := by
  have hnd : ([unknownLanguage, anyNode].map Rule.id).Nodup := by decide
  refine ⟨hnd, ?_⟩
  intro t paths both one
  have h := rules_independent .full t "d" paths hnd
  refine ⟨h.1 anyNode (by simp), by simpa using h.2.1, ?_⟩
  exact (h.2.2 [anyNode] (by decide) anyNode (by simp) (by simp)).2

end Linting

end RuleLint
