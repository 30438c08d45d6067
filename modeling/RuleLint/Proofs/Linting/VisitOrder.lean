import Mathlib.Algebra.Order.BigOperators.Group.List
import Mathlib.Algebra.Order.Group.Nat
import RuleLint.Proofs.Linting.ByFile
import RuleLint.Proofs.Linting.Failure
import RuleLint.Proofs.Linting.Visit
import RuleLint.Proofs.RuleDocument

/-!
# The order of the files

A run over files in another order has the same errors. A rule that is rejected in some of the files runs
on those before the first of them only, so the order can make a difference to what such a rule finds. It
makes none exactly if what such rules find in the list is `Negligible`.
-/

namespace RuleLint

namespace Linting

/-- Rules that fail in files of the list find nothing in any of them, and wherever they run a rule that
does not fail runs too. -/
def Negligible (r : Registry) (t : FileTree) (rules : List Rule) (paths : List FilePath) : Prop :=
  ∀ rule ∈ rules, startError? r rule = none → ∀ broken ∈ paths, ∀ e, RejectedIn r t rule broken e →
    ∀ file ∈ paths, ∀ l, attempt r t rule file = .ok (some l) →
      l = [] ∧ ∃ other ∈ rules, error? r t other paths = none ∧
        ∃ l', attempt r t other file = .ok (some l')

section
variable {r : Registry} {t : FileTree} {domain : String} {rules : List Rule} {rule : Rule}
  {paths p : List FilePath} {file : FilePath}

/-! ## Findings of files in another order -/

theorem filter_same_perm (hd : paths.Pairwise fun a b => ¬ a.same b) (h : p.Perm paths) (q : FilePath) :
    p.filter (·.same q) = paths.filter (·.same q) := by
  have hp := h.filter (·.same q)
  have hpair : (paths.filter (·.same q)).Pairwise fun a b => ¬ a.same b := hd.filter _
  have hall : ∀ a ∈ paths.filter (·.same q), a.same q := fun a ha => (List.mem_filter.mp ha).2
  generalize paths.filter (·.same q) = l at hp hpair hall
  match l with
  | [] => exact hp.eq_nil
  | [a] => exact List.perm_singleton.mp hp
  | a :: b :: l =>
    have hab := List.rel_of_pairwise_cons hpair (List.mem_cons_self (a := b))
    have ha := FilePath.same_iff.mp (hall a (by simp))
    have hb := FilePath.same_iff.mp (hall b (by simp))
    exact absurd (FilePath.same_iff.mpr (ha.trans hb.symm)) hab

theorem filter_inFile_flatMap {f : FilePath → List Finding} (hf : ∀ file, ∀ x ∈ f file, x.file = file)
    (q : FilePath) (l : List FilePath) :
    (l.flatMap f).filter (inFile q) = (l.filter (·.same q)).flatMap f := by
  induction l with
  | nil => rfl
  | cons a l ih =>
    rw [List.flatMap_cons, List.filter_append, ih]
    by_cases ha : a.same q
    · rw [List.filter_cons_of_pos (p := (FilePath.same · q)) ha, List.flatMap_cons, List.filter_eq_self.mpr]
      intro x hx
      rwa [inFile, hf a x hx]
    · rw [List.filter_cons_of_neg (p := (FilePath.same · q)) ha, List.filter_eq_nil_iff.mpr, List.nil_append]
      intro x hx
      rwa [inFile, hf a x hx]

theorem sortByFile_flatMap_perm {f : FilePath → List Finding} (hf : ∀ file, ∀ x ∈ f file, x.file = file)
    (hd : paths.Pairwise fun a b => ¬ a.same b) (h : p.Perm paths) :
    sortByFile (p.flatMap f) = sortByFile (paths.flatMap f) := by
  rw [sortByFile_eq_iff]
  intro q
  rw [filter_inFile_flatMap hf, filter_inFile_flatMap hf, filter_same_perm hd h]

/-! ## Rules that fail make no difference -/

theorem found_of_negligible (h : Negligible r t rules paths) (hrule : rule ∈ rules) (hfile : file ∈ paths)
    {visited : List FilePath} {l : List Finding} (hl : found r t rule visited file = some l) :
    found r t rule paths file = some l ∨
      l = [] ∧ ∃ other ∈ rules, (found r t other paths file).isSome := by
  obtain ⟨he, ha⟩ := found_eq_some_iff.mp hl
  have hs : startError? r rule = none := (error?_eq_none.mp he).1
  cases hp : error? r t rule paths with
  | none => exact .inl (found_eq_some_iff.mpr ⟨hp, ha⟩)
  | some e =>
    obtain ⟨broken, hbroken, hr⟩ := (error?_eq_some_iff hs).mp hp
    obtain ⟨hnil, other, hother, hnone, l', hl'⟩ := h rule hrule hs broken hbroken e hr file hfile l ha
    refine .inr ⟨hnil, other, hother, ?_⟩
    rw [found_eq_some_iff.mpr ⟨hnone, hl'⟩]
    rfl

/-- If they are negligible, the rules that fail can be left out from the start. -/
theorem outcome_of_negligible (h : Negligible r t rules paths) {visited : List FilePath}
    (hv : ∀ f ∈ visited, f ∈ paths) (hfile : file ∈ paths) :
    outcome r t rules visited file = outcome r t rules paths file := by
  unfold outcome
  congr 1
  · rw [Bool.eq_iff_iff, List.any_eq_true, List.any_eq_true]
    constructor
    · rintro ⟨rule, hrule, hsome⟩
      obtain ⟨l, hl⟩ := Option.isSome_iff_exists.mp hsome
      rcases found_of_negligible h hrule hfile hl with hl | ⟨_, hother⟩
      · exact ⟨rule, hrule, by rw [hl]; rfl⟩
      · exact hother
    · rintro ⟨rule, hrule, hsome⟩
      obtain ⟨l, hl⟩ := Option.isSome_iff_exists.mp hsome
      exact ⟨rule, hrule, by rw [found_mono hv hl]; rfl⟩
  · refine List.flatMap_congr fun rule hrule => ?_
    cases hp : found r t rule paths file with
    | some l => rw [found_mono hv hp]
    | none =>
      cases hl : found r t rule visited file with
      | none => rfl
      | some l =>
        rcases found_of_negligible h hrule hfile hl with hl' | ⟨rfl, _⟩
        · simp [hp] at hl'
        · rfl

theorem files_of_negligible (h : Negligible r t rules paths) (hp : p.Perm paths) :
    (files r t domain rules p).1 =
      { domain
        filesLinted := p.countP fun file => (outcome r t rules paths file).ran
        findings := sortByFile (p.flatMap fun file => (outcome r t rules paths file).findings)
        errors := rules.filterMap fun rule => (error? r t rule paths).map rule.errorOf } := by
  have houtcome : ∀ v ∈ visits p, outcome r t rules v.1 v.2 = outcome r t rules paths v.2 := by
    intro v hv
    obtain ⟨hvisited, hfile⟩ := mem_of_mem_visits hv
    exact outcome_of_negligible h (fun f hf => hp.mem_iff.mp (hvisited f hf)) (hp.mem_iff.mp hfile)
  rw [files_eq]
  congr 1
  · rw [← countP_visits _ p]
    exact List.countP_congr fun v hv => by rw [houtcome v hv]
  · rw [← flatMap_visits _ p]
    exact congrArg sortByFile (List.flatMap_congr fun v hv => by rw [houtcome v hv])
  · simp only [error?_perm hp]

/-! ## Files with rejected rules first or last -/

def rejects (r : Registry) (t : FileTree) (rules : List Rule) (file : FilePath) : Bool :=
  rules.any fun rule => (startError? r rule).isNone && (errorOf? (attempt r t rule file)).isSome

theorem rejects_iff : rejects r t rules file ↔
    ∃ rule ∈ rules, startError? r rule = none ∧ ∃ e, RejectedIn r t rule file e := by
  simp only [rejects, List.any_eq_true, Bool.and_eq_true, Option.isNone_iff_eq_none,
    Option.isSome_iff_exists, errorOf?_eq_some]
  constructor
  · rintro ⟨rule, hrule, hs, e, he⟩
    exact ⟨rule, hrule, hs, e, (attempt_eq_error_iff hs).mp he⟩
  · rintro ⟨rule, hrule, hs, e, he⟩
    exact ⟨rule, hrule, hs, e, (attempt_eq_error_iff hs).mpr he⟩

theorem error?_append_of_not_rejects {visited others : List FilePath} (hrule : rule ∈ rules)
    (h : ∀ f ∈ others, ¬ rejects r t rules f) :
    error? r t rule (visited ++ others) = error? r t rule visited := by
  cases hs : startError? r rule with
  | some e => simp [error?, hs]
  | none =>
    ext e
    rw [error?_eq_some_iff hs, error?_eq_some_iff hs]
    constructor
    · rintro ⟨f, hf, he⟩
      rcases List.mem_append.mp hf with hf | hf
      · exact ⟨f, hf, he⟩
      · exact absurd (rejects_iff.mpr ⟨rule, hrule, hs, e, he⟩) (h f hf)
    · rintro ⟨f, hf, he⟩
      exact ⟨f, List.mem_append_left _ hf, he⟩

theorem outcome_congr {a b : List FilePath} (h : ∀ rule ∈ rules, error? r t rule a = error? r t rule b) :
    outcome r t rules a file = outcome r t rules b file := by
  have hfound : ∀ rule ∈ rules, found r t rule a file = found r t rule b file := by
    intro rule hrule
    rw [found, h rule hrule, found]
  rw [outcome_eq, outcome_eq, List.filterMap_congr hfound]

theorem outcome_append_of_not_rejects {visited others : List FilePath}
    (h : ∀ f ∈ others, ¬ rejects r t rules f) :
    outcome r t rules (visited ++ others) file = outcome r t rules visited file :=
  outcome_congr fun _ hrule => error?_append_of_not_rejects hrule h

theorem outcome_perm {a b : List FilePath} (h : a.Perm b) :
    outcome r t rules a file = outcome r t rules b file :=
  outcome_congr fun _ _ => error?_perm h

def weight (result : FileResult) : Nat := result.ran.toNat + result.findings.length

def totalWeight (r : Registry) (t : FileTree) (rules : List Rule) (paths : List FilePath) : Nat :=
  ((visits paths).map fun v => weight (outcome r t rules v.1 v.2)).sum

theorem totalWeight_eq (domain : String) : totalWeight r t rules paths =
    (files r t domain rules paths).1.filesLinted + (files r t domain rules paths).1.findings.length := by
  rw [files_eq, totalWeight]
  dsimp only
  rw [(sortByFile_perm _).length_eq, List.length_flatMap]
  induction visits paths with
  | nil => rfl
  | cons v l ih =>
    rw [List.map_cons, List.sum_cons, ih, List.countP_cons, List.map_cons, List.sum_cons, weight]
    cases (outcome r t rules v.1 v.2).ran <;> simp <;> omega

theorem totalWeight_rejects_last {calm : List FilePath} (h : ∀ f ∈ calm, ¬ rejects r t rules f)
    (broken : List FilePath) : totalWeight r t rules (calm ++ broken) =
      (calm.map fun f => weight (outcome r t rules [] f)).sum + totalWeight r t rules broken := by
  unfold totalWeight
  rw [visits_append, List.map_append, List.sum_append, List.map_map]
  congr 2
  · rw [← map_visits fun f => weight (outcome r t rules [] f)]
    refine List.map_congr_left fun v hv => congrArg weight ?_
    show outcome r t rules ([] ++ v.1) v.2 = outcome r t rules [] v.2
    exact outcome_append_of_not_rejects fun f hf => h f ((mem_of_mem_visits hv).1 f hf)
  · refine List.map_congr_left fun v _ => congrArg weight ?_
    calc outcome r t rules (calm ++ v.1) v.2
        = outcome r t rules (v.1 ++ calm) v.2 := outcome_perm List.perm_append_comm
      _ = outcome r t rules v.1 v.2 := outcome_append_of_not_rejects h

theorem totalWeight_rejects_first {calm : List FilePath} (h : ∀ f ∈ calm, ¬ rejects r t rules f)
    (broken : List FilePath) : totalWeight r t rules (broken ++ calm) =
      totalWeight r t rules broken +
        (calm.map fun f => weight (outcome r t rules (broken ++ calm) f)).sum := by
  unfold totalWeight
  rw [visits_append, List.map_append, List.sum_append, List.map_map]
  congr 2
  rw [← map_visits fun f => weight (outcome r t rules (broken ++ calm) f)]
  refine List.map_congr_left fun v hv => congrArg weight ?_
  calc outcome r t rules (broken ++ v.1) v.2
      = outcome r t rules broken v.2 :=
        outcome_append_of_not_rejects fun f hf => h f ((mem_of_mem_visits hv).1 f hf)
    _ = outcome r t rules (broken ++ calm) v.2 := (outcome_append_of_not_rejects h).symm

theorem eq_of_sum_map_eq {α : Type} {l : List α} {f g : α → Nat} (hle : ∀ a ∈ l, f a ≤ g a)
    (h : (l.map f).sum = (l.map g).sum) : ∀ a ∈ l, f a = g a := by
  induction l with
  | nil => simp
  | cons a l ih =>
    rw [List.forall_mem_cons] at hle
    simp only [List.map_cons, List.sum_cons] at h
    have hrest : (l.map f).sum ≤ (l.map g).sum := List.sum_le_sum hle.2
    have hfirst := hle.1
    rw [List.forall_mem_cons]
    exact ⟨by omega, ih hle.2 (by omega)⟩

theorem found_le (rule : Rule) :
    ((found r t rule paths file).getD []).length ≤ ((found r t rule [] file).getD []).length := by
  cases h : found r t rule paths file with
  | none => simp
  | some l => rw [found_mono (List.forall_mem_nil _) h]

theorem ran_mono (h : (outcome r t rules paths file).ran) : (outcome r t rules [] file).ran := by
  obtain ⟨rule, hrule, hsome⟩ := List.any_eq_true.mp h
  obtain ⟨l, hl⟩ := Option.isSome_iff_exists.mp hsome
  exact List.any_eq_true.mpr ⟨rule, hrule, by rw [found_mono (List.forall_mem_nil _) hl]; rfl⟩

theorem length_findings (visited : List FilePath) : (outcome r t rules visited file).findings.length =
    (rules.map fun rule => ((found r t rule visited file).getD []).length).sum := by
  rw [outcome, List.length_flatMap]

theorem length_findings_le (r : Registry) (t : FileTree) (rules : List Rule) (paths : List FilePath)
    (file : FilePath) : (outcome r t rules paths file).findings.length ≤
      (outcome r t rules [] file).findings.length := by
  rw [length_findings, length_findings]
  exact List.sum_le_sum fun rule _ => found_le rule

theorem weight_le : weight (outcome r t rules paths file) ≤ weight (outcome r t rules [] file) := by
  have hlength := length_findings_le r t rules paths file
  unfold weight
  cases h : (outcome r t rules paths file).ran with
  | false => simpa using Nat.le_add_left_of_le hlength
  | true =>
    rw [ran_mono h]
    omega

theorem eq_of_weight_eq {a b : FileResult} (h : weight a = weight b) (hran : a.ran → b.ran)
    (hlength : a.findings.length ≤ b.findings.length) :
    a.ran = b.ran ∧ a.findings.length = b.findings.length := by
  unfold weight at h
  cases ha : a.ran with
  | true =>
    rw [ha, hran ha] at h
    exact ⟨(hran ha).symm, by omega⟩
  | false =>
    rw [ha] at h
    cases hb : b.ran with
    | true =>
      simp only [hb, Bool.toNat_true, Bool.toNat_false] at h
      omega
    | false =>
      simp only [hb, Bool.toNat_false] at h
      exact ⟨rfl, by omega⟩

/-- If all orders give the same numbers, then files weigh the same after all others as at first, unless
rules are rejected in them. -/
theorem weight_eq (h : ∀ p, p.Perm paths → totalWeight r t rules p = totalWeight r t rules paths)
    (hfile : file ∈ paths) (hcalm : ¬ rejects r t rules file) :
    weight (outcome r t rules paths file) = weight (outcome r t rules [] file) := by
  -- The files in which rules are rejected add the same at the start and at the end of the list.
  let broken := paths.filter (rejects r t rules)
  let calm := paths.filter (!rejects r t rules ·)
  have hall : ∀ f ∈ calm, ¬ rejects r t rules f := fun f hf => by simpa using (List.mem_filter.mp hf).2
  have hfirst : (broken ++ calm).Perm paths := List.filter_append_perm _ _
  have hlast : (calm ++ broken).Perm paths := List.perm_append_comm.trans hfirst
  have hsum := (h _ hfirst).trans (h _ hlast).symm
  rw [totalWeight_rejects_first hall, totalWeight_rejects_last hall] at hsum
  rw [← outcome_perm hfirst]
  have hmem : file ∈ calm := List.mem_filter.mpr ⟨hfile, by simpa using hcalm⟩
  have heq : (calm.map fun f => weight (outcome r t rules (broken ++ calm) f)).sum =
      (calm.map fun f => weight (outcome r t rules [] f)).sum := by omega
  exact eq_of_sum_map_eq (fun f _ => weight_le) heq file hmem

theorem negligible_of_totalWeight
    (h : ∀ p, p.Perm paths → totalWeight r t rules p = totalWeight r t rules paths) :
    Negligible r t rules paths := by
  intro rule hrule hs broken hbroken e he file hfile l ha
  have hcalm : ¬ rejects r t rules file := by
    rw [rejects_iff]
    rintro ⟨rule', _, _, e', he'⟩
    exact he'.not_run he ha
  have hfailed : error? r t rule paths = some e := (error?_eq_some_iff hs).mpr ⟨broken, hbroken, he⟩
  have hfirst : found r t rule [] file = some l :=
    found_eq_some_iff.mpr ⟨by rw [error?_nil, hs], ha⟩
  -- The rule is there when the file comes first and is not there after all files.
  obtain ⟨hran, hlength⟩ :=
    eq_of_weight_eq (weight_eq h hfile hcalm) ran_mono (length_findings_le r t rules paths file)
  constructor
  · rw [length_findings, length_findings] at hlength
    have := eq_of_sum_map_eq (fun rule _ => found_le rule) hlength rule hrule
    rw [hfirst, found_of_error hfailed] at this
    exact List.length_eq_zero_iff.mp this.symm
  · have hfirstRan : (outcome r t rules [] file).ran :=
      List.any_eq_true.mpr ⟨rule, hrule, by rw [hfirst]; rfl⟩
    obtain ⟨other, hother, hsome⟩ := List.any_eq_true.mp (hran.trans hfirstRan)
    obtain ⟨l', hl'⟩ := Option.isSome_iff_exists.mp hsome
    obtain ⟨hnone, ha'⟩ := found_eq_some_iff.mp hl'
    exact ⟨other, hother, hnone, l', ha'⟩

/-! ## One file of a run -/

theorem filter_inFile_outcome (visited : List FilePath) (q : FilePath) :
    (outcome r t rules visited file).findings.filter (inFile q) =
      if file.same q then (outcome r t rules visited file).findings else [] := by
  have hfile : ∀ x ∈ (outcome r t rules visited file).findings, inFile q x = file.same q := by
    intro x hx
    rw [inFile, file_of_mem_outcome hx]
  split
  · rename_i h
    exact List.filter_eq_self.mpr fun x hx => by rw [hfile x hx, h]
  · rename_i h
    exact List.filter_eq_nil_iff.mpr fun x hx => by rwa [hfile x hx]

theorem findings_of_file {before after : List FilePath}
    (hd : (before ++ file :: after).Pairwise fun a b => ¬ a.same b) :
    (files r t domain rules (before ++ file :: after)).1.findings.filter (inFile file) =
      (outcome r t rules before file).findings := by
  obtain ⟨_, hafter, hbefore⟩ := List.pairwise_append.mp hd
  have hself : file.same file := FilePath.same_iff.mpr rfl
  rw [files_eq]
  dsimp only
  rw [filter_inFile_sortByFile, List.filter_flatMap, visits_append, visits_cons, List.flatMap_append]
  simp only [filter_inFile_outcome]
  rw [List.flatMap_eq_nil_iff.mpr, List.map_cons, List.flatMap_cons, List.flatMap_eq_nil_iff.mpr]
  · simp [hself]
  · intro v hv
    simp only [List.map_map, List.mem_map, Function.comp_apply] at hv
    obtain ⟨v, hv, rfl⟩ := hv
    rw [if_neg]
    rw [FilePath.same_comm]
    exact List.rel_of_pairwise_cons hafter (mem_of_mem_visits hv).2
  · intro v hv
    rw [if_neg]
    exact hbefore v.2 (mem_of_mem_visits hv).2 file (by simp)

end

/-- In all orders a run over files has the same errors. A rule finds in a file what it finds there by
itself, unless it has failed before. The whole summary is the same in all orders exactly if the rules that
are rejected in files of the list are negligible. -/
theorem summary_of_orders (r : Registry) (t : FileTree) (domain : String) (rules : List Rule)
    {paths : List FilePath} (hd : paths.Pairwise fun a b => ¬ a.same b) :
    (∀ p, p.Perm paths →
      (files r t domain rules p).1.errors = (files r t domain rules paths).1.errors) ∧
    (∀ before file after, (before ++ file :: after).Perm paths →
      (files r t domain rules (before ++ file :: after)).1.findings.filter (inFile file) =
        rules.flatMap fun rule => (found r t rule before file).getD []) ∧
    ((∀ p, p.Perm paths → (files r t domain rules p).1 = (files r t domain rules paths).1) ↔
      Negligible r t rules paths) := by
  have hpairwise : ∀ p : List FilePath, p.Perm paths → p.Pairwise fun a b => ¬ a.same b := by
    intro p hp
    refine (hp.pairwise_iff fun h => ?_).mpr hd
    rwa [FilePath.same_comm]
  refine ⟨fun p hp => ?_, fun before file after hp => ?_, fun h => ?_, fun h p hp => ?_⟩
  · rw [files_eq, files_eq]
    simp only [error?_perm hp]
  · exact findings_of_file (hpairwise _ hp)
  · refine negligible_of_totalWeight fun p hp => ?_
    rw [totalWeight_eq domain, totalWeight_eq domain, h p hp]
  · have hfile : ∀ file, ∀ x ∈ (outcome r t rules paths file).findings, x.file = file :=
      fun _ _ hx => file_of_mem_outcome hx
    rw [files_of_negligible h hp, files_of_negligible h (List.Perm.refl paths), hp.countP_eq,
      sortByFile_flatMap_perm hfile hd hp]

theorem summary_of_orders_anyNode :
    ([⟨"b.tsx"⟩, ⟨"a.ts"⟩, ⟨"c.go"⟩] : List FilePath).Pairwise (fun a b => ¬ a.same b) ∧
    ∀ (t : FileTree) (p : List FilePath), p.Perm [⟨"b.tsx"⟩, ⟨"a.ts"⟩, ⟨"c.go"⟩] →
      (files .full t "d" [anyNode] p).1 =
        (files .full t "d" [anyNode] [⟨"b.tsx"⟩, ⟨"a.ts"⟩, ⟨"c.go"⟩]).1 := by
  have hd : ([⟨"b.tsx"⟩, ⟨"a.ts"⟩, ⟨"c.go"⟩] : List FilePath).Pairwise fun a b => ¬ a.same b := by decide
  refine ⟨hd, fun t => (summary_of_orders .full t "d" [anyNode] hd).2.2.mpr ?_⟩
  intro rule hrule hs broken _ e he
  obtain rfl := List.mem_singleton.mp hrule
  have hnone : error? .full t anyNode [broken] = none := by
    refine error?_full_eq_none (fun name query hc => ?_) _
    obtain ⟨rfl, rfl⟩ := RuleCheck.ast.inj hc
    exact ⟨by decide, compile_anyNode⟩
  rw [(error?_eq_some_iff hs).mpr ⟨broken, by simp, he⟩] at hnone
  cases hnone

def assertions : String :=
  "\x7b\"domain\":\"d\",\"version\":\"1\",\"file_patterns\":[],\"rules\":[" ++
  "\x7b\"id\":\"A\",\"title\":\"t\",\"severity\":\"MUST\",\"message\":\"m\",\"type\":\"ast\"," ++
  "\"language\":\"typescript\",\"query\":\"(type_assertion) @violation\"\x7d]\x7d"

set_option maxRecDepth 100000 in
theorem parse_assertions : ((RuleSet.parse ⟨"rules"⟩ assertions).toOption.map fun s =>
    s.rules.map fun rule => (rule.language?, rule.query?)) =
      some [(some "typescript", some "(type_assertion) @violation")] := by
  decide +kernel

theorem check_of_query? {rule : Rule} {name query : String}
    (h : (rule.language?, rule.query?) = (some name, some query)) :
    rule.check = .ast name query ∧ Text.isBlankText query = false := by
  unfold Rule.language? Rule.query? at h
  cases hc : rule.check with
  | grep pattern => simp [hc] at h
  | ast name' query' =>
    cases hq : Text.isBlankText query' with
    | true => simp [hc, hq] at h
    | false =>
      obtain ⟨rfl, rfl⟩ : name' = name ∧ query' = query := by simpa [hc, hq] using h
      exact ⟨rfl, hq⟩

def rootOnly (root : String) : Grammar :=
  ⟨root, "item", [], ∅, [], [], [], [], "", [], [], false⟩

def withAssertions : Registry :=
  (Registry.empty.register .typescript fun _ => rootOnly "type_assertion").register .tsx
    fun _ => rootOnly "program"

theorem grammarOf_typescript : withAssertions.grammarOf .typescript = .ok (rootOnly "type_assertion") := by
  simp [Registry.grammarOf, withAssertions, Registry.grammar?_register]

theorem grammar?_tsx : withAssertions.grammar? .tsx = some (rootOnly "program") := by
  simp [withAssertions, Registry.grammar?_register]

theorem compile_assertion :
    (Detector.compile (rootOnly "type_assertion") "(type_assertion) @violation").isOk := by
  decide +kernel

theorem not_compile_assertion :
    ∃ e, Detector.compile (rootOnly "program") "(type_assertion) @violation" = .error e := by
  have h : ¬ (Detector.compile (rootOnly "program") "(type_assertion) @violation").isOk := by
    decide +kernel
  cases hd : Detector.compile (rootOnly "program") "(type_assertion) @violation" with
  | error e => exact ⟨e, rfl⟩
  | ok d => simp [hd, Except.isOk, Except.toBool] at h

def assertionAndComponent : FileTree :=
  ⟨.dir [("a.ts", .file (.text "let x = <any>y;")), ("b.tsx", .file (.text "let z = 1;"))], []⟩

theorem readText_script : assertionAndComponent.readText ⟨"a.ts"⟩ = .ok "let x = <any>y;" := by cbv

theorem readText_component : assertionAndComponent.readText ⟨"b.tsx"⟩ = .ok "let z = 1;" := by cbv

/-- Two orders of a list of files can have different summaries. -/
theorem order_matters : ¬ ∀ (r : Registry) (t : FileTree) (path : FilePath) (document : String)
    (s : RuleSet), RuleSet.parse path document = .ok s → ∀ p p' : List FilePath, p.Perm p' →
      (p'.Pairwise fun a b => ¬ a.same b) →
      (files r t s.domain s.rules p).1 = (files r t s.domain s.rules p').1 := by
  intro h
  obtain ⟨s, hparse, hrules⟩ := exists_ok_of_toOption_map parse_assertions
  obtain ⟨rule, hrule, hcheck⟩ := List.map_eq_singleton_iff.mp hrules
  obtain ⟨hc, hq⟩ := check_of_query? hcheck
  have hname : Language.ofName? "typescript" = some .typescript := by decide
  have hs : startError? withAssertions rule = none := by
    rw [startError?_eq hc hq, hname]
    dsimp only
    rw [grammarOf_typescript]
    exact errorOf?_eq_none.mpr (exists_ofRule compile_assertion rule.id)
  obtain ⟨e, he⟩ := not_compile_assertion
  have hrejected : RejectedIn withAssertions assertionAndComponent rule ⟨"b.tsx"⟩ (.query rule.id e) :=
    .intro hc hq hname readText_component (by decide) ⟨by decide, by decide⟩ grammar?_tsx he
  have hnegligible : Negligible withAssertions assertionAndComponent [rule] [⟨"a.ts"⟩, ⟨"b.tsx"⟩] := by
    refine negligible_of_totalWeight fun p hp => ?_
    rw [totalWeight_eq s.domain, totalWeight_eq s.domain, ← hrule]
    rw [h _ _ _ _ s hparse p _ hp (by decide)]
  obtain ⟨declared, g, d, hname', ht, hg, hd⟩ := exists_target hs hc hq
  obtain rfl := Option.some.inj (hname.symm.trans hname')
  have hrun := attempt_eq hc ht readText_script (by decide) (by decide) hg
  rw [hd] at hrun
  obtain ⟨_, other, hother, hnone, _⟩ :=
    hnegligible rule (by simp) hs ⟨"b.tsx"⟩ (by simp) _ hrejected ⟨"a.ts"⟩ (by simp) _ hrun
  obtain rfl := List.mem_singleton.mp hother
  rw [(error?_eq_some_iff hs).mpr ⟨⟨"b.tsx"⟩, by simp, hrejected⟩] at hnone
  cases hnone

end Linting

end RuleLint
