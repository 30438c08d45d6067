import RuleLint.Proofs.Report.References

/-!
# Domains in the interchange format

A name is a domain and an identifier with a separator between them, and each of the two may hold a separator,
so rules of two domains can have one name. A result refers to the descriptor of the first rule with the name of
its rule, so the descriptors keep domains apart exactly if names do (`domains_keptApart_iff`).
-/

namespace RuleLint

open Sarif (ruleName rulePairs firstNamed rulesIn resultsIn RefersTo)

/-! ## Names -/

namespace Sarif

def Describes (d : Json) (rule : String × String) : Prop :=
  (memberOf d "properties").get? "domain" = some (.str rule.1) ∧
    (memberOf d "properties").get? "ruleId" = some (.str rule.2)

def NamesApart (sets : List RuleSet) : Prop :=
  ∀ r ∈ rulePairs sets, ∀ r' ∈ rulePairs sets, ruleName r.1 r.2 = ruleName r'.1 r'.2 → r = r'

/-- A part is read back from a text if it is known how many separators it holds. -/
theorem append_inj_of_count {sep : Char} {a b c d : List Char} (hcount : a.count sep = b.count sep)
    (h : a ++ sep :: c = b ++ sep :: d) : a = b ∧ c = d := by
  induction a generalizing b with
  | nil =>
    cases b with
    | nil => exact ⟨rfl, (List.cons.inj h).2⟩
    | cons y b =>
      obtain ⟨rfl, _⟩ := List.cons.inj h
      simp at hcount
  | cons x a ih =>
    cases b with
    | nil =>
      obtain ⟨rfl, _⟩ := List.cons.inj h
      simp at hcount
    | cons y b =>
      obtain ⟨rfl, hrest⟩ := List.cons.inj h
      obtain ⟨rfl, hcd⟩ := ih (by simpa [List.count_cons] using hcount) hrest
      exact ⟨rfl, hcd⟩

theorem append_separator_inj {a b c d : List Char} (ha : '/' ∉ a) (hb : '/' ∉ b)
    (h : a ++ '/' :: c = b ++ '/' :: d) : a = b ∧ c = d :=
  append_inj_of_count (by rw [List.count_eq_zero.mpr ha, List.count_eq_zero.mpr hb]) h

theorem toList_ruleName (domain id : String) :
    (ruleName domain id).toList = domain.toList ++ '/' :: id.toList := by
  simp [ruleName]

section
variable {sets : List RuleSet}

theorem namesApart_of_domains (h : ∀ s ∈ sets, '/' ∉ s.domain.toList) : NamesApart sets := by
  have hdomain : ∀ r ∈ rulePairs sets, '/' ∉ r.1.toList := by
    intro r hr
    obtain ⟨s, hs, hr⟩ := List.mem_flatMap.mp hr
    obtain ⟨rule, _, rfl⟩ := List.mem_map.mp hr
    exact h s hs
  intro r hr r' hr' hname
  have hchars := congrArg String.toList hname
  rw [toList_ruleName, toList_ruleName] at hchars
  obtain ⟨h₁, h₂⟩ := append_separator_inj (hdomain r hr) (hdomain r' hr') hchars
  exact Prod.ext (String.toList_inj.mp h₁) (String.toList_inj.mp h₂)

theorem namesApart_of_ids (h : ∀ s ∈ sets, ∀ rule ∈ s.rules, '/' ∉ rule.id.toList) : NamesApart sets := by
  have hid : ∀ r ∈ rulePairs sets, '/' ∉ r.2.toList.reverse := by
    intro r hr
    obtain ⟨s, hs, hr⟩ := List.mem_flatMap.mp hr
    obtain ⟨rule, hrule, rfl⟩ := List.mem_map.mp hr
    rw [List.mem_reverse]
    exact h s hs rule hrule
  intro r hr r' hr' hname
  -- read from the end, a name is the identifier, the separator and the domain
  have hchars := congrArg (fun s => s.toList.reverse) hname
  simp only [toList_ruleName, List.reverse_append, List.reverse_cons, List.append_assoc,
    List.singleton_append] at hchars
  obtain ⟨h₂, h₁⟩ := append_separator_inj (hid r hr) (hid r' hr') hchars
  exact Prod.ext (String.toList_inj.mp (List.reverse_inj.mp h₁)) (String.toList_inj.mp (List.reverse_inj.mp h₂))

end

end Sarif

open Sarif (Describes NamesApart)

namespace Linting

/-! ## Descriptors -/

/-- Each result refers to a descriptor of its rule, and no two rules have one descriptor. -/
structure KeptApart (report : Report) (v : Json) : Prop where
  results : List.Forall₂ (fun f result => ∃ d, RefersTo v result d ∧ Describes d (f.1, f.2.ruleId))
    report.owned (resultsIn v)
  rules : ∀ r ∈ rulePairs report.ruleSets, ∀ r' ∈ rulePairs report.ruleSets, r ≠ r' → ∀ d ∈ rulesIn v,
    ¬ (d.get? "id" = some (.str (ruleName r.1 r.2)) ∧ d.get? "id" = some (.str (ruleName r'.1 r'.2)))

section
variable {t : FileTree} {today : Date} {o : RunOptions} {report : Report}

/-- A result refers to the descriptor of the first rule that has the name of its rule. -/
theorem refers_to_first (h : (run t today o).1 = .ok report) (guid : String) :
    List.Forall₂ (fun f result => ∃ d first, RefersTo (report.sarif guid) result d ∧ Describes d first ∧
      firstNamed report.ruleSets (ruleName f.1 f.2.ruleId) = some first)
      report.owned (resultsIn (report.sarif guid)) := by
  rw [resultsIn_sarif, List.forall₂_map_right_iff, List.forall₂_same]
  intro f hf
  obtain ⟨d, hd, _⟩ := Sarif.exists_descriptor (finding_mem_rulePairs h hf)
  refine ⟨d.toJson, (d.domain, d.rule.id), Sarif.refersTo_of_find? hd, Sarif.properties_toJson d, ?_⟩
  rw [← Sarif.find?_descriptors, hd]
  rfl

theorem keptApart_iff (h : (run t today o).1 = .ok report) (guid : String) :
    KeptApart report (report.sarif guid) ↔ NamesApart report.ruleSets := by
  constructor
  · intro hapart r hr r' hr' hname
    by_contra hne
    obtain ⟨d, hd, hid⟩ := Sarif.exists_descriptor hr
    have hmem : d.toJson ∈ rulesIn (report.sarif guid) := by
      rw [Report.sarif, Sarif.rulesIn_toJson]
      exact List.mem_map_of_mem (List.mem_of_find?_eq_some hd)
    refine hapart.rules r hr r' hr' hne _ hmem ⟨?_, ?_⟩
    · rw [Sarif.id_toJson, hid]
    · rw [Sarif.id_toJson, hid, hname]
  · intro hnames
    constructor
    · have hfirst := (List.forall₂_and_left _ _).mpr ⟨fun f => finding_mem_rulePairs h, refers_to_first h guid⟩
      refine hfirst.imp ?_
      rintro f result ⟨hf, d, first, hrefers, hd, hfirst⟩
      obtain rfl : first = (f.1, f.2.ruleId) :=
        hnames first (List.mem_of_find?_eq_some hfirst) _ hf (by simpa using List.find?_some hfirst)
      exact ⟨d, hrefers, hd⟩
    · rintro r hr r' hr' hne d _ ⟨hd, hd'⟩
      exact hne (hnames r hr r' hr' (Json.str.inj (Option.some.inj (hd.symm.trans hd'))))

end

/-- A result refers to the descriptor of the first rule with the name of its rule. So the descriptors keep
domains apart exactly if names do, as they do if no domain or no identifier holds a separator. -/
theorem domains_keptApart_iff {t : FileTree} {today : Date} {o : RunOptions} {report : Report}
    (h : (run t today o).1 = .ok report) (guid : String) :
    List.Forall₂ (fun f result => ∃ d first, RefersTo (report.sarif guid) result d ∧ Describes d first ∧
      firstNamed report.ruleSets (ruleName f.1 f.2.ruleId) = some first)
      report.owned (resultsIn (report.sarif guid)) ∧
    (KeptApart report (report.sarif guid) ↔ NamesApart report.ruleSets) ∧
    ((∀ s ∈ report.ruleSets, '/' ∉ s.domain.toList) ∨
        (∀ s ∈ report.ruleSets, ∀ rule ∈ s.rules, '/' ∉ rule.id.toList) →
      KeptApart report (report.sarif guid)) := by
  refine ⟨refers_to_first h guid, keptApart_iff h guid, fun hplain => (keptApart_iff h guid).mpr ?_⟩
  exact hplain.elim Sarif.namesApart_of_domains Sarif.namesApart_of_ids

theorem domains_keptApart_twoDocuments : ∃ report,
    (run twoDocuments ⟨2024, 1, 1⟩ { plainOptions with rulePaths := [⟨"r"⟩] }).1 = .ok report ∧
    report.owned = [("d", ⟨⟨"/a"⟩, 1, 1, "A", .must, "m", "x"⟩)] ∧ KeptApart report (report.sarif "") := by
  obtain ⟨s, hrun⟩ := run_pattern ⟨2024, 1, 1⟩
  obtain ⟨-, -, hapart⟩ := domains_keptApart_iff hrun ""
  refine ⟨_, hrun, rfl, hapart (.inl fun set hset => ?_)⟩
  obtain ⟨hfrom, _⟩ := List.forall₂_cons.mp (comesFrom_of_run hrun)
  rw [List.mem_singleton.mp hset, ← hfrom.domain]
  decide

/-! ## Two domains with one name -/

def documentOf (domain id : String) : String :=
  "\x7b\"domain\":\"" ++ domain ++ "\",\"version\":\"1\",\"file_patterns\":[\"a\"],\"rules\":[" ++
  "\x7b\"id\":\"" ++ id ++ "\",\"title\":\"t\",\"severity\":\"MUST\",\"pattern\":\"x\",\"message\":\"m\"\x7d]\x7d"

/-- A file `a` and two documents, of a rule `c` of the domain `a/b` and of a rule `b/c` of the domain `a`. -/
def sharedName : FileTree :=
  ⟨.dir [("a", .file (.text "x")), ("r", .file (.text (documentOf "a/b" "c"))),
    ("s", .file (.text (documentOf "a" "b/c")))], []⟩

def oneFinding (domain id : String) : Summary := ⟨domain, 1, [⟨⟨"/a"⟩, 1, 1, id, .must, "m", "x"⟩], []⟩

theorem summary_sharedName {p : FilePath} {domain id : String}
    (h : ((RuleSet.read sharedName p).toOption.map fun s => (rulePairs [s], s.filePatterns, s.excludePatterns,
      (files .full sharedName s.domain s.rules [⟨"/a"⟩]).1)) =
      some ([(domain, id)], ["a"], [], oneFinding domain id)) :
    ∃ s, RuleSet.read sharedName p = .ok s ∧ rulePairs [s] = [(domain, id)] ∧
      (ruleSetSummary .full sharedName Config.default ⟨"/"⟩ s).1 = oneFinding domain id := by
  have hfiles : (Discovery.files sharedName ["a"] [] ⟨"/"⟩ ⟨[], false⟩).1 = [⟨"/a"⟩] :=
    files_root (by cbv) (by cbv)
  obtain ⟨s, hs, h⟩ := exists_ok_of_toOption_map h
  obtain ⟨hpairs, h⟩ := Prod.mk.inj h
  obtain ⟨hpatterns, h⟩ := Prod.mk.inj h
  obtain ⟨hexcludes, hsummary⟩ := Prod.mk.inj h
  refine ⟨s, hs, hpairs, ?_⟩
  unfold ruleSetSummary
  dsimp only [Config.default]
  rw [hpatterns, hexcludes, hfiles, hsummary]

def sharedNameOptions : RunOptions := { plainOptions with rulePaths := [⟨"r"⟩, ⟨"s"⟩] }

set_option maxRecDepth 100000 in
theorem run_sharedName : ∃ report, (run sharedName ⟨2024, 1, 1⟩ sharedNameOptions).1 = .ok report ∧
    rulePairs report.ruleSets = [("a/b", "c"), ("a", "b/c")] ∧
    report.summaries = [oneFinding "a/b" "c", oneFinding "a" "b/c"] := by
  obtain ⟨first, hfirst, hpair₁, hsummary₁⟩ := @summary_sharedName ⟨"r"⟩ "a/b" "c" (by cbv)
  obtain ⟨second, hsecond, hpair₂, hsummary₂⟩ := @summary_sharedName ⟨"s"⟩ "a" "b/c" (by cbv)
  have hnone : sharedName.isThere ⟨"c"⟩ = false := by cbv
  have hfiles : sharedName.isFile ⟨"r"⟩ ∧ sharedName.isFile ⟨"s"⟩ := by constructor <;> cbv
  have hloads : Loads sharedName sharedNameOptions Config.default [first, second] := by
    refine ⟨by simp [loadConfig, sharedNameOptions, plainOptions, Config.load, hnone], [⟨"r"⟩, ⟨"s"⟩], ?_,
      .cons hfirst (.cons hsecond .nil)⟩
    simp [ruleSetPaths, sharedNameOptions, plainOptions, hfiles, addPaths]
  refine ⟨_, run_eq_ok.mpr ⟨Config.default, [first, second], hloads, rfl⟩, ?_, ?_⟩
  · have happend : rulePairs ([first] ++ [second]) = rulePairs [first] ++ rulePairs [second] :=
      List.flatMap_append
    rw [hpair₁, hpair₂] at happend
    exact happend
  · have hsummaries : (reportOn .full sharedName Config.default ⟨"/"⟩ [first, second]).1.summaries =
        [oneFinding "a/b" "c", oneFinding "a" "b/c"] := by
      unfold reportOn
      simp only [List.map_cons, List.map_nil, hsummary₁, hsummary₂]
      rfl
    exact hsummaries

/-- Rules of two domains have one name and one descriptor, which a result of the second domain refers to. -/
theorem domains_share_descriptor : ∃ report,
    (run sharedName ⟨2024, 1, 1⟩ sharedNameOptions).1 = .ok report ∧
    (∃ result ∈ resultsIn (report.sarif ""), (memberOf result "properties").get? "domain" = some (.str "a") ∧
      ∃ d, RefersTo (report.sarif "") result d ∧ Describes d ("a/b", "c")) ∧
    ¬ KeptApart report (report.sarif "") := by
  obtain ⟨report, hrun, hpairs, hsummaries⟩ := run_sharedName
  refine ⟨report, hrun, ?_, fun hapart => ?_⟩
  · have howned : report.owned = [("a/b", ⟨⟨"/a"⟩, 1, 1, "c", .must, "m", "x"⟩),
        ("a", ⟨⟨"/a"⟩, 1, 1, "b/c", .must, "m", "x"⟩)] := by
      rw [Report.owned, hsummaries]
      rfl
    have hfirst := refers_to_first hrun ""
    rw [resultsIn_sarif, howned] at hfirst
    obtain ⟨-, hrest⟩ := List.forall₂_cons.mp hfirst
    obtain ⟨⟨d, first, hrefers, hd, hnamed⟩, -⟩ := List.forall₂_cons.mp hrest
    obtain rfl : ("a/b", "c") = first := by
      rw [firstNamed, hpairs] at hnamed
      exact Option.some.inj hnamed
    refine ⟨_, ?_, Sarif.domain_resultJson .., d, hrefers, hd⟩
    rw [resultsIn_sarif, howned]
    exact List.mem_cons_of_mem _ List.mem_cons_self
  · have hnames := (keptApart_iff hrun "").mp hapart
    rw [NamesApart, hpairs] at hnames
    exact absurd (hnames ("a/b", "c") (by simp) ("a", "b/c") (by simp) (by decide)) (by decide)

end Linting

end RuleLint
