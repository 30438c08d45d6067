import RuleLint.Proofs.Report.Console

/-!
# Findings under the headers of their files

The report for people has a header wherever the file of a finding is not that of the finding before. As the
findings are sorted by file when the headers are put in, there is one header for each file
(`grouping_groupsOf`). Without colours the whole text of a report can be told by these groups
(`render_grouped`).
-/

namespace RuleLint.Console

open Linting (inFile inFile_self inFile_congr ByFile)

structure Group where
  header : FilePath
  findings : List Finding

def addToGroups (f : Finding) : List Group → List Group
  | [] => [⟨f.file, [f]⟩]
  | g :: groups =>
    if f.file.same g.header then ⟨f.file, f :: g.findings⟩ :: groups else ⟨f.file, [f]⟩ :: g :: groups

def groupsOf (l : List Finding) : List Group := l.foldr addToGroups []

/-- Groups of findings, with their headers in order. Each has the findings of a file in their order below the
path that the first of them has. -/
structure Grouping (found : List Finding) (groups : List Group) : Prop where
  increasing : groups.Pairwise fun g h => g.header.Before h.header
  findings : ∀ g ∈ groups, g.findings = found.filter (inFile g.header)
  header : ∀ g ∈ groups, ∃ f, g.findings.head? = some f ∧ f.file = g.header
  all : ∀ f ∈ found, ∃ g ∈ groups, inFile g.header f

section
variable {f : Finding} {g : Group} {l : List Finding} {groups : List Group} {p q : FilePath}

/-! ## One header for each file -/

theorem Grouping.exists_mem (h : Grouping l groups) (hg : g ∈ groups) : ∃ f ∈ l, f.file = g.header := by
  obtain ⟨f, hf, hfile⟩ := h.header g hg
  have hmem := List.mem_of_mem_head? hf
  rw [h.findings g hg] at hmem
  exact ⟨f, List.mem_of_mem_filter hmem, hfile⟩

theorem Grouping.filter_eq_nil (h : Grouping l groups) (hbefore : ∀ g ∈ groups, p.Before g.header) :
    l.filter (inFile p) = [] := by
  rw [List.filter_eq_nil_iff]
  intro f hf hp
  obtain ⟨g, hg, hin⟩ := h.all f hf
  exact (hbefore g hg).2 (FilePath.same_trans (FilePath.same_symm hp) hin)

theorem filter_cons_of_before (h : f.file.Before p) : (f :: l).filter (inFile p) = l.filter (inFile p) :=
  List.filter_cons_of_neg h.2

/-- A finding of a file that comes before all others starts a group. -/
theorem Grouping.cons_new (h : Grouping l groups) (hbefore : ∀ g ∈ groups, f.file.Before g.header) :
    Grouping (f :: l) (⟨f.file, [f]⟩ :: groups) where
  increasing := List.pairwise_cons.mpr ⟨hbefore, h.increasing⟩
  findings := by
    refine List.forall_mem_cons.mpr ⟨?_, fun g hg => ?_⟩
    · rw [List.filter_cons_of_pos (inFile_self f), h.filter_eq_nil hbefore]
    · rw [filter_cons_of_before (hbefore g hg), h.findings g hg]
  header := List.forall_mem_cons.mpr ⟨⟨f, rfl, rfl⟩, h.header⟩
  all := by
    refine List.forall_mem_cons.mpr ⟨⟨_, List.mem_cons_self, inFile_self f⟩, fun a ha => ?_⟩
    obtain ⟨g, hg, hin⟩ := h.all a ha
    exact ⟨g, List.mem_cons_of_mem _ hg, hin⟩

/-- A finding of the first file comes first in its group. -/
theorem Grouping.cons_same (h : Grouping l (g :: groups)) (hsame : f.file.same g.header) :
    Grouping (f :: l) (⟨f.file, f :: g.findings⟩ :: groups) := by
  obtain ⟨hfirst, hincreasing⟩ := List.pairwise_cons.mp h.increasing
  have hbefore : ∀ k ∈ groups, f.file.Before k.header := fun k hk => .of_same hsame (hfirst k hk)
  constructor
  case increasing => exact List.pairwise_cons.mpr ⟨hbefore, hincreasing⟩
  case findings =>
    refine List.forall_mem_cons.mpr ⟨?_, fun k hk => ?_⟩
    · rw [List.filter_cons_of_pos (inFile_self f), inFile_congr hsame, ← h.findings g List.mem_cons_self]
    · rw [filter_cons_of_before (hbefore k hk), h.findings k (List.mem_cons_of_mem _ hk)]
  case header =>
    exact List.forall_mem_cons.mpr ⟨⟨f, rfl, rfl⟩, fun k hk => h.header k (List.mem_cons_of_mem _ hk)⟩
  case all =>
    refine List.forall_mem_cons.mpr ⟨⟨_, List.mem_cons_self, inFile_self f⟩, fun a ha => ?_⟩
    obtain ⟨k, hk, hin⟩ := h.all a ha
    rcases List.mem_cons.mp hk with rfl | hk
    · refine ⟨_, List.mem_cons_self, ?_⟩
      rwa [inFile_congr hsame]
    · exact ⟨k, List.mem_cons_of_mem _ hk, hin⟩

theorem Grouping.add (h : Grouping l groups) (hsorted : ByFile (f :: l)) :
    Grouping (f :: l) (addToGroups f groups) := by
  cases groups with
  | nil => exact h.cons_new nofun
  | cons g groups =>
    by_cases hsame : f.file.same g.header
    · rw [addToGroups, if_pos hsame]
      exact h.cons_same hsame
    · rw [addToGroups, if_neg hsame]
      -- the first header is the file of a finding of `l`, which comes after `f`
      obtain ⟨a, ha, hfile⟩ := h.exists_mem List.mem_cons_self
      have hle : f.file.le g.header := hfile ▸ List.rel_of_pairwise_cons hsorted ha
      have hfirst : f.file.Before g.header := ⟨hle, hsame⟩
      refine h.cons_new (List.forall_mem_cons.mpr ⟨hfirst, fun k hk => ?_⟩)
      exact hfirst.trans (List.rel_of_pairwise_cons h.increasing hk)

theorem grouping_groupsOf (hsorted : ByFile l) : Grouping l (groupsOf l) := by
  induction l with
  | nil => exact ⟨.nil, nofun, nofun, nofun⟩
  | cons f l ih => exact (ih hsorted.of_cons).add hsorted

example :
    let findings := [("b", "R"), ("a", "S"), ("b/", "T")].map fun (file, id) =>
      (⟨⟨file⟩, 1, 1, id, .must, "m", ""⟩ : Finding)
    (groupsOf (sortByFile findings)).map (fun g => (g.header.text, g.findings.map (·.ruleId))) =
      [("a", ["S"]), ("b", ["R", "T"])] := by
  cbv

/-- Sorting by file changes neither which files there are nor the order of the findings of one file. -/
theorem Grouping.of_sorted (h : Grouping (sortByFile l) groups) : Grouping l groups where
  increasing := h.increasing
  findings g hg := (h.findings g hg).trans (Linting.filter_inFile_sortByFile g.header l)
  header := h.header
  all f hf := h.all f ((Linting.sortByFile_perm l).mem_iff.mpr hf)

theorem Grouping.countP_eq_one (h : Grouping l groups) (hf : f ∈ l) :
    groups.countP (fun g => g.header.same f.file) = 1 := by
  obtain ⟨g, hg, hin⟩ := h.all f hf
  obtain ⟨before, after, rfl⟩ := List.append_of_mem hg
  obtain ⟨-, hafter, hbefore⟩ := List.pairwise_append.mp h.increasing
  have hsame : g.header.same f.file := FilePath.same_symm hin
  have hother : ∀ k : Group, k.header.same f.file → k.header.same g.header :=
    fun k hk => FilePath.same_trans hk hin
  have hnone₁ : before.countP (fun k => k.header.same f.file) = 0 :=
    List.countP_eq_zero.mpr fun k hk hkf => (hbefore k hk g List.mem_cons_self).2 (hother k hkf)
  have hnone₂ : after.countP (fun k => k.header.same f.file) = 0 :=
    List.countP_eq_zero.mpr fun k hk hkf =>
      (List.rel_of_pairwise_cons hafter hk).2 (FilePath.same_symm (hother k hkf))
  rw [List.countP_append, List.countP_cons, hnone₁, hnone₂, if_pos hsame]

theorem flatMap_addToGroups (f : Finding) (groups : List Group) :
    (addToGroups f groups).flatMap Group.findings = f :: groups.flatMap Group.findings := by
  cases groups with
  | nil => rfl
  | cons g groups =>
    rw [addToGroups]
    split <;> rfl

theorem flatMap_groupsOf (l : List Finding) : (groupsOf l).flatMap Group.findings = l := by
  induction l with
  | nil => rfl
  | cons f l ih => exact (flatMap_addToGroups f _).trans (congrArg (f :: ·) ih)

/-! ## The text of a report -/

def headerText (p : FilePath) : String := "\n    " ++ p.text ++ "\n"

def findingText (f : Finding) : String :=
  "      " ++ Text.padEnd 9 (toString f.line ++ ":" ++ toString f.column) ++ " " ++
    Text.padEnd 8 f.severity.name ++ "  " ++ f.message ++ "  " ++ f.ruleId ++ "\n"

def groupText (g : Group) : String := headerText g.header ++ String.join (g.findings.map findingText)

def errorText (e : RuleError) : String :=
  "    RULE ERROR rule " ++ e.ruleId ++ " skipped: " ++ e.message ++ "\n"

def summaryText (s : Summary) (groups : List Group) : String :=
  "\n  " ++ s.domain ++ " (" ++ toString s.filesLinted ++ " file(s) linted)\n" ++
    String.join (s.errors.map errorText) ++
    if s.findings = [] then "    No violations found.\n" else String.join (groups.map groupText)

def verdictText (v : Verdict) : String :=
  "  Result: " ++ (if v.pass then "PASS" else "FAIL") ++
    " (highest: " ++ (v.highest.map Severity.name).getD "none" ++ ")\n\n"

theorem renderSpans_nil : renderSpans false [] = "" := rfl

theorem renderSpans_cons (s : Span) (l : List Span) :
    renderSpans false (s :: l) = s.text ++ renderSpans false l := by
  rw [renderSpans, List.map_cons, String.join_cons]
  rfl

theorem renderSpans_append (a b : List Span) :
    renderSpans false (a ++ b) = renderSpans false a ++ renderSpans false b := by
  rw [renderSpans, List.map_append, String.join_append]
  rfl

theorem renderSpans_flatMap {α : Type} (l : List α) (f : α → List Span) :
    renderSpans false (l.flatMap f) = String.join (l.map fun a => renderSpans false (f a)) := by
  induction l with
  | nil => rfl
  | cons a l ih => rw [List.flatMap_cons, renderSpans_append, ih, List.map_cons, String.join_cons]

theorem render_findingLine (f : Finding) : renderSpans false (findingLine f) = findingText f := by
  simp only [findingLine, findingText, renderSpans_cons, renderSpans_nil, plain, countText, String.append_assoc,
    String.append_empty]

theorem render_fileLine (p : FilePath) : renderSpans false (fileLine p) = headerText p := by
  simp only [fileLine, headerText, renderSpans_cons, renderSpans_nil, plain, String.append_assoc,
    String.append_empty]

theorem render_errorLine (e : RuleError) : renderSpans false (errorLine e) = errorText e := by
  have hmark : "    " ++ ("RULE ERROR" ++ " rule ") = "    RULE ERROR rule " := by decide
  simp only [errorLine, renderSpans_cons, renderSpans_nil, plain]
  unfold errorText
  rw [← hmark]
  simp only [String.append_assoc, String.append_empty]

theorem render_domainLine (s : Summary) : renderSpans false (domainLine s) =
    "\n  " ++ s.domain ++ " (" ++ toString s.filesLinted ++ " file(s) linted)\n" := by
  simp only [domainLine, renderSpans_cons, renderSpans_nil, plain, countText, String.append_assoc,
    String.append_empty]

theorem render_verdictLine (v : Verdict) : renderSpans false (verdictLine v) = verdictText v := by
  simp only [verdictLine, verdictText, renderSpans_cons, renderSpans_nil, plain, apply_ite Span.text,
    String.append_assoc, String.append_empty]

/-- The text of groups of findings after findings of the file `current`, which needs no second header. -/
def groupsText (current : Option FilePath) : List Group → String
  | [] => ""
  | g :: groups =>
    (if current.any (·.same g.header) then "" else headerText g.header) ++
      String.join (g.findings.map findingText) ++ String.join (groups.map groupText)

theorem groupsText_none (groups : List Group) : groupsText none groups = String.join (groups.map groupText) := by
  cases groups with
  | nil => rfl
  | cons g groups => rw [List.map_cons, String.join_cons]; rfl

theorem groupsText_addToGroups (current : Option FilePath) (f : Finding) (groups : List Group) :
    groupsText current (addToGroups f groups) =
      (if current.any (·.same f.file) then "" else headerText f.file) ++ findingText f ++
        groupsText (some f.file) groups := by
  cases groups with
  | nil => simp [addToGroups, groupsText]
  | cons g groups =>
    by_cases hsame : f.file.same g.header
    · simp [addToGroups, groupsText, hsame, String.append_assoc]
    · simp [addToGroups, groupsText, groupText, hsame, String.append_assoc]

/-- The headers that are put in are those of the groups. -/
theorem render_findingLines (current : Option FilePath) (l : List Finding) :
    renderSpans false (findingLines current l) = groupsText current (groupsOf l) := by
  induction l generalizing current with
  | nil => rfl
  | cons f l ih =>
    have hgroups : groupsOf (f :: l) = addToGroups f (groupsOf l) := rfl
    rw [findingLines, renderSpans_append, renderSpans_append, ih, render_findingLine, hgroups,
      groupsText_addToGroups]
    by_cases h : current.any (·.same f.file)
    · rw [if_pos h, if_pos h]
      rfl
    · rw [if_neg h, if_neg h, ← render_fileLine]
      rfl

theorem render_summaryLines (s : Summary) :
    renderSpans false (summaryLines s) = summaryText s (groupsOf (sortByFile s.findings)) := by
  have hdomain := render_domainLine s
  unfold domainLine at hdomain
  rw [summaryLines, renderSpans_append, renderSpans_append, hdomain, renderSpans_flatMap, summaryText]
  simp only [render_errorLine, List.isEmpty_iff]
  congr 1
  by_cases h : s.findings = []
  · rw [if_pos h, if_pos h]
    rfl
  · rw [if_neg h, if_neg h, render_findingLines, groupsText_none]

/-! ## The footer -/

theorem countLevel_eq {level : Level} (p : Severity → Bool) (h : ∀ v : Severity, decide (v.level = level) = p v)
    (l : List Finding) : countLevel level l = l.countP fun f => p f.severity := by
  simp only [countLevel, h, List.countP_eq_length_filter]

/-- Every severity has one of the three levels. -/
theorem countLevel_sum (l : List Finding) :
    countLevel .error l + countLevel .warning l + countLevel .note l = l.length := by
  induction l with
  | nil => rfl
  | cons f l ih =>
    unfold countLevel at ih ⊢
    cases h : f.severity.level <;> simp [h] <;> omega

def countsText (total errors warnings notes : Nat) : String :=
  "  " ++ toString total ++ " problem(s) (" ++ toString errors ++ " error(s), " ++ toString warnings ++
    " warning(s), " ++ toString notes ++ " note(s))\n"

theorem render_footer (l : List Finding) : renderSpans false (footer l) = if l = [] then "" else
    countsText l.length (countLevel .error l) (countLevel .warning l) (countLevel .note l) := by
  unfold footer
  by_cases h : l = []
  · rw [if_pos (List.isEmpty_iff.mpr h), if_pos h]
    rfl
  · rw [if_neg (by rwa [List.isEmpty_iff]), if_neg h]
    simp only [renderSpans_cons, renderSpans_nil, plain, countText, countsText, String.append_assoc,
      String.append_empty]

end

theorem findings_eq_nil_iff (summaries : List Summary) :
    summaries.flatMap (·.findings) = [] ↔ ¬ ∃ s ∈ summaries, s.findings ≠ [] := by
  simp only [List.flatMap_eq_nil_iff, not_exists, not_and, not_not, ne_eq]

/-- The text of a report, with a footer if there are findings. -/
theorem render_without_colours (summaries : List Summary) (verdict : Verdict) :
    let found := summaries.flatMap (·.findings)
    render summaries verdict false =
      String.join (summaries.map fun s => summaryText s (groupsOf (sortByFile s.findings))) ++ "\n" ++
        (if ∃ s ∈ summaries, s.findings ≠ [] then
          countsText found.length (countLevel .error found) (countLevel .warning found) (countLevel .note found)
        else "") ++ verdictText verdict := by
  rw [render, spans, renderSpans_append, renderSpans_append, renderSpans_append, renderSpans_flatMap, render_footer,
    render_verdictLine]
  simp only [render_summaryLines, findings_eq_nil_iff, ite_not]
  rfl

/-- The report for people groups the findings of each summary without losing any: there is one header for each
file, the headers are in order, and below each are the findings of its file in the order that they were given
in. If there are findings, the footer counts all of them, and those at each level. -/
theorem render_grouped (summaries : List Summary) (verdict : Verdict) :
    ∃ groups : Summary → List Group,
      (∀ s ∈ summaries, Grouping s.findings (groups s) ∧
        (∀ f ∈ s.findings, (groups s).countP (fun g => g.header.same f.file) = 1) ∧
        ((groups s).flatMap Group.findings).Perm s.findings) ∧
      let found := summaries.flatMap (·.findings)
      let errors := found.countP fun f => f.severity = .never ∨ f.severity = .must
      let warnings := found.countP fun f => f.severity = .should
      let notes := found.countP fun f => f.severity = .guidance
      render summaries verdict false =
        String.join (summaries.map fun s => summaryText s (groups s)) ++ "\n" ++
          (if ∃ s ∈ summaries, s.findings ≠ [] then countsText found.length errors warnings notes else "") ++
          verdictText verdict ∧
      errors + warnings + notes = found.length := by
  have hgrouping : ∀ s : Summary, Grouping s.findings (groupsOf (sortByFile s.findings)) := fun s =>
    (grouping_groupsOf (Linting.byFile_sortByFile s.findings)).of_sorted
  refine ⟨fun s => groupsOf (sortByFile s.findings), fun s _ => ⟨hgrouping s, ?_, ?_⟩, ?_⟩
  · exact fun f hf => (hgrouping s).countP_eq_one hf
  · rw [flatMap_groupsOf]
    exact Linting.sortByFile_perm s.findings
  intro found errors warnings notes
  have herrors : countLevel .error found = errors :=
    countLevel_eq (fun v => v = .never ∨ v = .must) (fun v => by cases v <;> rfl) found
  have hwarnings : countLevel .warning found = warnings :=
    countLevel_eq (fun v => v = .should) (fun v => by cases v <;> rfl) found
  have hnotes : countLevel .note found = notes :=
    countLevel_eq (fun v => v = .guidance) (fun v => by cases v <;> rfl) found
  rw [← herrors, ← hwarnings, ← hnotes]
  exact ⟨render_without_colours summaries verdict, countLevel_sum found⟩

theorem render_grouped_twoFiles :
    let f : Finding := ⟨⟨"b"⟩, 1, 1, "R", .must, "m", ""⟩
    let g : Finding := ⟨⟨"a"⟩, 2, 3, "S", .should, "n", ""⟩
    let h : Finding := ⟨⟨"b/"⟩, 4, 5, "T", .guidance, "o", ""⟩
    let s : Summary := ⟨"d", 2, [f, g, h], []⟩
    let v : Verdict := ⟨false, 3, 3, some .must, .guidance⟩
    s ∈ [s] ∧ f ∈ s.findings ∧ ∃ groups, Grouping s.findings groups ∧
      groups.countP (fun g => g.header.same f.file) = 1 ∧
      render [s] v false = summaryText s groups ++ "\n" ++ countsText 3 1 1 1 ++ verdictText v := by
  intro f g h s v
  have hs : s ∈ [s] := List.mem_singleton_self s
  have hf : f ∈ s.findings := List.mem_cons_self
  obtain ⟨groups, hgroups, htext, -⟩ := render_grouped [s] v
  obtain ⟨hgrouping, hone, -⟩ := hgroups s hs
  refine ⟨hs, hf, groups s, hgrouping, hone f hf, ?_⟩
  have hsome : ∃ t ∈ [s], t.findings ≠ [] := ⟨s, hs, List.cons_ne_nil _ _⟩
  rw [htext, if_pos hsome, List.map_singleton, String.join_cons, String.join_nil, String.append_empty]
  rfl

end RuleLint.Console
