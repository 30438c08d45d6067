import Mathlib.Data.Set.Card
import RuleLint.Proofs.Linting.Errors

/-!
# Files that are counted

A run counts the places of its list at which some rule runs. Whether a rule runs on a file is decided by the
rule, the registry and the file, and by the files before it, of which none may have broken the rule
(`runsOn_iff`).
-/

namespace RuleLint

namespace Linting

/-- A readable file breaks a rule for `declared` that may run on it if the registry has the language of the
file and the query is rejected for it. -/
def Breaks (r : Registry) (t : FileTree) (declared : Language) (query : String) (file : FilePath) : Prop :=
  ∃ text l g fault, t.readText file = .ok text ∧ Language.ofPath? file = some l ∧ declared.accepts l ∧
    r.grammar? l = some g ∧ Detector.compile g query = .error fault

inductive RunsOn (r : Registry) (t : FileTree) (rule : Rule) (before : List FilePath) (file : FilePath) : Prop where
  | pattern {pattern : Regex} {text : String} (check : rule.check = .grep pattern)
    (readable : t.readText file = .ok text) : RunsOn r t rule before file
  | query {name query text : String} {declared l : Language} {g g' : Grammar}
    (check : rule.check = .ast name query) (notBlank : Text.isBlankText query = false)
    (target : Language.ofName? name = some declared) (grammar : r.grammar? declared = some g)
    (compiles : (Detector.compile g query).isOk) (readable : t.readText file = .ok text)
    (language : Language.ofPath? file = some l) (accepted : declared.accepts l)
    (fileGrammar : r.grammar? l = some g') (fileCompiles : (Detector.compile g' query).isOk)
    (unbroken : ∀ earlier ∈ before, ¬ Breaks r t declared query earlier) : RunsOn r t rule before file

section
variable {r : Registry} {t : FileTree} {rules : List Rule} {rule : Rule} {before paths : List FilePath}
  {file : FilePath} {name query : String}

/-! ## Where a rule runs -/

theorem RunsOn.readable (h : RunsOn r t rule before file) : ∃ text, t.readText file = .ok text := by
  cases h with
  | pattern _ readable => exact ⟨_, readable⟩
  | query _ _ _ _ _ readable _ _ _ _ _ => exact ⟨_, readable⟩

theorem error?_eq_none_iff : error? r t rule before = none ↔ (∀ e, ¬ CannotStart r rule e) ∧
    ∀ earlier ∈ before, ∀ e, ¬ RejectedIn r t rule earlier e := by
  simp only [Option.eq_none_iff_forall_ne_some, ne_eq, error?_iff, not_or, not_and, not_exists]
  exact ⟨fun h => ⟨fun e => (h e).1, fun earlier hmem e => (h e).2 (fun e => (h e).1) earlier hmem⟩,
    fun h e => ⟨h.1 e, fun _ earlier hmem => h.2 earlier hmem e⟩⟩

theorem error?_eq_none_of_grep {pattern : Regex} (hc : rule.check = .grep pattern) :
    error? r t rule before = none := by
  rw [error?_eq_none_iff]
  refine ⟨fun e he => ?_, fun earlier _ e he => ?_⟩
  · rcases he with ⟨hc', _, _⟩ | ⟨hc', _, _, _⟩ | ⟨hc', _, _, _, _⟩
    all_goals simp [hc] at hc'
  · obtain ⟨hc', _⟩ := he
    simp [hc] at hc'

theorem isOk_of_ofRule {g : Grammar} {id : String} {d : Detector} (h : Detector.ofRule id g query = .ok d) :
    (Detector.compile g query).isOk := by
  unfold Detector.ofRule at h
  cases hd : Detector.compile g query with
  | ok _ => rfl
  | error e => simp [hd, Except.mapError] at h

theorem not_isOk_of_error {g : Grammar} {fault : QueryFault} (h : Detector.compile g query = .error fault) :
    ¬ (Detector.compile g query).isOk := by
  simp [h, Except.isOk, Except.toBool]

/-- A file breaks a rule that has started if and only if the rule is rejected in it. -/
theorem breaks_iff {declared : Language} {g : Grammar} (hc : rule.check = .ast name query)
    (hq : Text.isBlankText query = false) (hname : Language.ofName? name = some declared)
    (hg : r.grammar? declared = some g) (hok : (Detector.compile g query).isOk) :
    Breaks r t declared query file ↔ ∃ e, RejectedIn r t rule file e := by
  constructor
  · rintro ⟨text, l, g', fault, htext, hl, hacc, hg', he⟩
    rcases Language.accepts_iff.mp hacc with rfl | hext
    -- a file of the language that the rule is for breaks no rule that has started
    · obtain rfl := Option.some.inj (hg.symm.trans hg')
      exact absurd hok (not_isOk_of_error he)
    · exact ⟨_, .intro hc hq hname htext hl hext hg' he⟩
  · rintro ⟨e, hc', _, hname', htext, hl, hext, hg', he⟩
    obtain ⟨rfl, rfl⟩ := RuleCheck.ast.inj (hc.symm.trans hc')
    obtain rfl := Option.some.inj (hname.symm.trans hname')
    exact ⟨_, _, _, _, htext, hl, hext.1, hg', he⟩

theorem not_cannotStart {declared : Language} {g : Grammar} (hc : rule.check = .ast name query)
    (hname : Language.ofName? name = some declared) (hg : r.grammar? declared = some g)
    (hok : (Detector.compile g query).isOk) (e : LintError) : ¬ CannotStart r rule e := by
  intro h
  cases h with
  | unknown hc' _ hname' =>
    obtain ⟨rfl, rfl⟩ := RuleCheck.ast.inj (hc.symm.trans hc')
    simp [hname] at hname'
  | unregistered hc' _ hname' hg' =>
    obtain ⟨rfl, rfl⟩ := RuleCheck.ast.inj (hc.symm.trans hc')
    obtain rfl := Option.some.inj (hname.symm.trans hname')
    simp [hg] at hg'
  | rejected hc' _ hname' hg' he =>
    obtain ⟨rfl, rfl⟩ := RuleCheck.ast.inj (hc.symm.trans hc')
    obtain rfl := Option.some.inj (hname.symm.trans hname')
    obtain rfl := Option.some.inj (hg.symm.trans hg')
    exact not_isOk_of_error he hok

theorem found_of_runsOn (h : RunsOn r t rule before file) : ∃ l, found r t rule before file = some l := by
  simp only [found_eq_some_iff]
  cases h with
  | @pattern pattern text hc htext =>
    exact ⟨(pattern.matchesIn text).map (.ofMatch file rule), error?_eq_none_of_grep hc,
      by simp only [attempt, htext, hc]⟩
  | @query name query text declared l g g' hc hq hname hg hok htext hl hacc hg' hok' hunbroken =>
    have hstart := not_cannotStart hc hname hg hok
    obtain ⟨_, _, _, hname', htarget, _, _⟩ := exists_target (startError?_eq_none_iff.mpr hstart) hc hq
    obtain rfl := Option.some.inj (hname.symm.trans hname')
    obtain ⟨d, hd⟩ := exists_ofRule hok' rule.id
    refine ⟨(d.run text (Syntax.parse g' text.toList)).map (.ofMatch file rule), ?_, ?_⟩
    · refine error?_eq_none_iff.mpr ⟨hstart, fun earlier hmem e he => hunbroken earlier hmem ?_⟩
      exact (breaks_iff hc hq hname hg hok).mpr ⟨e, he⟩
    · rw [attempt_eq hc htarget htext hl hacc (Registry.grammarOf_eq_ok.mpr hg'), hd]
      rfl

theorem runsOn_of_found {found' : List Finding} (h : found r t rule before file = some found') :
    RunsOn r t rule before file := by
  obtain ⟨hnone, hrun⟩ := found_eq_some_iff.mp h
  obtain ⟨hstart, hreject⟩ := error?_eq_none_iff.mp hnone
  rcases attempt_cases r t rule file with
    ha | ⟨_, _, hc, htext, _⟩ | ⟨name, query, text, declared, l, g', hc, ht, htext, hl, hacc, hg'⟩
  · simp [ha] at hrun
  · exact .pattern hc htext
  obtain ⟨hq, hname⟩ := target?_eq_some hc ht
  obtain ⟨_, g, d, hname', _, hg, hd⟩ := exists_target (startError?_eq_none_iff.mpr hstart) hc hq
  obtain rfl := Option.some.inj (hname.symm.trans hname')
  have hgrammar := Registry.grammarOf_eq_ok.mp hg
  have hok := isOk_of_ofRule hd
  rw [attempt_eq hc ht htext hl hacc hg'] at hrun
  cases hd' : Detector.ofRule rule.id g' query with
  | error e => simp [hd', Except.map] at hrun
  | ok d' =>
    refine .query hc hq hname hgrammar hok htext hl hacc (Registry.grammarOf_eq_ok.mp hg') (isOk_of_ofRule hd') ?_
    intro earlier hmem hbreaks
    obtain ⟨e, he⟩ := (breaks_iff hc hq hname hgrammar hok).mp hbreaks
    exact hreject earlier hmem e he

theorem runsOn_iff : RunsOn r t rule before file ↔ ∃ l, found r t rule before file = some l :=
  ⟨found_of_runsOn, fun ⟨_, h⟩ => runsOn_of_found h⟩

theorem outcome_ran_iff : (outcome r t rules before file).ran ↔ ∃ rule ∈ rules, RunsOn r t rule before file := by
  simp only [outcome, List.any_eq_true, Option.isSome_iff_exists, runsOn_iff]

theorem runsOn_of_mem_outcome {f : Finding} (hf : f ∈ (outcome r t rules before file).findings) :
    ∃ rule ∈ rules, RunsOn r t rule before file := by
  obtain ⟨rule, hrule, hf⟩ := List.mem_flatMap.mp hf
  cases h : found r t rule before file with
  | none => simp [h] at hf
  | some l => exact ⟨rule, hrule, runsOn_of_found h⟩

/-- Where a rule is a pattern, every readable file is linted. -/
theorem exists_runsOn_iff {pattern : Regex} (hrule : rule ∈ rules) (hc : rule.check = .grep pattern) :
    (∃ rule ∈ rules, RunsOn r t rule before file) ↔ ∃ text, t.readText file = .ok text :=
  ⟨fun ⟨_, _, h⟩ => h.readable, fun ⟨_, h⟩ => ⟨rule, hrule, .pattern hc h⟩⟩

/-! ## Counting places -/

theorem countP_zipIdx {α : Type} (l : List α) (p : α × Nat → Bool) :
    l.zipIdx.countP p = {i | ∃ a, l[i]? = some a ∧ p (a, i)}.ncard := by
  have hnd : ((l.zipIdx.filter p).map Prod.snd).Nodup := by
    refine (List.filter_sublist.map Prod.snd).nodup ?_
    rw [List.zipIdx_map_snd]
    exact List.nodup_range'
  calc l.zipIdx.countP p = ((l.zipIdx.filter p).map Prod.snd).length := by
        rw [List.length_map, List.countP_eq_length_filter]
    _ = ((l.zipIdx.filter p).map Prod.snd).toFinset.card := (List.toFinset_card_of_nodup hnd).symm
    _ = {i | ∃ a, l[i]? = some a ∧ p (a, i)}.ncard := by
        rw [← Set.ncard_coe_finset]
        congr 1
        ext i
        simp [List.mem_zipIdx_iff_getElem?]

theorem countP_visits_eq_ncard (paths : List FilePath) (p : List FilePath × FilePath → Bool) :
    (visits paths).countP p = {i | ∃ file, paths[i]? = some file ∧ p (paths.take i, file)}.ncard := by
  rw [visits_eq_zipIdx, List.countP_map, countP_zipIdx]
  rfl

theorem filesLinted_eq (domain : String) : (files r t domain rules paths).1.filesLinted =
    {i | ∃ file, paths[i]? = some file ∧ ∃ rule ∈ rules, RunsOn r t rule (paths.take i) file}.ncard := by
  rw [files_eq]
  dsimp only
  simp only [countP_visits_eq_ncard, outcome_ran_iff]

theorem mem_findings_iff {domain : String} {f : Finding} : f ∈ (files r t domain rules paths).1.findings ↔
    ∃ before file, (before, file) ∈ visits paths ∧ f ∈ (outcome r t rules before file).findings := by
  rw [files_eq, (sortByFile_perm _).mem_iff, List.mem_flatMap]
  simp only [Prod.exists]

theorem counted_of_mem_findings {domain : String} {f : Finding}
    (hf : f ∈ (files r t domain rules paths).1.findings) :
    ∃ i : Nat, paths[i]? = some f.file ∧ ∃ rule ∈ rules, RunsOn r t rule (paths.take i) f.file := by
  obtain ⟨before, file, hvisit, hmem⟩ := mem_findings_iff.mp hf
  obtain ⟨rest, rfl⟩ := mem_visits.mp hvisit
  rw [file_of_mem_outcome hmem]
  refine ⟨before.length, by simp, ?_⟩
  rw [List.take_left]
  exact runsOn_of_mem_outcome hmem

end

/-- A run counts the places of its list at which some rule runs. Each finding is in a file at one of these
places, and if some rule is a pattern they are those of the readable files. -/
theorem filesLinted_exact (r : Registry) (t : FileTree) (domain : String) (rules : List Rule)
    (paths : List FilePath) :
    let summary := (files r t domain rules paths).1
    let counted :=
      {i : Nat | ∃ file, paths[i]? = some file ∧ ∃ rule ∈ rules, RunsOn r t rule (paths.take i) file}
    summary.filesLinted = counted.ncard ∧
    (∀ f ∈ summary.findings, ∃ i ∈ counted, paths[i]? = some f.file) ∧
    ((∃ rule ∈ rules, ∃ pattern, rule.check = .grep pattern) →
      summary.filesLinted = {i : Nat | ∃ file text, paths[i]? = some file ∧ t.readText file = .ok text}.ncard) := by
  intro summary counted
  have hcount : summary.filesLinted = counted.ncard := filesLinted_eq domain
  refine ⟨hcount, fun f hf => ?_, ?_⟩
  · obtain ⟨i, hi, hruns⟩ := counted_of_mem_findings hf
    exact ⟨i, ⟨f.file, hi, hruns⟩, hi⟩
  · rintro ⟨rule, hrule, pattern, hc⟩
    rw [hcount]
    simp only [counted, exists_runsOn_iff hrule hc, exists_and_left]

def emptyPattern : Rule := ⟨"P", "t", .should, .grep ⟨"", ⟨#[.accept], 0⟩⟩, "m", none⟩

theorem matchesIn_emptyPattern :
    Regex.matchesIn ⟨"", ⟨#[.accept], 0⟩⟩ "a" = [⟨1, 1, ""⟩, ⟨1, 2, ""⟩] := by cbv

theorem filesLinted_exact_emptyPattern :
    let t : FileTree := ⟨.dir [("a.txt", .file (.text "a")), ("b.py", .file (.text "b"))], []⟩
    let paths : List FilePath := [⟨"a.txt"⟩, ⟨"gone.ts"⟩, ⟨"b.py"⟩]
    let summary := (files .full t "d" [anyNode, emptyPattern] paths).1
    let f := Finding.ofMatch ⟨"a.txt"⟩ emptyPattern ⟨1, 2, ""⟩
    (∃ rule ∈ [anyNode, emptyPattern], ∃ pattern, rule.check = .grep pattern) ∧ summary.filesLinted = 2 ∧
      f ∈ summary.findings ∧ ∃ i : Nat, paths[i]? = some f.file := by
  intro t paths summary f
  have hgrep : ∃ rule ∈ [anyNode, emptyPattern], ∃ pattern, rule.check = .grep pattern :=
    ⟨emptyPattern, by simp, _, rfl⟩
  have ha : t.readText ⟨"a.txt"⟩ = .ok "a" := by cbv
  have hgone : t.readText ⟨"gone.ts"⟩ = .error .notFound := by cbv
  have hb : t.readText ⟨"b.py"⟩ = .ok "b" := by cbv
  have hreadable : {i : Nat | ∃ file text, paths[i]? = some file ∧ t.readText file = .ok text} = {0, 2} := by
    ext i
    rcases i with _ | _ | _ | i
    · simp [paths, ha]
    · simp [paths, hgone]
    · simp [paths, hb]
    · simp [paths]
  have hf : f ∈ summary.findings := by
    have hfound : found .full t emptyPattern [] ⟨"a.txt"⟩ =
        some ([⟨1, 1, ""⟩, ⟨1, 2, ""⟩].map (.ofMatch ⟨"a.txt"⟩ emptyPattern)) := by
      rw [found_eq_some_iff, ← matchesIn_emptyPattern]
      exact ⟨error?_eq_none_of_grep rfl, by simp only [attempt, ha, emptyPattern]⟩
    refine mem_findings_iff.mpr ⟨[], ⟨"a.txt"⟩, mem_visits.mpr ⟨_, rfl⟩, ?_⟩
    exact List.mem_flatMap.mpr ⟨emptyPattern, by simp, by simp [hfound, f]⟩
  obtain ⟨-, hplaces, hcount⟩ := filesLinted_exact .full t "d" [anyNode, emptyPattern] paths
  obtain ⟨i, -, hi⟩ := hplaces f hf
  refine ⟨hgrep, ?_, hf, i, hi⟩
  rw [hcount hgrep, hreadable]
  exact Set.ncard_pair (by decide)

end Linting

end RuleLint
