import RuleLint.Proofs.Linting.ByFile
import RuleLint.Proofs.Linting.Failure
import RuleLint.Proofs.Linting.Visit
import RuleLint.Proofs.Registry
import RuleLint.Proofs.RuleDocument

/-!
# Linting files and linting texts

Linting the text of one file at a time, where every error ends the linting, finds the same as a run over
all files in which no rule has failed (`findings_eq_sources_of_no_errors`).
-/

namespace RuleLint

namespace Linting

/-! ## One text -/

def Knows (r : Registry) (file : FilePath) (source : String) (tree : Option Tree) : Prop :=
  ∀ a, tree = some a → treeOf r (Language.ofPath? file) source = some a

section
variable {r : Registry} {t : FileTree} {file : FilePath} {text : String} {rule : Rule} {tree : Option Tree}
  {name query : String} {declared l : Language} {g : Grammar} {d : Detector}

theorem Knows.getD (h : Knows r file text tree) (hfile : Language.ofPath? file = some l)
    (hg : r.grammarOf l = .ok g) :
    tree.getD (Syntax.parse g text.toList) = Syntax.parse g text.toList := by
  cases tree with
  | none => rfl
  | some a =>
    have ha := h a rfl
    rw [hfile, treeOf, Option.bind_some, hg] at ha
    exact (Option.some.inj ha).symm

theorem knows_parse (hfile : Language.ofPath? file = some l) (hg : r.grammarOf l = .ok g) :
    Knows r file text (some (Syntax.parse g text.toList)) := by
  intro a ha
  rw [hfile, treeOf, Option.bind_some, hg]
  exact ha

theorem runQuery_other (hl : r.languageNamed name = .ok declared)
    (hn : ∀ l, Language.ofPath? file = some l → ¬ declared.accepts l) :
    runQuery r rule.id name query (Language.ofPath? file) text tree = .ok ([], tree) := by
  unfold runQuery
  rw [hl]
  cases hfile : Language.ofPath? file with
  | none => rfl
  | some l =>
    have hacc : declared.accepts l = false := by simpa using hn l hfile
    simp [hacc, bind, Except.bind, pure, Except.pure]

theorem runQuery_detector (hl : r.languageNamed name = .ok declared) (hacc : declared.accepts l)
    (hq : Text.isBlankText query = false) (hg : r.grammarOf l = .ok g)
    (hd : Detector.ofRule rule.id g query = .ok d) (text : String) (tree : Option Tree) :
    runQuery r rule.id name query (some l) text tree =
      .ok (d.run text (tree.getD (Syntax.parse g text.toList)),
        some (tree.getD (Syntax.parse g text.toList))) := by
  simp only [runQuery, hl, hacc, hq, hg, hd, bind, Except.bind, pure, Except.pure, Bool.not_true,
    Bool.or_self, Bool.false_eq_true, if_false]

theorem runRule_spec {o : Option (List Finding)} (hall : ∀ l, ∃ g, r.grammarOf l = .ok g)
    (htext : t.readText file = .ok text) (hq : rule.check.HasQuery) (hs : startError? r rule = none)
    (ha : attempt r t rule file = .ok o) (htree : Knows r file text tree) :
    ∃ ms tree', runRule r rule (Language.ofPath? file) text tree = .ok (ms, tree') ∧
      o.getD [] = ms.map (Finding.ofMatch file rule) ∧ Knows r file text tree' := by
  unfold runRule
  cases hc : rule.check with
  | grep pattern =>
    simp only [attempt, htext, hc] at ha
    obtain rfl := Except.ok.inj ha
    exact ⟨_, tree, rfl, rfl, htree⟩
  | ast name query =>
    obtain ⟨declared, _, _, hname, ht, hdeclared, _⟩ := exists_target hs hc (hq name query hc)
    have hl : r.languageNamed name = .ok declared := by
      rw [languageNamed_eq, hname]
      simp [hdeclared, Except.map]
    by_cases h : ∃ l, Language.ofPath? file = some l ∧ declared.accepts l
    · obtain ⟨l, hfile, hacc⟩ := h
      obtain ⟨g, hg⟩ := hall l
      rw [attempt_eq hc ht htext hfile hacc hg] at ha
      cases hd : Detector.ofRule rule.id g query with
      | error e => simp [hd, Except.map] at ha
      | ok d =>
        simp only [hd, Except.map, Except.ok.injEq] at ha
        have hrun := runQuery_detector hl hacc (hq name query hc) hg hd text tree
        rw [htree.getD hfile hg] at hrun
        rw [hfile]
        exact ⟨_, _, hrun, by rw [← ha, Option.getD_some], knows_parse hfile hg⟩
    · have hother : ∀ l, Language.ofPath? file = some l → ¬ declared.accepts l :=
        fun l hfile hacc => h ⟨l, hfile, hacc⟩
      obtain rfl : none = o := Except.ok.inj ((attempt_other hc ht hother).symm.trans ha)
      exact ⟨[], tree, runQuery_other hl hother, rfl, htree⟩

theorem runRules_eq {rules : List Rule} (hall : ∀ l, ∃ g, r.grammarOf l = .ok g)
    (htext : t.readText file = .ok text) (hq : ∀ rule ∈ rules, rule.check.HasQuery)
    (hs : ∀ rule ∈ rules, startError? r rule = none)
    (ha : ∀ rule ∈ rules, ∃ o, attempt r t rule file = .ok o) (htree : Knows r file text tree) :
    runRules r file text tree rules =
      .ok (rules.flatMap fun rule => matchesIn r t rule file) := by
  induction rules generalizing tree with
  | nil => rfl
  | cons rule rules ih =>
    simp only [List.forall_mem_cons] at hq hs ha
    obtain ⟨o, ho⟩ := ha.1
    obtain ⟨ms, tree', hrun, hms, htree'⟩ := runRule_spec hall htext hq.1 hs.1 ho htree
    have hrest := ih hq.2 hs.2 ha.2 htree'
    have hfirst : matchesIn r t rule file = ms.map (Finding.ofMatch file rule) := by
      rw [← hms, matchesIn, ho]
      rfl
    rw [List.flatMap_cons, hfirst]
    unfold runRules
    rw [hrun]
    dsimp only [bind, Except.bind]
    rw [hrest]
    rfl

end

/-! ## All files -/

theorem flatMap_filter_of_nil {α β : Type} {l : List α} {p : α → Bool} {f : α → List β}
    (h : ∀ a ∈ l, ¬ p a → f a = []) : (l.filter p).flatMap f = l.flatMap f := by
  induction l with
  | nil => rfl
  | cons a l ih =>
    rw [List.forall_mem_cons] at h
    rw [List.flatMap_cons, ← ih h.2]
    by_cases ha : p a
    · rw [List.filter_cons_of_pos ha, List.flatMap_cons]
    · rw [List.filter_cons_of_neg ha, h.1 ha, List.nil_append]

section
variable {r : Registry} {t : FileTree} {rules : List Rule} {paths : List FilePath}

theorem findings_eq_attempts {domain : String} (h : ∀ rule ∈ rules, error? r t rule paths = none) :
    (files r t domain rules paths).1.findings = sortByFile (paths.flatMap fun file =>
      rules.flatMap fun rule => matchesIn r t rule file) := by
  rw [files_eq]
  dsimp only
  rw [← flatMap_visits _ paths]
  refine congrArg sortByFile (List.flatMap_congr fun v hv => ?_)
  refine List.flatMap_congr fun rule hrule => ?_
  rw [found_of_no_error (error?_mono (mem_of_mem_visits hv).1 (h rule hrule)), matchesIn]

theorem findings_eq_readable (domain : String)
    (h : ∀ rule ∈ rules, error? r t rule paths = none) :
    (files r t domain rules paths).1.findings =
      sortByFile ((paths.filter fun file => (t.readText file).isOk).flatMap fun file =>
        rules.flatMap fun rule => matchesIn r t rule file) := by
  rw [findings_eq_attempts h, flatMap_filter_of_nil]
  intro file _ hfile
  cases htext : t.readText file with
  | ok text => simp [htext, Except.isOk, Except.toBool] at hfile
  | error e => simp [matchesIn, attempt_unreadable _ _ htext, Except.toOption]

end

/-- Linting one text at a time finds what a run over files finds, if the registry has all languages and
no rule of a loaded rule set fails in the run. The run puts its findings in order of files; those of one
file, in whatever spellings of its path, stay as the texts gave them. -/
theorem findings_eq_sources_of_no_errors {path : FilePath} {document : String} {s : RuleSet}
    (t : FileTree) (paths : List FilePath) (hparse : RuleSet.parse path document = .ok s)
    (herrors : (files .full t s.domain s.rules paths).1.errors = []) :
    ∃ found : FilePath → List Finding,
      (∀ file ∈ paths, ∀ text, t.readText file = .ok text →
        source .full s.rules file text = .ok (found file)) ∧
      (files .full t s.domain s.rules paths).1.findings =
        sortByFile ((paths.filter fun file => (t.readText file).isOk).flatMap found) ∧
      ByFile (files .full t s.domain s.rules paths).1.findings ∧
      ∀ p, (files .full t s.domain s.rules paths).1.findings.filter (inFile p) =
        ((paths.filter fun file => (t.readText file).isOk).flatMap found).filter (inFile p) := by
  have hnone := errors_eq_nil_iff.mp herrors
  have hfindings := findings_eq_readable s.domain hnone
  refine ⟨fun file => s.rules.flatMap fun rule => matchesIn .full t rule file, ?_, hfindings, ?_, ?_⟩
  · intro file hfile text htext
    have hgood := fun rule hrule => error?_eq_none.mp (hnone rule hrule)
    unfold source
    apply runRules_eq (fun l => ⟨_, Registry.grammarOf_full l⟩) htext (hasQuery_of_parse hparse)
    · exact fun rule hrule => (hgood rule hrule).1
    · exact fun rule hrule => (hgood rule hrule).2 file hfile
    · exact nofun
  · rw [hfindings]
    exact byFile_sortByFile _
  · intro p
    rw [hfindings]
    exact filter_inFile_sortByFile p _

/-! ## A rule for each node of a tree and a rule for a word -/

def nodesAndWord : String :=
  "\x7b\"domain\":\"d\",\"version\":\"1\",\"file_patterns\":[],\"rules\":[" ++
  "\x7b\"id\":\"A\",\"title\":\"t\",\"severity\":\"MUST\",\"message\":\"m\",\"type\":\"ast\"," ++
  "\"language\":\"typescript\",\"query\":\"(_) @violation\"\x7d," ++
  "\x7b\"id\":\"B\",\"title\":\"t\",\"severity\":\"NEVER\",\"message\":\"m\",\"pattern\":\"TODO\"\x7d]\x7d"

set_option maxRecDepth 100000 in
theorem parse_nodesAndWord : ((RuleSet.parse ⟨"rules"⟩ nodesAndWord).toOption.map fun s =>
    s.rules.map fun rule => (rule.language?, rule.query?)) =
      some [(some "typescript", some "(_) @violation"), (none, none)] := by
  decide +kernel

def scriptsAndComponents : List FilePath := [⟨"b.ts"⟩, ⟨"a.tsx"⟩, ⟨"c.ts"⟩, ⟨"b.ts"⟩]

def scriptAndComponent : FileTree :=
  ⟨.dir [("a.tsx", .file (.text "<a/>")), ("b.ts", .file (.text "f() // TODO"))], []⟩

theorem findings_eq_sources_nodesAndWord : ∃ s, RuleSet.parse ⟨"rules"⟩ nodesAndWord = .ok s ∧
    (files .full scriptAndComponent s.domain s.rules scriptsAndComponents).1.errors = [] ∧
    ∃ found : FilePath → List Finding,
      (∀ file ∈ scriptsAndComponents, ∀ text, scriptAndComponent.readText file = .ok text →
        source .full s.rules file text = .ok (found file)) ∧
      (files .full scriptAndComponent s.domain s.rules scriptsAndComponents).1.findings =
        sortByFile ((scriptsAndComponents.filter fun file =>
          (scriptAndComponent.readText file).isOk).flatMap found) ∧
      ByFile (files .full scriptAndComponent s.domain s.rules scriptsAndComponents).1.findings ∧
      ∀ p, (files .full scriptAndComponent s.domain s.rules scriptsAndComponents).1.findings.filter
          (inFile p) =
        ((scriptsAndComponents.filter fun file =>
          (scriptAndComponent.readText file).isOk).flatMap found).filter (inFile p) := by
  obtain ⟨s, hs, hrules⟩ := exists_ok_of_toOption_map parse_nodesAndWord
  have herrors : (files .full scriptAndComponent s.domain s.rules scriptsAndComponents).1.errors = [] := by
    refine errors_eq_nil_iff.mpr fun rule hrule => ?_
    have hmem := List.mem_map_of_mem (f := fun rule : Rule => (rule.language?, rule.query?)) hrule
    rw [hrules] at hmem
    refine error?_full_eq_none (fun name query hc => ?_) _
    have hblank := hasQuery_of_parse hs rule hrule name query hc
    simp only [Rule.language?, Rule.query?, hc, hblank] at hmem
    obtain ⟨rfl, rfl⟩ : name = "typescript" ∧ query = "(_) @violation" := by simpa using hmem
    exact ⟨by decide, compile_anyNode⟩
  exact ⟨s, hs, herrors, findings_eq_sources_of_no_errors scriptAndComponent _ hs herrors⟩

end Linting

end RuleLint
