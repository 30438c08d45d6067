import Mathlib
import RuleLint.Linting.Run
import RuleLint.Proofs.Except

/-!
# Setting up a run

A run has its configuration and its rule sets (`Loads`) or there is something that keeps it from having
them (`CannotLoad`). It reports on the rule sets in the first case and gives an error in the second.
-/

namespace RuleLint

/-! ## Rule sets -/

namespace RuleSet

def AllRead (t : FileTree) (paths : List FilePath) (sets : List RuleSet) : Prop :=
  List.Forall₂ (fun path s => read t path = .ok s) paths sets

section
variable {t : FileTree} {today : Date} {paths : List FilePath}

theorem load_eq (t : FileTree) (today : Date) (path : FilePath) : (load t today path).1 = read t path := by
  unfold load
  cases read t path <;> rfl

theorem loadAll_cons (t : FileTree) (today : Date) (path : FilePath) (paths : List FilePath) :
    (loadAll t today (path :: paths)).1 = do
      let s ← read t path
      return s :: (← (loadAll t today paths).1) := by
  rw [← load_eq t today path, loadAll]
  generalize load t today path = first
  obtain ⟨result, notices⟩ := first
  cases result with
  | error e => rfl
  | ok s =>
    dsimp only
    cases (loadAll t today paths).1 <;> rfl

theorem loadAll_eq_ok {sets : List RuleSet} :
    (loadAll t today paths).1 = .ok sets ↔ AllRead t paths sets := by
  unfold AllRead
  induction paths generalizing sets with
  | nil =>
    rw [loadAll, List.forall₂_nil_left_iff, Except.ok.injEq]
    exact eq_comm
  | cons path paths ih =>
    rw [loadAll_cons, bind_eq_ok, List.forall₂_cons_left_iff]
    constructor
    · rintro ⟨s, hs, h⟩
      obtain ⟨rest, hrest, h⟩ := bind_eq_ok.mp h
      exact ⟨s, rest, hs, ih.mp hrest, (Except.ok.inj h).symm⟩
    · rintro ⟨s, rest, hs, hrest, rfl⟩
      exact ⟨s, hs, bind_eq_ok.mpr ⟨rest, ih.mpr hrest, rfl⟩⟩

theorem exists_allRead_or (t : FileTree) (paths : List FilePath) :
    (∃ sets, AllRead t paths sets) ∨ ∃ path ∈ paths, ∃ e, read t path = .error e := by
  induction paths with
  | nil => exact .inl ⟨[], .nil⟩
  | cons path paths ih =>
    cases hs : read t path with
    | error e => exact .inr ⟨path, List.mem_cons_self, e, hs⟩
    | ok s =>
      rcases ih with ⟨sets, hsets⟩ | ⟨bad, hbad, e, he⟩
      · exact .inl ⟨s :: sets, .cons hs hsets⟩
      · exact .inr ⟨bad, List.mem_cons_of_mem _ hbad, e, he⟩

theorem AllRead.read_ok {sets : List RuleSet} (h : AllRead t paths sets) {path : FilePath}
    (hpath : path ∈ paths) : ∃ s, read t path = .ok s := by
  unfold AllRead at h
  induction h with
  | nil => cases hpath
  | cons hs _ ih =>
    rcases List.mem_cons.mp hpath with rfl | hpath
    · exact ⟨_, hs⟩
    · exact ih hpath

theorem AllRead.unique {a b : List RuleSet} (ha : AllRead t paths a) (hb : AllRead t paths b) : a = b := by
  unfold AllRead at ha hb
  induction ha generalizing b with
  | nil =>
    cases hb
    rfl
  | cons hs _ ih =>
    cases hb with
    | cons hs' hb => rw [Except.ok.inj (hs.symm.trans hs'), ih hb]

end

end RuleSet

/-! ## Setup -/

namespace Linting

def Loads (t : FileTree) (o : RunOptions) (c : Config) (sets : List RuleSet) : Prop :=
  loadConfig t o = .ok c ∧ ∃ paths, ruleSetPaths t o c = .ok paths ∧ RuleSet.AllRead t paths sets

inductive CannotLoad (t : FileTree) (o : RunOptions) : Prop
  | config {e : LintError} (h : loadConfig t o = .error e)
  | paths {c : Config} {e : LintError} (hc : loadConfig t o = .ok c) (h : ruleSetPaths t o c = .error e)
  | ruleSet {c : Config} {paths : List FilePath} {path : FilePath} {e : LintError}
      (hc : loadConfig t o = .ok c) (hp : ruleSetPaths t o c = .ok paths) (hpath : path ∈ paths)
      (h : RuleSet.read t path = .error e)

section
variable {t : FileTree} {today : Date} {o : RunOptions}

theorem exists_loads_or (t : FileTree) (o : RunOptions) :
    (∃ c sets, Loads t o c sets) ∨ CannotLoad t o := by
  cases hc : loadConfig t o with
  | error e => exact .inr (.config hc)
  | ok c =>
    cases hp : ruleSetPaths t o c with
    | error e => exact .inr (.paths hc hp)
    | ok paths =>
      rcases RuleSet.exists_allRead_or t paths with ⟨sets, hsets⟩ | ⟨path, hpath, e, he⟩
      · exact .inl ⟨c, sets, hc, paths, hp, hsets⟩
      · exact .inr (.ruleSet hc hp hpath he)

theorem Loads.unique {c c' : Config} {sets sets' : List RuleSet} (h : Loads t o c sets)
    (h' : Loads t o c' sets') : c = c' ∧ sets = sets' := by
  obtain ⟨hc, paths, hp, hsets⟩ := h
  obtain ⟨hc', paths', hp', hsets'⟩ := h'
  obtain rfl := Except.ok.inj (hc.symm.trans hc')
  obtain rfl := Except.ok.inj (hp.symm.trans hp')
  exact ⟨rfl, hsets.unique hsets'⟩

theorem Loads.not_cannotLoad {c : Config} {sets : List RuleSet} (h : Loads t o c sets) :
    ¬ CannotLoad t o := by
  obtain ⟨hc, paths, hp, hsets⟩ := h
  intro hn
  cases hn with
  | config h =>
    rw [hc] at h
    cases h
  | paths hc' h =>
    obtain rfl := Except.ok.inj (hc.symm.trans hc')
    rw [hp] at h
    cases h
  | ruleSet hc' hp' hpath h =>
    obtain rfl := Except.ok.inj (hc.symm.trans hc')
    obtain rfl := Except.ok.inj (hp.symm.trans hp')
    obtain ⟨s, hs⟩ := hsets.read_ok hpath
    rw [hs] at h
    cases h

theorem setup_eq (t : FileTree) (today : Date) (o : RunOptions) : (setup t today o).1 = do
    let c ← loadConfig t o
    let paths ← ruleSetPaths t o c
    return (withFloor c o.floor, ← (RuleSet.loadAll t today paths).1) := by
  unfold setup
  cases loadConfig t o with
  | error e => rfl
  | ok c =>
    simp only [bind, Except.bind]
    cases ruleSetPaths t o c with
    | error e => rfl
    | ok paths =>
      dsimp only
      cases (RuleSet.loadAll t today paths).1 <;> rfl

theorem setup_eq_ok {c : Config} {sets : List RuleSet} :
    (setup t today o).1 = .ok (c, sets) ↔ ∃ loaded, Loads t o loaded sets ∧ c = withFloor loaded o.floor := by
  rw [setup_eq]
  simp only [bind_eq_ok, RuleSet.loadAll_eq_ok, Loads]
  constructor
  · rintro ⟨loaded, hc, paths, hp, sets', hsets, h⟩
    obtain ⟨rfl, rfl⟩ := Prod.mk.inj (Except.ok.inj h)
    exact ⟨loaded, ⟨hc, paths, hp, hsets⟩, rfl⟩
  · rintro ⟨loaded, ⟨hc, paths, hp, hsets⟩, rfl⟩
    exact ⟨loaded, hc, paths, hp, sets, hsets, rfl⟩

/-- A run reports on the rule sets that it has loaded. -/
theorem run_eq_ok {r : Report} : (run t today o).1 = .ok r ↔
    ∃ c sets, Loads t o c sets ∧ r = (reportOn .full t (withFloor c o.floor) o.base sets).1 := by
  unfold run
  cases hs : (setup t today o).1 with
  | error e =>
    have hn : ∀ c sets, ¬ Loads t o c sets := by
      intro c sets h
      rw [setup_eq_ok.mpr ⟨c, h, rfl⟩] at hs
      cases hs
    rw [← Prod.eta (setup t today o), hs]
    simp [hn]
  | ok pair =>
    obtain ⟨c, sets⟩ := pair
    obtain ⟨loaded, hl, rfl⟩ := setup_eq_ok.mp hs
    rw [← Prod.eta (setup t today o), hs]
    simp only [Except.ok.injEq]
    constructor
    · rintro rfl
      exact ⟨loaded, sets, hl, rfl⟩
    · rintro ⟨c, sets', h, rfl⟩
      obtain ⟨rfl, rfl⟩ := hl.unique h
      rfl

theorem exists_run_iff : (∃ r, (run t today o).1 = .ok r) ↔ ∃ c sets, Loads t o c sets := by
  simp only [run_eq_ok]
  constructor
  · rintro ⟨_, c, sets, h, _⟩
    exact ⟨c, sets, h⟩
  · rintro ⟨c, sets, h⟩
    exact ⟨_, c, sets, h, rfl⟩

theorem cannotLoad_iff : CannotLoad t o ↔ ¬ ∃ c sets, Loads t o c sets := by
  constructor
  · rintro hn ⟨c, sets, h⟩
    exact h.not_cannotLoad hn
  · exact fun hn => (exists_loads_or t o).resolve_left hn

end

/-! ## Two documents -/

def patternDocument : String :=
  "\x7b\"domain\":\"d\",\"version\":\"1\",\"file_patterns\":[\"a\"],\"rules\":[" ++
  "\x7b\"id\":\"A\",\"title\":\"t\",\"severity\":\"MUST\",\"pattern\":\"x\",\"message\":\"m\"\x7d]\x7d"

def emptyDocument : String :=
  "\x7b\"domain\":\"e\",\"version\":\"1\",\"file_patterns\":[],\"rules\":[]\x7d"

/-- A file `a`, a document `r` of a rule with a pattern that the file holds and a document `s` without
rules. -/
def twoDocuments : FileTree :=
  ⟨.dir [("a", .file (.text "x")), ("r", .file (.text patternDocument)), ("s", .file (.text emptyDocument))],
   []⟩

def plainOptions : RunOptions := ⟨[], false, ⟨"/"⟩, some ⟨"c"⟩, none⟩

theorem loadConfig_plainOptions : loadConfig twoDocuments plainOptions = .ok Config.default := by
  have hc : twoDocuments.isThere ⟨"c"⟩ = false := by cbv
  simp [loadConfig, plainOptions, Config.load, hc]

theorem loads_plainOptions {p : FilePath} {s : RuleSet} (hfile : twoDocuments.isFile p)
    (hread : RuleSet.read twoDocuments p = .ok s) :
    Loads twoDocuments { plainOptions with rulePaths := [p] } Config.default [s] := by
  refine ⟨loadConfig_plainOptions, [p], ?_, .cons hread .nil⟩
  simp [ruleSetPaths, plainOptions, hfile, addPaths]

def patternSummary : Summary := ⟨"d", 1, [⟨⟨"/a"⟩, 1, 1, "A", .must, "m", "x"⟩], []⟩

/-- Nothing keeps the file `a` of the root out of what is found. -/
theorem files_root {t : FileTree} (hroot : t.canonical ⟨"/"⟩ = .ok ⟨"/"⟩)
    (h : (Discovery.matching t ⟨"/"⟩ "a").1 = [⟨"/a"⟩]) :
    (Discovery.files t ["a"] [] ⟨"/"⟩ ⟨[], false⟩).1 = [⟨"/a"⟩] := by
  have hkeeps : Discovery.keeps ⟨"/"⟩ (Discovery.excludePatterns Discovery.defaultExcludes).1 [] ⟨"/a"⟩ := by
    decide +kernel
  unfold Discovery.files
  simp only [hroot, List.append_nil, List.map_cons, List.map_nil, List.flatMap_cons, List.flatMap_nil, h,
    Bool.false_eq_true, if_false, List.filter_cons_of_pos hkeeps, List.filter_nil]
  rfl

set_option maxRecDepth 100000 in
theorem report_pattern : ∃ s, RuleSet.read twoDocuments ⟨"r"⟩ = .ok s ∧
    (reportOn .full twoDocuments Config.default ⟨"/"⟩ [s]).1 =
      ⟨[s], [patternSummary], ⟨false, 1, 1, some .must, .guidance⟩⟩ := by
  have hread : ((RuleSet.read twoDocuments ⟨"r"⟩).toOption.map fun s =>
      (s.filePatterns, s.excludePatterns, (files .full twoDocuments s.domain s.rules [⟨"/a"⟩]).1)) =
      some (["a"], [], patternSummary) := by cbv
  have hfiles : (Discovery.files twoDocuments ["a"] [] ⟨"/"⟩ ⟨[], false⟩).1 = [⟨"/a"⟩] :=
    files_root (by cbv) (by cbv)
  obtain ⟨s, hs, h⟩ := exists_ok_of_toOption_map hread
  obtain ⟨hpatterns, h⟩ := Prod.mk.inj h
  obtain ⟨hexcludes, hsummary⟩ := Prod.mk.inj h
  have hset : (ruleSetSummary .full twoDocuments Config.default ⟨"/"⟩ s).1 = patternSummary := by
    unfold ruleSetSummary
    dsimp only [Config.default]
    rw [hpatterns, hexcludes, hfiles, hsummary]
  refine ⟨s, hs, ?_⟩
  unfold reportOn
  simp only [List.map_cons, List.map_nil, List.flatMap_cons, List.flatMap_nil, hset]
  rfl

def patternReport (s : RuleSet) : Report := ⟨[s], [patternSummary], ⟨false, 1, 1, some .must, .guidance⟩⟩

theorem run_pattern (today : Date) :
    ∃ s, (run twoDocuments today { plainOptions with rulePaths := [⟨"r"⟩] }).1 = .ok (patternReport s) := by
  obtain ⟨s, hread, hreport⟩ := report_pattern
  exact ⟨s, run_eq_ok.mpr ⟨Config.default, [s], loads_plainOptions (by cbv) hread, hreport.symm⟩⟩

def noRules : RuleSet := ⟨"e", "1", none, [], [], [], none, ⟨"s"⟩⟩

theorem read_noRules : RuleSet.read twoDocuments ⟨"s"⟩ = .ok noRules := by cbv

end Linting

end RuleLint
