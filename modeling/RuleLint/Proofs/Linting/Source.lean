import RuleLint.Proofs.Linting.Independence
import RuleLint.Proofs.Linting.Strict

/-!
# Rules in one text

What a rule finds in a text depends neither on the rules before it nor on whether they have read the text into
its tree (`runRule_cases`), so linting a text is linting it with each rule alone (`source_eq_mapM`). Why a rule
cannot run is told by the rule, the registry and the path of the file (`CannotRun`); so a text is linted or
refused whatever it holds, and if it is refused then for the first rule that cannot run
(`source_fails_alike`).
-/

namespace RuleLint

namespace Linting

/-- Why a rule cannot run on a file: its language is not known or not in the registry, or it has a query to run
there and the registry lacks the language of the file or rejects the query for it. -/
inductive CannotRun (r : Registry) (file : FilePath) (rule : Rule) : LintError → Prop where
  | unknown {name query : String} (check : rule.check = .ast name query)
    (unknown : Language.ofName? name = none) : CannotRun r file rule (r.unsupported name)
  | unregistered {name query : String} {declared : Language} (check : rule.check = .ast name query)
    (target : Language.ofName? name = some declared) (unregistered : r.grammar? declared = none) :
    CannotRun r file rule (r.unsupported declared.name)
  | fileUnregistered {name query : String} {declared l : Language} (check : rule.check = .ast name query)
    (notBlank : Text.isBlankText query = false) (target : Language.ofName? name = some declared)
    (registered : (r.grammar? declared).isSome) (language : Language.ofPath? file = some l)
    (accepts : declared.accepts l) (unregistered : r.grammar? l = none) :
    CannotRun r file rule (r.unsupported l.name)
  | rejected {name query : String} {declared l : Language} {g : Grammar} {e : QueryFault}
    (check : rule.check = .ast name query) (notBlank : Text.isBlankText query = false)
    (target : Language.ofName? name = some declared) (registered : (r.grammar? declared).isSome)
    (language : Language.ofPath? file = some l) (accepts : declared.accepts l)
    (grammar : r.grammar? l = some g) (rejected : Detector.compile g query = .error e) :
    CannotRun r file rule (.query rule.id e)

/-! ## One rule -/

def toolsFor (r : Registry) (id name query : String) (file : Option Language) :
    Except LintError (Option (Grammar × Detector)) := do
  let declared ← r.languageNamed name
  match file with
  | none => return none
  | some l =>
    if !declared.accepts l || Text.isBlankText query then return none
    let g ← r.grammarOf l
    let d ← Detector.ofRule id g query
    return some (g, d)

def findWith (text : String) (tree : Option Tree) : Option (Grammar × Detector) → List Match × Option Tree
  | none => ([], tree)
  | some (g, d) =>
    (d.run text (tree.getD (Syntax.parse g text.toList)), some (tree.getD (Syntax.parse g text.toList)))

section
variable {r : Registry} {file : FilePath} {rule : Rule} {name query text : String} {tree : Option Tree}
  {e : LintError} {g : Grammar} {d : Detector}

theorem runQuery_eq (r : Registry) (id name query : String) (language : Option Language) (text : String)
    (tree : Option Tree) : runQuery r id name query language text tree =
      (toolsFor r id name query language).map (findWith text tree) := by
  unfold runQuery toolsFor
  cases r.languageNamed name with
  | error e => rfl
  | ok declared =>
    cases language with
    | none => rfl
    | some l =>
      dsimp only [bind, Except.bind]
      split
      · rfl
      · cases r.grammarOf l with
        | error e => rfl
        | ok g =>
          dsimp only
          cases Detector.ofRule id g query <;> rfl

theorem toolsFor_eq_some {id : String} {language : Option Language}
    (h : toolsFor r id name query language = .ok (some (g, d))) :
    ∃ l, language = some l ∧ r.grammarOf l = .ok g := by
  unfold toolsFor at h
  obtain ⟨declared, -, h⟩ := bind_eq_ok.mp h
  cases language with
  | none => cases h
  | some l =>
    dsimp only at h
    split at h
    · cases h
    · obtain ⟨g', hg, h⟩ := bind_eq_ok.mp h
      obtain ⟨d', -, h⟩ := bind_eq_ok.mp h
      obtain ⟨rfl, rfl⟩ := Prod.mk.inj (Option.some.inj (Except.ok.inj h))
      exact ⟨l, rfl, hg⟩

theorem languageNamed_eq_ok {declared : Language} : r.languageNamed name = .ok declared ↔
    Language.ofName? name = some declared ∧ (r.grammar? declared).isSome := by
  rw [languageNamed_eq]
  cases Language.ofName? name with
  | none => simp
  | some l =>
    cases hg : r.grammarOf l with
    | error e =>
      obtain ⟨hnone, -⟩ := Registry.grammarOf_eq_error.mp hg
      simp only [hg, Except.map, reduceCtorEq, Option.some.injEq, false_iff]
      rintro ⟨hl, hsome⟩
      obtain rfl := hl
      simp [hnone] at hsome
    | ok g =>
      simp only [hg, Except.map, Except.ok.injEq, Option.some.injEq, iff_self_and]
      rintro rfl
      simp [Registry.grammarOf_eq_ok.mp hg]

theorem languageNamed_eq_error : r.languageNamed name = .error e ↔
    (Language.ofName? name = none ∧ e = r.unsupported name) ∨
    ∃ l, Language.ofName? name = some l ∧ r.grammar? l = none ∧ e = r.unsupported l.name := by
  rw [languageNamed_eq]
  cases Language.ofName? name with
  | none => simp [eq_comm]
  | some l =>
    have hmap : (r.grammarOf l).map (fun _ => l) = .error e ↔ r.grammarOf l = .error e := by
      cases r.grammarOf l <;> simp [Except.map]
    simp [hmap, Registry.grammarOf_eq_error]

theorem toolsFor_of_accepts {declared l : Language} (hl : r.languageNamed name = .ok declared)
    (hacc : declared.accepts l) (hq : Text.isBlankText query = false) (id : String) :
    toolsFor r id name query (some l) = do
      let g ← r.grammarOf l
      let d ← Detector.ofRule id g query
      return some (g, d) := by
  simp [toolsFor, hl, hacc, hq, bind, Except.bind]

theorem accepts_of_toolsFor_eq_error {declared : Language} {id : String} {language : Option Language}
    (hl : r.languageNamed name = .ok declared) (h : toolsFor r id name query language = .error e) :
    ∃ l, language = some l ∧ declared.accepts l ∧ Text.isBlankText query = false := by
  cases language with
  | none =>
    simp [toolsFor, hl, bind, Except.bind, pure, Except.pure] at h
  | some l =>
    refine ⟨l, rfl, ?_⟩
    cases hskip : !declared.accepts l || Text.isBlankText query with
    | true => simp [toolsFor, hl, hskip, bind, Except.bind, pure, Except.pure] at h
    | false => simpa using hskip

theorem cannotRun_of_toolsFor (hc : rule.check = .ast name query)
    (h : toolsFor r rule.id name query (Language.ofPath? file) = .error e) : CannotRun r file rule e := by
  cases hl : r.languageNamed name with
  | error e' =>
    obtain rfl : e' = e := by simpa [toolsFor, hl, bind, Except.bind] using h
    rcases languageNamed_eq_error.mp hl with ⟨hname, rfl⟩ | ⟨l, hname, hnone, rfl⟩
    · exact .unknown hc hname
    · exact .unregistered hc hname hnone
  | ok declared =>
    obtain ⟨hname, hsome⟩ := languageNamed_eq_ok.mp hl
    obtain ⟨l, hfile, hacc, hq⟩ := accepts_of_toolsFor_eq_error hl h
    rw [hfile, toolsFor_of_accepts hl hacc hq] at h
    rcases bind_eq_error.mp h with hg | ⟨g, hg, h⟩
    · obtain ⟨hnone, rfl⟩ := Registry.grammarOf_eq_error.mp hg
      exact .fileUnregistered hc hq hname hsome hfile hacc hnone
    · rcases bind_eq_error.mp h with hd | ⟨d, hd, h⟩
      · obtain ⟨e', he, rfl⟩ := ofRule_eq_error.mp hd
        exact .rejected hc hq hname hsome hfile hacc (Registry.grammarOf_eq_ok.mp hg) he
      · cases h

theorem toolsFor_of_cannotRun (hc : rule.check = .ast name query) (h : CannotRun r file rule e) :
    toolsFor r rule.id name query (Language.ofPath? file) = .error e := by
  cases h with
  | unknown hc' hname =>
    obtain ⟨rfl, rfl⟩ := RuleCheck.ast.inj (hc.symm.trans hc')
    exact bind_eq_error.mpr (.inl (languageNamed_eq_error.mpr (.inl ⟨hname, rfl⟩)))
  | unregistered hc' hname hnone =>
    obtain ⟨rfl, rfl⟩ := RuleCheck.ast.inj (hc.symm.trans hc')
    exact bind_eq_error.mpr (.inl (languageNamed_eq_error.mpr (.inr ⟨_, hname, hnone, rfl⟩)))
  | fileUnregistered hc' hq hname hsome hfile hacc hnone =>
    obtain ⟨rfl, rfl⟩ := RuleCheck.ast.inj (hc.symm.trans hc')
    rw [hfile, toolsFor_of_accepts (languageNamed_eq_ok.mpr ⟨hname, hsome⟩) hacc hq]
    exact bind_eq_error.mpr (.inl (Registry.grammarOf_eq_error.mpr ⟨hnone, rfl⟩))
  | rejected hc' hq hname hsome hfile hacc hg he =>
    obtain ⟨rfl, rfl⟩ := RuleCheck.ast.inj (hc.symm.trans hc')
    rw [hfile, toolsFor_of_accepts (languageNamed_eq_ok.mpr ⟨hname, hsome⟩) hacc hq]
    refine bind_eq_error.mpr (.inr ⟨_, Registry.grammarOf_eq_ok.mpr hg, bind_eq_error.mpr (.inl ?_)⟩)
    exact ofRule_eq_error.mpr ⟨_, he, rfl⟩

theorem toolsFor_eq_error (hc : rule.check = .ast name query) :
    toolsFor r rule.id name query (Language.ofPath? file) = .error e ↔ CannotRun r file rule e :=
  ⟨cannotRun_of_toolsFor hc, toolsFor_of_cannotRun hc⟩

theorem not_cannotRun_of_grep {pattern : Regex} (hc : rule.check = .grep pattern) :
    ¬ CannotRun r file rule e := by
  rintro (⟨hc', _⟩ | ⟨hc', _, _⟩ | ⟨hc', _, _, _, _, _, _⟩ | ⟨hc', _, _, _, _, _, _, _⟩)
  all_goals simp [hc] at hc'

theorem CannotRun.unique {e' : LintError} (h : CannotRun r file rule e) (h' : CannotRun r file rule e') :
    e = e' := by
  cases hc : rule.check with
  | grep pattern => exact absurd h (not_cannotRun_of_grep hc)
  | ast name query =>
    exact Except.error.inj (((toolsFor_eq_error hc).mpr h).symm.trans ((toolsFor_eq_error hc).mpr h'))

/-- A rule that cannot run on a file runs on no text of it. Another one finds the same in a text whether or not
its tree is known. -/
theorem runRule_cases (r : Registry) (file : FilePath) (rule : Rule) :
    (∃ e, CannotRun r file rule e ∧
      ∀ text tree, runRule r rule (Language.ofPath? file) text tree = .error e) ∨
    ((∀ e, ¬ CannotRun r file rule e) ∧ ∀ text, ∃ ms, ∀ tree, Knows r file text tree →
      ∃ tree', runRule r rule (Language.ofPath? file) text tree = .ok (ms, tree') ∧
        Knows r file text tree') := by
  cases hc : rule.check with
  | grep pattern =>
    refine .inr ⟨fun e => not_cannotRun_of_grep hc, fun text => ⟨pattern.matchesIn text, fun tree htree => ?_⟩⟩
    exact ⟨tree, by simp [runRule, hc], htree⟩
  | ast name query =>
    have hrun : ∀ text tree, runRule r rule (Language.ofPath? file) text tree =
        (toolsFor r rule.id name query (Language.ofPath? file)).map (findWith text tree) := by
      intro text tree
      rw [← runQuery_eq, runRule, hc]
    cases htools : toolsFor r rule.id name query (Language.ofPath? file) with
    | error e =>
      exact .inl ⟨e, (toolsFor_eq_error hc).mp htools, fun text tree => by rw [hrun, htools]; rfl⟩
    | ok tools =>
      refine .inr ⟨fun e he => ?_, fun text => ?_⟩
      · rw [(toolsFor_eq_error hc).mpr he] at htools
        cases htools
      · cases tools with
        | none => exact ⟨[], fun tree htree => ⟨tree, by rw [hrun, htools]; rfl, htree⟩⟩
        | some tools =>
          obtain ⟨g, d⟩ := tools
          obtain ⟨l, hfile, hg⟩ := toolsFor_eq_some htools
          refine ⟨d.run text (Syntax.parse g text.toList), fun tree htree => ⟨_, ?_, knows_parse hfile hg⟩⟩
          rw [hrun, htools, Except.map, findWith, htree.getD hfile hg]

/-! ## All rules -/

theorem source_singleton (r : Registry) (rule : Rule) (file : FilePath) (text : String) :
    source r [rule] file text = (runRule r rule (Language.ofPath? file) text none).map fun found =>
      found.1.map (.ofMatch file rule) := by
  unfold source runRules
  cases runRule r rule (Language.ofPath? file) text none with
  | error e => rfl
  | ok found => simp [runRules, bind, Except.bind, pure, Except.pure, Except.map]

theorem knows_none : Knows r file text none := by
  intro a h
  cases h

/-- Rules that share a tree find what each of them finds alone. -/
theorem runRules_of_knows {rules : List Rule} (h : Knows r file text tree) :
    runRules r file text tree rules = (rules.mapM fun rule => source r [rule] file text).map List.flatten := by
  induction rules generalizing tree with
  | nil => rfl
  | cons rule rules ih =>
    rw [List.mapM_cons, source_singleton]
    unfold runRules
    rcases runRule_cases r file rule with ⟨e, -, hrun⟩ | ⟨-, hrun⟩
    · rw [hrun, hrun]
      rfl
    · obtain ⟨ms, hms⟩ := hrun text
      obtain ⟨tree', hrule, htree'⟩ := hms tree h
      obtain ⟨_, halone, _⟩ := hms none knows_none
      rw [hrule, halone]
      dsimp only [bind, Except.bind, Except.map]
      rw [ih htree']
      cases rules.mapM fun rule => source r [rule] file text <;> rfl

theorem source_eq_mapM (r : Registry) (rules : List Rule) (file : FilePath) (text : String) :
    source r rules file text = (rules.mapM fun rule => source r [rule] file text).map List.flatten :=
  runRules_of_knows knows_none

theorem source_singleton_eq_error :
    source r [rule] file text = .error e ↔ CannotRun r file rule e := by
  rw [source_singleton]
  rcases runRule_cases r file rule with ⟨e', he', hrun⟩ | ⟨hnone, hrun⟩
  · rw [hrun]
    simp only [Except.map, Except.error.injEq]
    exact ⟨fun h => h ▸ he', fun h => he'.unique h⟩
  · obtain ⟨ms, hms⟩ := hrun text
    obtain ⟨_, halone, _⟩ := hms none knows_none
    rw [halone]
    simpa only [Except.map, reduceCtorEq, false_iff] using hnone e

theorem exists_source_singleton_eq_ok :
    (∃ found, source r [rule] file text = .ok found) ↔ ∀ e, ¬ CannotRun r file rule e := by
  have herror : ∀ e, source r [rule] file text = .error e ↔ CannotRun r file rule e := fun e =>
    source_singleton_eq_error
  simp only [← herror]
  cases source r [rule] file text <;> simp

theorem source_eq_error {rules : List Rule} : source r rules file text = .error e ↔
    ∃ before rule after, rules = before ++ rule :: after ∧
      (∀ b ∈ before, ∃ found, source r [b] file text = .ok found) ∧ source r [rule] file text = .error e := by
  rw [source_eq_mapM, ← mapM_eq_error]
  cases rules.mapM fun rule => source r [rule] file text <;> simp [Except.map]

theorem exists_cannotRun_iff : (∃ e, CannotRun r file rule e) ↔
    ∃ name query, rule.check = .ast name query ∧
      ((∀ l, Language.ofName? name = some l → r.grammar? l = none) ∨
        Text.isBlankText query = false ∧ ∃ declared l, Language.ofName? name = some declared ∧
          Language.ofPath? file = some l ∧ declared.accepts l ∧
          (r.grammar? l = none ∨
            ∃ g fault, r.grammar? l = some g ∧ Detector.compile g query = .error fault)) := by
  constructor
  · rintro ⟨e, h⟩
    cases h with
    | unknown hc hname => exact ⟨_, _, hc, .inl (by simp [hname])⟩
    | unregistered hc hname hnone =>
      refine ⟨_, _, hc, .inl fun l hl => ?_⟩
      rwa [← Option.some.inj (hname.symm.trans hl)]
    | fileUnregistered hc hq hname _ hfile hacc hnone =>
      exact ⟨_, _, hc, .inr ⟨hq, _, _, hname, hfile, hacc, .inl hnone⟩⟩
    | rejected hc hq hname _ hfile hacc hg he =>
      exact ⟨_, _, hc, .inr ⟨hq, _, _, hname, hfile, hacc, .inr ⟨_, _, hg, he⟩⟩⟩
  · rintro ⟨name, query, hc, h⟩
    cases hname : Language.ofName? name with
    | none => exact ⟨_, .unknown hc hname⟩
    | some declared =>
      cases hg : r.grammar? declared with
      | none => exact ⟨_, .unregistered hc hname hg⟩
      | some g =>
        have hsome : (r.grammar? declared).isSome := by simp [hg]
        rcases h with h | ⟨hq, declared', l, hname', hfile, hacc, h⟩
        · simp [h declared hname] at hg
        · obtain rfl := Option.some.inj (hname.symm.trans hname')
          rcases h with hnone | ⟨g', fault, hg', he⟩
          · exact ⟨_, .fileUnregistered hc hq hname hsome hfile hacc hnone⟩
          · exact ⟨_, .rejected hc hq hname hsome hfile hacc hg' he⟩

/-- A list of rules is refused for the first of them that cannot run on the file. -/
theorem source_eq_error_iff {rules : List Rule} : source r rules file text = .error e ↔
    ∃ before rule after, rules = before ++ rule :: after ∧
      (∀ b ∈ before, ∀ e, ¬ CannotRun r file b e) ∧ CannotRun r file rule e := by
  rw [source_eq_error]
  simp only [exists_source_singleton_eq_ok, source_singleton_eq_error]

theorem exists_source_eq_error {rules : List Rule} : (∃ e, source r rules file text = .error e) ↔
    ∃ rule ∈ rules, ∃ e, CannotRun r file rule e := by
  constructor
  · rintro ⟨e, h⟩
    obtain ⟨before, rule, after, rfl, -, he⟩ := source_eq_error_iff.mp h
    exact ⟨rule, by simp, e, he⟩
  · rintro ⟨rule, hrule, e, he⟩
    rw [source_eq_mapM]
    cases h : rules.mapM fun rule => source r [rule] file text with
    | error e => exact ⟨e, rfl⟩
    | ok found =>
      exact absurd he (exists_source_singleton_eq_ok.mp (exists_of_mapM_eq_ok h rule hrule) e)

end

/-- Two texts of a file are both linted or both refused with one error, which tells why the first rule that
cannot run on the file cannot. A rule cannot run if its language is not known or not in the registry, or if it
has a query, its language accepts that of the file, and this is not in the registry or rejects the query. -/
theorem source_fails_alike (r : Registry) (rules : List Rule) (file : FilePath) :
    (∀ a b : String,
      (∃ found found', source r rules file a = .ok found ∧ source r rules file b = .ok found') ∨
      ∃ e, source r rules file a = .error e ∧ source r rules file b = .error e) ∧
    (∀ text e, source r rules file text = .error e ↔ ∃ before rule after, rules = before ++ rule :: after ∧
      (∀ b ∈ before, ∀ e, ¬ CannotRun r file b e) ∧ CannotRun r file rule e) ∧
    ∀ text, (∃ e, source r rules file text = .error e) ↔
      ∃ rule ∈ rules, ∃ name query, rule.check = .ast name query ∧
        ((∀ l, Language.ofName? name = some l → r.grammar? l = none) ∨
          Text.isBlankText query = false ∧ ∃ declared l, Language.ofName? name = some declared ∧
            Language.ofPath? file = some l ∧ declared.accepts l ∧
            (r.grammar? l = none ∨
              ∃ g fault, r.grammar? l = some g ∧ Detector.compile g query = .error fault)) := by
  refine ⟨fun a b => ?_, fun text e => source_eq_error_iff, fun text => ?_⟩
  · cases ha : source r rules file a with
    | error e => exact .inr ⟨e, rfl, source_eq_error_iff.mpr (source_eq_error_iff.mp ha)⟩
    | ok found =>
      cases hb : source r rules file b with
      | error e =>
        rw [source_eq_error_iff.mpr (source_eq_error_iff.mp hb)] at ha
        cases ha
      | ok found' => exact .inl ⟨found, found', rfl, rfl⟩
  · simp only [exists_source_eq_error, exists_cannotRun_iff]

theorem not_cannotRun_anyNode (e : LintError) : ¬ CannotRun .full ⟨"a.py"⟩ anyNode e := by
  have hfile : Language.ofPath? ⟨"a.py"⟩ = some .python := by decide
  have htarget : Language.ofName? "typescript" = some .typescript := by decide
  intro h
  obtain ⟨name, query, hc, hunregistered | ⟨-, declared, l, hname, hl, hacc, -⟩⟩ :=
    exists_cannotRun_iff.mp ⟨e, h⟩
  all_goals obtain ⟨rfl, rfl⟩ := RuleCheck.ast.inj hc
  · have hnone := hunregistered _ htarget
    simp [Registry.grammarOf_eq_ok.mp (Registry.grammarOf_full .typescript)] at hnone
  · obtain rfl := Option.some.inj (htarget.symm.trans hname)
    obtain rfl := Option.some.inj (hfile.symm.trans hl)
    cases hacc

theorem source_fails_alike_unknownLanguage :
    (∀ b ∈ [anyNode], ∀ e, ¬ CannotRun .full ⟨"a.py"⟩ b e) ∧
    CannotRun .full ⟨"a.py"⟩ unknownLanguage (Registry.full.unsupported "cobol") ∧
    ∀ text, source .full [anyNode, unknownLanguage] ⟨"a.py"⟩ text =
      .error (Registry.full.unsupported "cobol") := by
  have hbefore : ∀ b ∈ [anyNode], ∀ e, ¬ CannotRun .full ⟨"a.py"⟩ b e :=
    List.forall_mem_singleton.mpr not_cannotRun_anyNode
  have hcannot : CannotRun .full ⟨"a.py"⟩ unknownLanguage (Registry.full.unsupported "cobol") :=
    .unknown rfl (by decide)
  refine ⟨hbefore, hcannot, fun text => ?_⟩
  obtain ⟨-, herror, -⟩ := source_fails_alike .full [anyNode, unknownLanguage] ⟨"a.py"⟩
  exact (herror text _).mpr ⟨[anyNode], unknownLanguage, [], rfl, hbefore, hcannot⟩

end Linting

end RuleLint
