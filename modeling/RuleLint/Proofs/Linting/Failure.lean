import Mathlib
import RuleLint.Proofs.Linting.Alone
import RuleLint.Proofs.Registry

/-!
# Why rules fail

A rule fails at the start (`startError?_eq_some_iff`), or else in the files of one language, the superset
of its own (`attempt_eq_error_iff`). It fails in all of them, with one error, and no other rule that fails
so runs on them.
-/

namespace RuleLint

/-! ## Supersets -/

namespace Language

/-- A rule for `declared` may run on the files of `l`, which is another language. -/
def Extends (l declared : Language) : Prop := declared.accepts l ∧ l ≠ declared

theorem extends_iff {l declared : Language} :
    l.Extends declared ↔ declared = javascript ∧ l = jsx ∨ declared = typescript ∧ l = tsx := by
  unfold Extends
  cases declared <;> cases l <;> simp [accepts]

theorem accepts_iff {l declared : Language} :
    declared.accepts l ↔ l = declared ∨ l.Extends declared := by
  unfold Extends
  by_cases h : l = declared
  · simp [h, accepts]
  · simp [h]

theorem Extends.unique {l m declared : Language} (hl : l.Extends declared) (hm : m.Extends declared) :
    l = m := by
  rw [extends_iff] at hl hm
  rcases hl with ⟨rfl, rfl⟩ | ⟨rfl, rfl⟩
  · simpa [eq_comm] using hm
  · simpa [eq_comm] using hm

/-- A superset has no superset. -/
theorem Extends.ne {l m a b : Language} (hl : l.Extends a) (hm : m.Extends b) : l ≠ b := by
  rw [extends_iff] at hl hm
  rintro rfl
  rcases hl with ⟨rfl, rfl⟩ | ⟨rfl, rfl⟩
  · simp at hm
  · simp at hm

end Language

namespace Linting

/-- Why a rule cannot run on any file: its language is not known or not in the registry, or the query is
rejected for it. -/
inductive CannotStart (r : Registry) (rule : Rule) : LintError → Prop where
  | unknown {name query : String} (check : rule.check = .ast name query)
    (notBlank : Text.isBlankText query = false) (unknown : Language.ofName? name = none) :
    CannotStart r rule (r.unsupported name)
  | unregistered {name query : String} {l : Language} (check : rule.check = .ast name query)
    (notBlank : Text.isBlankText query = false) (target : Language.ofName? name = some l)
    (unregistered : r.grammar? l = none) : CannotStart r rule (r.unsupported l.name)
  | rejected {name query : String} {l : Language} {g : Grammar} {e : QueryFault}
    (check : rule.check = .ast name query) (notBlank : Text.isBlankText query = false)
    (target : Language.ofName? name = some l) (grammar : r.grammar? l = some g)
    (rejected : Detector.compile g query = .error e) : CannotStart r rule (.query rule.id e)

inductive RejectedIn (r : Registry) (t : FileTree) (rule : Rule) (file : FilePath) : LintError → Prop where
  | intro {name query text : String} {declared l : Language} {g : Grammar} {e : QueryFault}
    (check : rule.check = .ast name query) (notBlank : Text.isBlankText query = false)
    (target : Language.ofName? name = some declared) (readable : t.readText file = .ok text)
    (language : Language.ofPath? file = some l) (superset : l.Extends declared)
    (grammar : r.grammar? l = some g) (rejected : Detector.compile g query = .error e) :
    RejectedIn r t rule file (.query rule.id e)

section
variable {r : Registry} {t : FileTree} {rule : Rule} {file : FilePath} {e : LintError}
  {name query : String}

theorem languageNamed_eq (r : Registry) (name : String) :
    r.languageNamed name = match Language.ofName? name with
      | none => .error (r.unsupported name)
      | some l => (r.grammarOf l).map fun _ => l := by
  unfold Registry.languageNamed
  cases Language.ofName? name with
  | none => rfl
  | some l => rcases hg : r.grammarOf l <;> simp [hg, bind, Except.bind, Except.map, pure, Except.pure]

theorem startError?_eq (hc : rule.check = .ast name query) (hq : Text.isBlankText query = false) :
    startError? r rule = match Language.ofName? name with
      | none => some (r.unsupported name)
      | some l => match r.grammarOf l with
        | .error e => some e
        | .ok g => errorOf? (Detector.ofRule rule.id g query) := by
  simp only [startError?, hc, hq, languageNamed_eq, Bool.false_eq_true, if_false]
  cases Language.ofName? name with
  | none => rfl
  | some l =>
    rcases hg : r.grammarOf l <;> simp [hg, detectorOf, bind, Except.bind, Except.map, errorOf?]

theorem ofRule_eq_error {g : Grammar} {id : String} :
    Detector.ofRule id g query = .error e ↔ ∃ e', Detector.compile g query = .error e' ∧ e = .query id e' := by
  unfold Detector.ofRule
  cases Detector.compile g query <;> simp [Except.mapError, eq_comm]

theorem startError?_eq_some_iff : startError? r rule = some e ↔ CannotStart r rule e := by
  constructor
  · intro h
    cases hc : rule.check with
    | grep pattern => simp [startError?, hc] at h
    | ast name query =>
    cases hq : Text.isBlankText query with
    | true => simp [startError?, hc, hq] at h
    | false =>
    rw [startError?_eq hc hq] at h
    cases hl : Language.ofName? name with
    | none =>
      obtain rfl : r.unsupported name = e := by simpa [hl] using h
      exact .unknown hc hq hl
    | some l =>
      simp only [hl] at h
      cases hg : r.grammarOf l with
      | error e' =>
        obtain rfl : e' = e := by simpa [hg] using h
        obtain ⟨hnone, rfl⟩ := Registry.grammarOf_eq_error.mp hg
        exact .unregistered hc hq hl hnone
      | ok g =>
        simp only [hg] at h
        obtain ⟨e', he, rfl⟩ := ofRule_eq_error.mp (errorOf?_eq_some.mp h)
        exact .rejected hc hq hl (Registry.grammarOf_eq_ok.mp hg) he
  · rintro (⟨hc, hq, hl⟩ | ⟨hc, hq, hl, hg⟩ | ⟨hc, hq, hl, hg, he⟩)
    · rw [startError?_eq hc hq, hl]
    · rw [startError?_eq hc hq, hl]
      simp only [Registry.grammarOf_eq_error.mpr ⟨hg, rfl⟩]
    · rw [startError?_eq hc hq, hl]
      simp only [Registry.grammarOf_eq_ok.mpr hg]
      exact errorOf?_eq_some.mpr (ofRule_eq_error.mpr ⟨_, he, rfl⟩)

theorem exists_target (hs : startError? r rule = none) (hc : rule.check = .ast name query)
    (hq : Text.isBlankText query = false) :
    ∃ declared g d, Language.ofName? name = some declared ∧ target? r rule = some declared ∧
      r.grammarOf declared = .ok g ∧ Detector.ofRule rule.id g query = .ok d := by
  rw [startError?_eq hc hq] at hs
  cases hl : Language.ofName? name with
  | none => simp [hl] at hs
  | some declared =>
    cases hg : r.grammarOf declared with
    | error e => simp [hl, hg] at hs
    | ok g =>
      simp only [hl, hg] at hs
      obtain ⟨d, hd⟩ := errorOf?_eq_none.mp hs
      refine ⟨declared, g, d, rfl, ?_, hg, hd⟩
      simp [target?, hc, hq, languageNamed_eq, hl, hg, Except.map, Except.toOption]

theorem target?_eq_some {declared : Language} (hc : rule.check = .ast name query)
    (h : target? r rule = some declared) :
    Text.isBlankText query = false ∧ Language.ofName? name = some declared := by
  simp only [target?, hc, languageNamed_eq] at h
  split at h
  · cases h
  · rename_i hq
    refine ⟨by simpa using hq, ?_⟩
    cases hl : Language.ofName? name with
    | none => simp [hl, Except.toOption] at h
    | some l =>
      rcases hg : r.grammarOf l with e | g
      · simp [hl, hg, Except.map, Except.toOption] at h
      · simpa [hl, hg, Except.map, Except.toOption] using h

theorem attempt_eq_error_iff (hs : startError? r rule = none) :
    attempt r t rule file = .error e ↔ RejectedIn r t rule file e := by
  constructor
  · intro h
    rcases attempt_cases r t rule file with
      ha | ⟨_, _, _, _, ha⟩ | ⟨_, query, _, declared, l, g, hc, ht, htext, hl, hacc, hg⟩
    · simp [ha] at h
    · simp [ha] at h
    rw [attempt_eq hc ht htext hl hacc hg] at h
    obtain ⟨hq, hname⟩ := target?_eq_some hc ht
    obtain ⟨declared', g', d, hname', _, hg', hd⟩ := exists_target hs hc hq
    obtain rfl := Option.some.inj (hname.symm.trans hname')
    cases hd' : Detector.ofRule rule.id g query with
    | ok d => simp [hd', Except.map] at h
    | error e' =>
      obtain rfl : e' = e := by simpa [hd', Except.map] using h
      obtain ⟨e, he, rfl⟩ := ofRule_eq_error.mp hd'
      refine .intro hc hq hname htext hl ⟨hacc, ?_⟩ (Registry.grammarOf_eq_ok.mp hg) he
      rintro rfl
      obtain rfl := Except.ok.inj (hg.symm.trans hg')
      simp [hd] at hd'
  · rintro ⟨hc, hq, hname, htext, hl, hsup, hg, he⟩
    obtain ⟨declared, _, _, hname', ht, _⟩ := exists_target hs hc hq
    obtain rfl := Option.some.inj (hname.symm.trans hname')
    rw [attempt_eq hc ht htext hl hsup.1 (Registry.grammarOf_eq_ok.mpr hg),
      ofRule_eq_error.mpr ⟨_, he, rfl⟩]
    rfl

theorem RejectedIn.unique {other : FilePath} {e' : LintError} (h : RejectedIn r t rule file e)
    (h' : RejectedIn r t rule other e') : e = e' := by
  obtain ⟨hc, _, hname, _, _, hsup, hg, he⟩ := h
  obtain ⟨hc', _, hname', _, _, hsup', hg', he'⟩ := h'
  obtain ⟨rfl, rfl⟩ := RuleCheck.ast.inj (hc.symm.trans hc')
  obtain rfl := Option.some.inj (hname.symm.trans hname')
  obtain rfl := hsup.unique hsup'
  obtain rfl := Option.some.inj (hg.symm.trans hg')
  obtain rfl := Except.error.inj (he.symm.trans he')
  rfl

/-- A rule that is rejected somewhere does not run on a file in which any rule is rejected. -/
theorem RejectedIn.not_run {rule' : Rule} {other : FilePath} {e' : LintError} {l : List Finding}
    (h : RejectedIn r t rule' file e') (h' : RejectedIn r t rule other e) :
    attempt r t rule file ≠ .ok (some l) := by
  intro hrun
  obtain ⟨_, _, _, _, hfile, hsup, _, _⟩ := h
  obtain ⟨hc', _, hname', _, _, hsup', hg', he'⟩ := h'
  rcases attempt_cases r t rule file with
    ha | ⟨_, _, hc, _⟩ | ⟨name, query, text, declared, l, g, hc, ht, htext, hl, hacc, hg⟩
  · simp [ha] at hrun
  · simp [hc] at hc'
  obtain ⟨rfl, rfl⟩ := RuleCheck.ast.inj (hc.symm.trans hc')
  obtain rfl := Option.some.inj (hfile.symm.trans hl)
  obtain rfl := Option.some.inj ((target?_eq_some hc ht).2.symm.trans hname')
  rcases Language.accepts_iff.mp hacc with hself | hext
  · exact hsup.ne hsup' hself
  · obtain rfl := hext.unique hsup'
    obtain rfl := Option.some.inj ((Registry.grammarOf_eq_ok.mp hg).symm.trans hg')
    have hd : Detector.ofRule rule.id g query = .error (.query rule.id _) :=
      ofRule_eq_error.mpr ⟨_, he', rfl⟩
    simp [attempt_eq hc ht htext hl hacc hg, hd, Except.map] at hrun

theorem error?_eq_some_iff {files : List FilePath} (hs : startError? r rule = none) :
    error? r t rule files = some e ↔ ∃ file ∈ files, RejectedIn r t rule file e := by
  have hsome : ∀ file e, errorOf? (attempt r t rule file) = some e ↔ RejectedIn r t rule file e := by
    intro file e
    rw [errorOf?_eq_some, attempt_eq_error_iff hs]
  rw [error?, hs, Option.none_or]
  constructor
  · intro h
    obtain ⟨file, hfile, he⟩ := List.exists_of_findSome?_eq_some h
    exact ⟨file, hfile, (hsome file e).mp he⟩
  · rintro ⟨file, hfile, he⟩
    cases hfind : files.findSome? fun file => errorOf? (attempt r t rule file) with
    | none =>
      have hnone := List.findSome?_eq_none_iff.mp hfind file hfile
      rw [(hsome file e).mpr he] at hnone
      cases hnone
    | some e' =>
      obtain ⟨file', _, he'⟩ := List.exists_of_findSome?_eq_some hfind
      rw [((hsome file' e').mp he').unique he]

theorem error?_perm {files files' : List FilePath} (h : files.Perm files') :
    error? r t rule files = error? r t rule files' := by
  cases hs : startError? r rule with
  | some e => simp [error?, hs]
  | none =>
    ext e
    rw [error?_eq_some_iff hs, error?_eq_some_iff hs]
    simp only [h.mem_iff]

end

/-! ## Rules that never fail -/

theorem exists_ofRule {g : Grammar} {query : String} (h : (Detector.compile g query).isOk) (id : String) :
    ∃ d, Detector.ofRule id g query = .ok d := by
  unfold Detector.ofRule
  cases hd : Detector.compile g query with
  | error e => simp [hd, Except.isOk, Except.toBool] at h
  | ok d => exact ⟨d, rfl⟩

theorem error?_full_eq_none {rule : Rule} {t : FileTree} (hquery : ∀ name query,
    rule.check = .ast name query →
      (Language.ofName? name).isSome ∧ ∀ g, (Detector.compile g query).isOk)
    (paths : List FilePath) : error? .full t rule paths = none := by
  have hstart : startError? .full rule = none := by
    refine Option.eq_none_iff_forall_ne_some.mpr fun e he => ?_
    cases startError?_eq_some_iff.mp he with
    | unknown hc _ hl => simpa [hl] using (hquery _ _ hc).1
    | unregistered _ _ _ hg => simp [Registry.grammarOf_eq_ok.mp (Registry.grammarOf_full _)] at hg
    | @rejected _ _ _ g _ hc _ _ _ hd =>
      have hok := (hquery _ _ hc).2 g
      simp [hd, Except.isOk, Except.toBool] at hok
  rw [error?_eq_none]
  refine ⟨hstart, fun file _ => ?_⟩
  rcases attempt_cases .full t rule file with
    ha | ⟨_, _, _, _, ha⟩ | ⟨name, query, _, _, _, g, hc, ht, htext, hl, hacc, hg⟩
  · exact ⟨_, ha⟩
  · exact ⟨_, ha⟩
  · obtain ⟨d, hd⟩ := exists_ofRule ((hquery name query hc).2 g) rule.id
    rw [attempt_eq hc ht htext hl hacc hg, hd]
    exact ⟨_, rfl⟩

def anyNode : Rule := ⟨"A", "t", .must, .ast "typescript" "(_) @violation", "m", none⟩

theorem compile_anyNode (g : Grammar) : (Detector.compile g "(_) @violation").isOk := by cbv

end Linting

end RuleLint
