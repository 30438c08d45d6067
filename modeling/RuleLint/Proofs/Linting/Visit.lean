import RuleLint.Proofs.Linting.Cache

/-!
# Visiting files

A run that shares one cache and one tree for each file finds what each rule finds on its own: visiting a
file gives its `outcome` after the files before it, and the cache keeps up (`onFile_spec`). So the
summary of a run can be told file by file and rule by rule (`files_eq`).
-/

namespace RuleLint.Linting

open QueryCache

def treeOf (r : Registry) (language : Option Language) (source : String) : Option Tree :=
  language.bind fun l => (r.grammarOf l).toOption.map fun g => Syntax.parse g source.toList

structure Ready (r : Registry) (c : QueryCache) (file : FilePath) (source : String)
    (tree : Option Tree) (i : Nat) (rule : Rule) : Prop where
  rule_eq : c.rules[i]? = some rule
  declared_eq : c.declared[i]? = target? r rule
  applies : c.applies (Language.ofPath? file) i
  tree_eq : c.needsTree i → tree = treeOf r (Language.ofPath? file) source

section
variable {r : Registry} {t : FileTree} {c c' : QueryCache} {file : FilePath} {source : String}
  {tree : Option Tree} {i j : Nat} {rule : Rule} {e : Option RuleError}

theorem Ready.not_broken (h : Ready r c file source tree i rule) : c.broken[i]? = none := by
  have happ := h.applies
  unfold QueryCache.applies at happ
  rw [Bool.and_eq_true, contains_broken] at happ
  simpa only [Bool.not_eq_true', Option.isSome_eq_false_iff, Option.isNone_iff_eq_none] using happ.1

theorem Ready.of_touches (h : Ready r c file source tree j rule) (ht : Touches c c' i e) (hj : j ≠ i) :
    Ready r c' file source tree j rule where
  rule_eq := by rw [ht.rules, h.rule_eq]
  declared_eq := by rw [ht.declared, h.declared_eq]
  applies := by
    have happ := h.applies
    simpa only [QueryCache.applies, contains_broken, ht.rules, ht.declared, ht.other j hj] using happ
  tree_eq := by
    have htree := h.tree_eq
    simpa only [needsTree, ht.rules] using htree

theorem Ready.language {name query : String} (h : Ready r c file source tree i rule)
    (hc : rule.check = .ast name query) :
    ∃ declared l, target? r rule = some declared ∧ Language.ofPath? file = some l ∧
      declared.accepts l := by
  have := h.applies
  simp only [QueryCache.applies, h.rule_eq, h.declared_eq, Option.map_some, hc, Bool.and_eq_true] at this
  split at this
  · rename_i declared l hd hl
    exact ⟨declared, l, hd, hl, this.2⟩
  · simp at this

/-- What a rule finds in the text of a file, with what the cache has kept, is what it finds on its
own. -/
theorem find_spec (hs : Sound r c) (h : Ready r c file source tree i rule)
    (htext : t.readText file = .ok source) :
    (c.find r file source tree i).1 = (attempt r t rule file).toOption.join ∧
      Touches c (c.find r file source tree i).2 i
        ((errorOf? (attempt r t rule file)).map rule.errorOf) ∧
      Sound r (c.find r file source tree i).2 := by
  unfold find
  simp only [h.rule_eq]
  cases hc : rule.check with
  | grep pattern =>
    have ha : attempt r t rule file =
        .ok (some ((pattern.matchesIn source).map (.ofMatch file rule))) := by
      simp [attempt, htext, hc]
    rw [ha]
    exact ⟨rfl, touches_of_eq rfl rfl rfl i, hs⟩
  | ast name query =>
    obtain ⟨declared, l, hd, hl, hacc⟩ := h.language hc
    have htree : tree = treeOf r (some l) source := by
      rw [← hl]
      exact h.tree_eq (by simp [needsTree, h.rule_eq, Rule.language?, hc])
    cases hg : r.grammarOf l with
    | error e =>
      have ha : attempt r t rule file = .ok none := by simp [attempt, htext, hc, hd, hl, hacc, hg]
      have htree' : tree = none := by simp [htree, treeOf, hg, Except.toOption]
      rw [ha, htree']
      exact ⟨rfl, touches_of_eq rfl rfl rfl i, hs⟩
    | ok g =>
      have htree' : tree = some (Syntax.parse g source.toList) := by
        simp [htree, treeOf, hg, Except.toOption]
      have hdet : detectorOf r rule query l = Detector.ofRule rule.id g query := by
        simp [detectorOf, hg, bind, Except.bind]
      have hreq := request_spec hs h.rule_eq hc h.not_broken l
      rw [hdet] at hreq
      have ha : attempt r t rule file = (Detector.ofRule rule.id g query).map fun d =>
          some ((d.run source (Syntax.parse g source.toList)).map (.ofMatch file rule)) := by
        simp [attempt, htext, hc, hd, hl, hacc, hg]
      rw [ha, htree', hl]
      refine ⟨?_, ?_, hreq.sound⟩
      · simp only [hreq.value]
        cases Detector.ofRule rule.id g query <;> rfl
      · have htouches := hreq.touches
        cases hd : Detector.ofRule rule.id g query <;> rwa [hd] at htouches

/-! ## The rules that run on a text -/

theorem add_ran (result : FileResult) (found : Option (List Finding)) :
    (result.add found).ran = (found.isSome || result.ran) := by
  cases found <;> rfl

theorem add_findings (result : FileResult) (found : Option (List Finding)) :
    (result.add found).findings = found.getD [] ++ result.findings := by
  cases found <;> rfl

def foundAt (r : Registry) (t : FileTree) (rules : List Rule) (file : FilePath) (i : Nat) :
    Option (List Finding) :=
  rules[i]?.bind fun rule => (attempt r t rule file).toOption.join

def errorAt (r : Registry) (t : FileTree) (rules : List Rule) (file : FilePath) (i : Nat) :
    Option RuleError :=
  rules[i]?.bind fun rule => (errorOf? (attempt r t rule file)).map rule.errorOf

structure Gives (r : Registry) (t : FileTree) (c : QueryCache) (file : FilePath) (places : List Nat)
    (result : FileResult × QueryCache) : Prop where
  ran : result.1.ran = places.any fun i => (foundAt r t c.rules file i).isSome
  findings : result.1.findings = places.flatMap fun i => (foundAt r t c.rules file i).getD []
  rules : result.2.rules = c.rules
  declared : ∀ j : Nat, result.2.declared[j]? = c.declared[j]?
  broken : ∀ j : Nat, result.2.broken[j]? =
    if j ∈ places then errorAt r t c.rules file j else c.broken[j]?
  sound : Sound r result.2

theorem gives_nil (hs : Sound r c) : Gives r t c file [] (.none, c) :=
  ⟨rfl, rfl, rfl, fun _ => rfl, fun j => by simp, hs⟩

theorem onText_spec {places : List Nat} (hs : Sound r c) (htext : t.readText file = .ok source)
    (hnd : places.Nodup) (hready : ∀ i ∈ places, ∃ rule, Ready r c file source tree i rule) :
    Gives r t c file places (onText r file source tree c places) := by
  induction places generalizing c with
  | nil => exact gives_nil hs
  | cons i places ih =>
    obtain ⟨rule, hrule⟩ := hready i (by simp)
    obtain ⟨hvalue, htouches, hs'⟩ := find_spec hs hrule htext
    obtain ⟨hi, hnd'⟩ := List.nodup_cons.mp hnd
    have hrest : ∀ j ∈ places, ∃ rule, Ready r (c.find r file source tree i).2 file source tree j rule := by
      intro j hj
      obtain ⟨rule', h⟩ := hready j (List.mem_cons_of_mem i hj)
      exact ⟨rule', h.of_touches htouches fun h => hi (h ▸ hj)⟩
    have hg := ih hs' hnd' hrest
    have hfound : (c.find r file source tree i).1 = foundAt r t c.rules file i := by
      rw [hvalue, foundAt, hrule.rule_eq, Option.bind_some]
    unfold onText
    refine ⟨?_, ?_, ?_, ?_, ?_, hg.sound⟩
    · rw [add_ran, hg.ran, hfound, htouches.rules, List.any_cons]
    · rw [add_findings, hg.findings, hfound, htouches.rules, List.flatMap_cons]
    · rw [hg.rules, htouches.rules]
    · intro j
      rw [hg.declared, htouches.declared]
    · intro j
      rw [hg.broken, htouches.rules]
      by_cases hj : j = i
      · subst hj
        rw [if_neg hi, if_pos (by simp), htouches.self, hrule.not_broken, Option.none_or, errorAt,
          hrule.rule_eq, Option.bind_some]
      · rw [htouches.other j hj]
        simp [hj]

end

/-! ## One file -/

section
variable {r : Registry} {t : FileTree} {rules : List Rule} {visited : List FilePath} {c : QueryCache}
  (h : Tracks r t rules visited c) (hrules : c.rules = rules)

include hrules in
theorem exists_rule_of_applies {language : Option Language} {i : Nat} (hi : c.applies language i) :
    ∃ rule, rules[i]? = some rule := by
  unfold QueryCache.applies at hi
  rw [hrules] at hi
  cases hr : rules[i]? with
  | none => simp [hr] at hi
  | some rule => exact ⟨rule, rfl⟩

include hrules in
theorem mem_applicable {language : Option Language} {i : Nat} :
    i ∈ c.applicable language ↔ c.applies language i := by
  unfold applicable
  rw [List.mem_filter, List.mem_range, hrules]
  refine ⟨And.right, fun hi => ⟨?_, hi⟩⟩
  obtain ⟨rule, hr⟩ := exists_rule_of_applies hrules hi
  exact (List.getElem?_eq_some_iff.mp hr).1

include h in
theorem no_error_of_applies {language : Option Language} {i : Nat} {rule : Rule}
    (hr : rules[i]? = some rule) (hi : c.applies language i) : error? r t rule visited = none := by
  unfold QueryCache.applies at hi
  rw [Bool.and_eq_true, contains_broken, h.broken, hr] at hi
  simpa using hi.1

include h hrules

theorem idle_of_not_applies {file : FilePath} {i : Nat} {rule : Rule} (hr : rules[i]? = some rule)
    (hn : ¬ c.applies (Language.ofPath? file) i) :
    (error? r t rule visited).isSome ∨ attempt r t rule file = .ok none := by
  by_cases he : (error? r t rule visited).isSome
  · exact .inl he
  right
  have hb : c.broken.contains i = false := by
    rw [contains_broken, h.broken, hr]
    simpa using he
  cases htext : t.readText file with
  | error e => exact attempt_unreadable r rule htext
  | ok source =>
    unfold QueryCache.applies at hn
    rw [hb, hrules, hr, h.declared, hr] at hn
    cases hc : rule.check with
    | grep pattern => simp [hc] at hn
    | ast name query =>
      simp only [Option.map_some, Option.bind_some, hc] at hn
      simp only [attempt, htext, hc]
      split
      · rename_i declared l hd hl
        rw [hd, hl] at hn
        rw [if_pos]
        simpa using hn
      · rfl

theorem bind_found (file : FilePath) (i : Nat) :
    (rules[i]?.bind fun rule => found r t rule visited file) =
      if i ∈ c.applicable (Language.ofPath? file) then foundAt r t rules file i else none := by
  simp only [mem_applicable hrules, foundAt]
  cases hr : rules[i]? with
  | none => simp
  | some rule =>
    simp only [Option.bind_some, found]
    by_cases hi : c.applies (Language.ofPath? file) i
    · rw [no_error_of_applies h hr hi, if_pos hi]
      rfl
    · rw [if_neg hi]
      rcases idle_of_not_applies h hrules hr hi with he | ha
      · rw [if_pos he]
      · rw [ha]
        simp [Except.toOption]

theorem bind_error?_concat {file : FilePath} (i : Nat) :
    (rules[i]?.bind fun rule => (error? r t rule (visited ++ [file])).map rule.errorOf) =
      if i ∈ c.applicable (Language.ofPath? file) then errorAt r t rules file i
      else c.broken[i]? := by
  simp only [mem_applicable hrules, errorAt, h.broken]
  cases hr : rules[i]? with
  | none => simp
  | some rule =>
    simp only [Option.bind_some, error?_concat]
    by_cases hi : c.applies (Language.ofPath? file) i
    · rw [no_error_of_applies h hr hi, if_pos hi, Option.none_or]
    · rw [if_neg hi]
      rcases idle_of_not_applies h hrules hr hi with he | ha
      · rw [Option.or_of_isSome he]
      · rw [ha, errorOf?, Option.or_none]

theorem ready_of_mem {file : FilePath} {source : String} {tree : Option Tree} {i : Nat}
    (hi : i ∈ c.applicable (Language.ofPath? file))
    (htree : c.needsTree i → tree = treeOf r (Language.ofPath? file) source) :
    ∃ rule, Ready r c file source tree i rule := by
  have happ := (mem_applicable hrules).mp hi
  obtain ⟨rule, hr⟩ := exists_rule_of_applies hrules happ
  exact ⟨rule, by rw [hrules, hr], by rw [h.declared, hr]; rfl, happ, htree⟩

end

/-! ## From places to rules -/

theorem any_isSome {α β : Type} (l : List α) (f : α → Option β) :
    (l.any fun a => (f a).isSome) = !(l.filterMap f).isEmpty := by
  induction l with
  | nil => rfl
  | cons a l ih => cases h : f a <;> simp [h, ih]

theorem flatMap_getD {α β : Type} (l : List α) (f : α → Option (List β)) :
    (l.flatMap fun a => (f a).getD []) = (l.filterMap f).flatten := by
  induction l with
  | nil => rfl
  | cons a l ih => cases h : f a <;> simp [h, ih]

theorem map_getElem?_range {α : Type} (l : List α) :
    (List.range l.length).map (l[·]?) = l.map some := by
  apply List.ext_getElem?
  intro i
  by_cases hi : i < l.length
  · simp [hi]
  · simp [hi]

theorem filterMap_places {α β : Type} (l : List α) (f : α → Option β) (p : Nat → Bool)
    (g : Nat → Option β)
    (h : ∀ i, l[i]?.bind f = if i ∈ (List.range l.length).filter p then g i else none) :
    ((List.range l.length).filter p).filterMap g = l.filterMap f := by
  have hg : ∀ i ∈ List.range l.length, (if p i then g i else none) = l[i]?.bind f := by
    intro i hi
    rw [h]
    simp [List.mem_range.mp hi]
  calc ((List.range l.length).filter p).filterMap g
      = (List.range l.length).filterMap fun i => if p i then g i else none := by
        rw [List.filterMap_filter]
    _ = (List.range l.length).filterMap fun i => l[i]?.bind f := List.filterMap_congr hg
    _ = ((List.range l.length).map (l[·]?)).filterMap (·.bind f) := by rw [List.filterMap_map]; rfl
    _ = l.filterMap f := by rw [map_getElem?_range, List.filterMap_map]; rfl

/-! ## Runs -/

section
variable {r : Registry} {t : FileTree} {rules : List Rule} {visited : List FilePath} {c : QueryCache}
  {file : FilePath}

theorem onFile_unreadable {e : FileError} (htext : t.readText file = .error e) :
    (onFile r t c file).1 = (.none, c) := by
  unfold onFile
  rw [htext]
  dsimp only
  split <;> rfl

theorem treeFor_eq {source : String} {places : List Nat}
    (hn : places.any c.needsTree) :
    treeFor r c (Language.ofPath? file) source places =
      (Language.ofPath? file).map fun l => (r.grammarOf l).map fun g => Syntax.parse g source.toList := by
  rw [treeFor, if_pos hn]

/-- The rules that need the tree of a text are given it, if the registry has the language. -/
theorem onFile_readable {source : String} (htext : t.readText file = .ok source) :
    ∃ tree, (onFile r t c file).1 =
        onText r file source tree c (c.applicable (Language.ofPath? file)) ∧
      ∀ i ∈ c.applicable (Language.ofPath? file), c.needsTree i →
        tree = treeOf r (Language.ofPath? file) source := by
  unfold onFile
  rw [htext]
  dsimp only
  split
  · rename_i hempty
    rw [List.isEmpty_iff.mp hempty]
    exact ⟨none, rfl, by simp⟩
  · by_cases hn : (c.applicable (Language.ofPath? file)).any c.needsTree
    · rw [treeFor_eq hn]
      cases hl : Language.ofPath? file with
      | none => exact ⟨none, rfl, fun _ _ _ => rfl⟩
      | some l =>
        have htree : treeOf r (some l) source =
            (r.grammarOf l).toOption.map fun g => Syntax.parse g source.toList := rfl
        rw [Option.map_some, htree]
        cases r.grammarOf l with
        | error e => exact ⟨none, rfl, fun _ _ _ => rfl⟩
        | ok g => exact ⟨some (Syntax.parse g source.toList), rfl, fun _ _ _ => rfl⟩
    · rw [treeFor, if_neg hn]
      refine ⟨none, rfl, fun i hi hneeds => absurd ?_ hn⟩
      exact List.any_eq_true.mpr ⟨i, hi, hneeds⟩

theorem onFile_gives (h : Tracks r t rules visited c) (hrules : c.rules = rules) (file : FilePath) :
    Gives r t c file (c.applicable (Language.ofPath? file)) (onFile r t c file).1 := by
  cases htext : t.readText file with
  | error e =>
    have hnone : ∀ i, foundAt r t c.rules file i = none := by
      intro i
      cases hr : c.rules[i]? with
      | none => simp [foundAt, hr]
      | some rule => simp [foundAt, hr, attempt_unreadable r rule htext, Except.toOption]
    rw [onFile_unreadable htext]
    refine ⟨by simp [hnone, FileResult.none], by simp [hnone, FileResult.none], rfl, fun _ => rfl,
      fun j => ?_, h.sound⟩
    split
    · rename_i hj
      obtain ⟨rule, hr⟩ := exists_rule_of_applies hrules ((mem_applicable hrules).mp hj)
      rw [errorAt, hrules, hr, Option.bind_some, attempt_unreadable r rule htext, h.broken, hr,
        Option.bind_some, no_error_of_applies h hr ((mem_applicable hrules).mp hj)]
      rfl
    · rfl
  | ok source =>
    obtain ⟨tree, heq, htree⟩ := onFile_readable (r := r) (c := c) htext
    rw [heq]
    apply onText_spec h.sound htext
    · exact List.Nodup.filter _ List.nodup_range
    · exact fun i hi => ready_of_mem h hrules hi (htree i hi)

theorem outcome_eq (file : FilePath) : outcome r t rules visited file =
    ⟨!(rules.filterMap (found r t · visited file)).isEmpty,
      (rules.filterMap (found r t · visited file)).flatten⟩ := by
  rw [outcome, any_isSome, flatMap_getD]

theorem onFile_spec (h : Tracks r t rules visited c) (hrules : c.rules = rules) (file : FilePath) :
    (onFile r t c file).1.1 = outcome r t rules visited file ∧
      Tracks r t rules (visited ++ [file]) (onFile r t c file).1.2 ∧
      (onFile r t c file).1.2.rules = rules := by
  have hg := onFile_gives h hrules file
  refine ⟨?_, ⟨fun j => ?_, fun j => ?_, hg.sound⟩, by rw [hg.rules, hrules]⟩
  · have hplaces : (c.applicable (Language.ofPath? file)).filterMap (foundAt r t rules file) =
        rules.filterMap (found r t · visited file) := by
      have hb := bind_found h hrules file
      unfold applicable at hb ⊢
      rw [hrules] at hb ⊢
      exact filterMap_places rules _ _ _ hb
    rw [outcome_eq, ← hplaces, ← any_isSome, ← flatMap_getD]
    have hran := hg.ran
    have hfindings := hg.findings
    rw [hrules] at hran hfindings
    rw [← hran, ← hfindings]
  · rw [hg.declared, h.declared]
  · rw [hg.broken, hrules, bind_error?_concat h hrules]

theorem onFiles_spec (h : Tracks r t rules visited c) (hrules : c.rules = rules)
    (paths : List FilePath) :
    (onFiles r t c paths).1.1 = (visitsFrom visited paths).map (fun v => outcome r t rules v.1 v.2) ∧
      Tracks r t rules (visited ++ paths) (onFiles r t c paths).1.2 := by
  induction paths generalizing visited c with
  | nil => exact ⟨rfl, by simpa [onFiles] using h⟩
  | cons file paths ih =>
    obtain ⟨houtcome, htracks, hrules'⟩ := onFile_spec h hrules file
    obtain ⟨hrest, hend⟩ := ih htracks hrules'
    unfold onFiles
    refine ⟨?_, ?_⟩
    · simp only [visitsFrom, List.map_cons]
      rw [← houtcome, ← hrest]
    · simpa using hend

/-- The summary of a run, told file by file and rule by rule. -/
theorem files_eq (r : Registry) (t : FileTree) (domain : String) (rules : List Rule)
    (paths : List FilePath) :
    (files r t domain rules paths).1 =
      { domain
        filesLinted := (visits paths).countP fun v => (outcome r t rules v.1 v.2).ran
        findings := sortByFile ((visits paths).flatMap fun v => (outcome r t rules v.1 v.2).findings)
        errors := rules.filterMap fun rule => (error? r t rule paths).map rule.errorOf } := by
  obtain ⟨hstart, hrules⟩ := tracks_start (r := r) (t := t) rules
  obtain ⟨hresults, hend⟩ := onFiles_spec hstart hrules paths
  unfold files
  dsimp only
  rw [hresults, errors_eq hend, List.countP_map, List.flatMap_map]
  rfl

theorem errors_eq_nil_iff {domain : String} {rules : List Rule} {paths : List FilePath} :
    (files r t domain rules paths).1.errors = [] ↔ ∀ rule ∈ rules, error? r t rule paths = none := by
  rw [files_eq]
  dsimp only
  rw [List.filterMap_eq_nil_iff]
  simp only [Option.map_eq_none_iff]

end

end RuleLint.Linting
