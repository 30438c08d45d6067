import Mathlib.Data.List.Forall2
import Mathlib.Data.List.Permutation
import RuleLint.Proofs.Discovery
import RuleLint.Proofs.Except
import RuleLint.Proofs.Glob.Reading

/-!
# What is found

Below a base directory those files are found that a pattern reaches and nothing leaves out (`lists_files`). As
two lists in order with the same paths are the same, the order of patterns and exclusions and how often they are
given do not matter; an exclusion more can only take files away.
-/

namespace RuleLint.Discovery

/-! ## Patterns and exclusions -/

/-- A path below the base directory is left out by one of the texts, as a pattern. -/
def IsExcluded (texts : List String) (relative : List Char) : Prop :=
  ∃ text ∈ texts, ∃ pattern, Glob.Pattern.ofText? (trimHereText text) = some pattern ∧
    pattern.matchesText relative

theorem IsExcluded.mono {texts texts' : List String} {relative : List Char} (hsub : texts ⊆ texts')
    (h : IsExcluded texts relative) : IsExcluded texts' relative := by
  obtain ⟨text, htext, h⟩ := h
  exact ⟨text, hsub htext, h⟩

theorem excludePatterns_fst (texts : List String) : (excludePatterns texts).1 =
    texts.filterMap fun text => Glob.Pattern.ofText? (trimHereText text) := by
  unfold excludePatterns
  induction texts with
  | nil => rfl
  | cons text texts ih =>
    rw [List.foldr_cons, List.filterMap_cons, ← ih]
    cases h : Glob.Pattern.ofText? (trimHereText text) <;> simp [h]

theorem any_excludePatterns {texts : List String} {relative : List Char} :
    ((excludePatterns texts).1.any fun pattern => pattern.matchesText relative) ↔ IsExcluded texts relative := by
  rw [excludePatterns_fst, List.any_eq_true]
  constructor
  · rintro ⟨pattern, hpattern, hmatches⟩
    obtain ⟨text, htext, hread⟩ := List.mem_filterMap.mp hpattern
    exact ⟨text, htext, pattern, hread, hmatches⟩
  · rintro ⟨text, htext, pattern, hread, hmatches⟩
    exact ⟨pattern, List.mem_filterMap.mpr ⟨text, htext, hread⟩, hmatches⟩

section
variable {t : FileTree} {base b p : FilePath} {pattern : String} {lines : List Ignore.Line}

theorem matching_fst (t : FileTree) (base : FilePath) (pattern : String) : (matching t base pattern).1 =
    match Glob.patternBelow? base (trimHereText pattern) with
    | none => []
    | some g => (g.expand t).filter t.isFile := by
  unfold matching Glob.patternBelow?
  dsimp only
  generalize Glob.PathPattern.ofText? _ = g
  cases g <;> rfl

theorem mem_matching : p ∈ (matching t base pattern).1 ↔
    ∃ g, Glob.patternBelow? base (trimHereText pattern) = some g ∧ p ∈ g.expand t ∧ t.isFile p := by
  rw [matching_fst]
  split
  · rename_i h
    simp [h]
  · rename_i h
    simp [h]

theorem keeps_iff {texts : List String} : keeps base (excludePatterns texts).1 lines p ↔
    base.components <+: p.components ∧
      (∀ relative, relativeTo base p = some relative → ¬ IsExcluded texts relative) ∧
      Ignore.ignores lines (ignorePath base p) = false := by
  unfold keeps
  by_cases hprefix : base.components.isPrefixOf p.components
  · obtain ⟨relative, hrelative⟩ : ∃ relative, relativeTo base p = some relative := by
      rw [relativeTo, if_pos hprefix]
      exact ⟨_, rfl⟩
    rw [List.isPrefixOf_iff_prefix] at hprefix
    simp [hrelative, hprefix, ← any_excludePatterns]
  · have hrelative : relativeTo base p = none := by rw [relativeTo, if_neg hprefix]
    rw [List.isPrefixOf_iff_prefix] at hprefix
    simp [hrelative, hprefix]

theorem isAbsolute_of_canonical (h : t.canonical base = .ok b) : b.isAbsolute := by
  obtain ⟨names, -, hb⟩ := bind_eq_ok.mp h
  obtain rfl := Except.ok.inj hb
  simp [FilePath.isAbsolute, FileTree.pathOf]

end

/-! ## Files -/

def excludeTexts (excludes : List String) (o : Options) : List String :=
  defaultExcludes ++ excludes ++ o.extraExcludes

/-- A spelling of a file below a base directory that a pattern reaches and nothing leaves out. -/
structure IsFound (t : FileTree) (base : FilePath) (patterns excludes : List String) (o : Options)
    (p : FilePath) : Prop where
  reached : ∃ pattern ∈ patterns, ∃ g, Glob.patternBelow? base (trimHereText pattern) = some g ∧ p ∈ g.expand t
  file : t.isFile p
  below : base.components <+: p.components
  kept : ∀ relative, relativeTo base p = some relative → ¬ IsExcluded (excludeTexts excludes o) relative
  visible : o.respectIgnoreFile → Ignore.ignores (ignoreLines t base).1 (ignorePath base p) = false

/-- Some spelling of the path is in the list. -/
def Lists (l : List FilePath) (p : FilePath) : Prop := ∃ q ∈ l, q.same p

section
variable {t : FileTree} {base b p : FilePath} {patterns patterns' excludes excludes' : List String} {o o' : Options}

theorem IsFound.mono (hpatterns : patterns ⊆ patterns')
    (hexcludes : excludeTexts excludes' o' ⊆ excludeTexts excludes o)
    (hrespect : o'.respectIgnoreFile → o.respectIgnoreFile) (h : IsFound t b patterns excludes o p) :
    IsFound t b patterns' excludes' o' p := by
  obtain ⟨pattern, hpattern, hg⟩ := h.reached
  refine ⟨⟨pattern, hpatterns hpattern, hg⟩, h.file, h.below, ?_, fun hr => h.visible (hrespect hr)⟩
  exact fun relative hrelative hexcluded => h.kept relative hrelative (hexcluded.mono hexcludes)

theorem files_eq (hb : t.canonical base = .ok b) (patterns excludes : List String) (o : Options) :
    (files t patterns excludes base o).1 =
      sortPaths (((patterns.map (matching t b)).flatMap (·.1)).filter (keeps b
        (excludePatterns (excludeTexts excludes o)).1
        (if o.respectIgnoreFile then ignoreLines t b else ([], [])).1)) := by
  unfold files excludeTexts
  -- or else the exclusions are read to see that they are a pair
  generalize excludePatterns (defaultExcludes ++ excludes ++ o.extraExcludes) = excluded
  cases excluded
  rw [hb]

theorem files_of_keeps (hb : t.canonical base = .ok b) (ho : o.respectIgnoreFile = false) {found : List FilePath}
    (hfound : patterns.flatMap (fun pattern => (matching t b pattern).1) = found)
    (hkeeps : ∀ p ∈ found, keeps b (excludePatterns (excludeTexts excludes o)).1 [] p) :
    (files t patterns excludes base o).1 = sortPaths found := by
  have hlines : (if o.respectIgnoreFile then ignoreLines t b else ([], [])).1 = [] := by simp [ho]
  rw [files_eq hb, hlines, List.flatMap_map, hfound, List.filter_eq_self.mpr hkeeps]

theorem isFound_iff : IsFound t b patterns excludes o p ↔
    p ∈ ((patterns.map (matching t b)).flatMap (·.1)).filter (keeps b
        (excludePatterns (excludeTexts excludes o)).1
        (if o.respectIgnoreFile then ignoreLines t b else ([], [])).1) := by
  have hvisible : (o.respectIgnoreFile → Ignore.ignores (ignoreLines t b).1 (ignorePath b p) = false) ↔
      Ignore.ignores (if o.respectIgnoreFile then ignoreLines t b else ([], [])).1 (ignorePath b p) = false := by
    by_cases hr : o.respectIgnoreFile <;> simp [hr, Ignore.ignores]
  rw [List.mem_filter, keeps_iff, ← hvisible]
  simp only [List.mem_flatMap, List.mem_map, exists_exists_and_eq_and, mem_matching]
  constructor
  · rintro ⟨⟨pattern, hpattern, g, hg, hp⟩, hfile, hbelow, hkept, hvisible⟩
    exact ⟨⟨pattern, hpattern, g, hg, hp, hfile⟩, hbelow, hkept, hvisible⟩
  · rintro ⟨⟨pattern, hpattern, g, hg, hp, hfile⟩, hbelow, hkept, hvisible⟩
    exact ⟨⟨pattern, hpattern, g, hg, hp⟩, hfile, hbelow, hkept, hvisible⟩

theorem isFound_of_mem_files (hb : t.canonical base = .ok b) (h : p ∈ (files t patterns excludes base o).1) :
    IsFound t b patterns excludes o p := by
  rw [files_eq hb] at h
  exact isFound_iff.mpr (mem_sortPaths h)

theorem lists_files (hb : t.canonical base = .ok b) : Lists (files t patterns excludes base o).1 p ↔
    ∃ q, q.same p ∧ IsFound t b patterns excludes o q := by
  constructor
  · rintro ⟨q, hq, hsame⟩
    exact ⟨q, hsame, isFound_of_mem_files hb hq⟩
  · rintro ⟨q, hsame, hfound⟩
    obtain ⟨s, hs, hqs⟩ := exists_same_sortPaths (isFound_iff.mp hfound)
    refine ⟨s, files_eq hb patterns excludes o ▸ hs, ?_⟩
    rw [FilePath.same_iff] at hsame hqs ⊢
    rw [← hqs, hsame]

theorem lists_iff {l : List FilePath} : Lists l p ↔ p.components ∈ l.map FilePath.components := by
  simp [Lists, FilePath.same_iff]

theorem map_components_subset {l l' : List FilePath} (h : ∀ p, Lists l p → Lists l' p) :
    l.map FilePath.components ⊆ l'.map FilePath.components := by
  intro components hmem
  obtain ⟨q, hq, rfl⟩ := List.mem_map.mp hmem
  exact lists_iff.mp (h q ⟨q, hq, FilePath.same_iff.mpr rfl⟩)

/-- A list in order is determined by the paths that it has. -/
theorem forall₂_same {l l' : List FilePath} (hl : Ascending l) (hl' : Ascending l')
    (h : ∀ p, Lists l p ↔ Lists l' p) : List.Forall₂ (fun p q => p.same q) l l' := by
  let R := fun a b => FilePath.compareComponents a b = .lt
  have hirrefl : ∀ {a b}, R a b → a ≠ b := by
    rintro a b hlt rfl
    cases hlt.symm.trans (@Std.ReflCmp.compare_self _ FilePath.compareComponents _ a)
  have hanti : ∀ a b, R a b → R b a → a = b := fun a b hab hba =>
    absurd rfl (hirrefl (Std.TransCmp.lt_trans hab hba))
  have hsorted : (l.map FilePath.components).Pairwise R := List.pairwise_map.mpr hl
  have hsorted' : (l'.map FilePath.components).Pairwise R := List.pairwise_map.mpr hl'
  have hperm : (l.map FilePath.components).Perm (l'.map FilePath.components) := by
    rw [List.perm_ext_iff_of_nodup (hsorted.imp hirrefl) (hsorted'.imp hirrefl)]
    exact fun components => ⟨fun hmem => map_components_subset (fun p => (h p).mp) hmem,
      fun hmem => map_components_subset (fun p => (h p).mpr) hmem⟩
  have heq := hperm.eq_of_pairwise (fun a b _ _ => hanti a b) hsorted hsorted'
  rw [← List.forall₂_eq_eq_eq, List.forall₂_map_left_iff, List.forall₂_map_right_iff] at heq
  exact heq.imp fun p q hpq => FilePath.same_iff.mpr hpq

theorem lists_files_mono (hb : t.canonical base = .ok b) (hpatterns : patterns ⊆ patterns')
    (hexcludes : excludeTexts excludes' o' ⊆ excludeTexts excludes o)
    (hrespect : o'.respectIgnoreFile → o.respectIgnoreFile)
    (h : Lists (files t patterns excludes base o).1 p) : Lists (files t patterns' excludes' base o').1 p := by
  rw [lists_files hb] at h ⊢
  obtain ⟨q, hsame, hfound⟩ := h
  exact ⟨q, hsame, hfound.mono hpatterns hexcludes hrespect⟩

theorem lists_files_append (hb : t.canonical base = .ok b) :
    Lists (files t (patterns ++ patterns') excludes base o).1 p ↔
      Lists (files t patterns excludes base o).1 p ∨ Lists (files t patterns' excludes base o).1 p := by
  constructor
  · rw [lists_files hb, lists_files hb, lists_files hb]
    rintro ⟨q, hsame, hfound⟩
    obtain ⟨pattern, hpattern, hg⟩ := hfound.reached
    rcases List.mem_append.mp hpattern with hpattern | hpattern
    · exact .inl ⟨q, hsame, { hfound with reached := ⟨pattern, hpattern, hg⟩ }⟩
    · exact .inr ⟨q, hsame, { hfound with reached := ⟨pattern, hpattern, hg⟩ }⟩
  · rintro (h | h)
    · exact lists_files_mono hb (List.subset_append_left _ _) (List.Subset.refl _) id h
    · exact lists_files_mono hb (List.subset_append_right _ _) (List.Subset.refl _) id h

/-! ## Texts that are no patterns -/

theorem files_unusable (hb : t.canonical base = .ok b) {pattern : String}
    (h : ¬ Glob.IsUsable (trimHereText pattern)) (before after excludes : List String) (o : Options) :
    (files t (before ++ pattern :: after) excludes base o).1 = (files t (before ++ after) excludes base o).1 := by
  have hnone : Glob.patternBelow? b (trimHereText pattern) = none := by
    rw [← Glob.isSome_patternBelow? (isAbsolute_of_canonical hb)] at h
    simpa using h
  have hmatching : (matching t b pattern).1 = [] := by rw [matching_fst, hnone]
  rw [files_eq hb, files_eq hb]
  simp [hmatching]

theorem files_unusable_exclude (hb : t.canonical base = .ok b) {text : String}
    (h : Glob.Pattern.ofText? (trimHereText text) = none) {before after : List String}
    (htexts : excludeTexts excludes o = before ++ text :: after)
    (htexts' : excludeTexts excludes' o' = before ++ after)
    (hrespect : o.respectIgnoreFile = o'.respectIgnoreFile) (patterns : List String) :
    (files t patterns excludes base o).1 = (files t patterns excludes' base o').1 := by
  have hsame : (excludePatterns (before ++ text :: after)).1 = (excludePatterns (before ++ after)).1 := by
    simp [excludePatterns_fst, h]
  rw [files_eq hb, files_eq hb, htexts, htexts', hsame, hrespect]

end

/-- The files below a base directory are in order of paths, and a path is among them if and only if some spelling of
it is found. A pattern reaches files only if it can be used, by itself. So more patterns give the files of each, only
the sets of patterns and exclusions matter, an exclusion more can only take files away, and a text that cannot be used
is as if it were not there. -/
theorem files_comprehension {t : FileTree} {base b : FilePath} (hb : t.canonical base = .ok b) :
    (∀ patterns excludes o, Ascending (files t patterns excludes base o).1 ∧
      ∀ p, Lists (files t patterns excludes base o).1 p ↔ ∃ q, q.same p ∧ IsFound t b patterns excludes o q) ∧
    (∀ pattern, (Glob.patternBelow? b pattern).isSome ↔ Glob.IsUsable pattern) ∧
    (∀ patterns patterns' excludes o p, Lists (files t (patterns ++ patterns') excludes base o).1 p ↔
      Lists (files t patterns excludes base o).1 p ∨ Lists (files t patterns' excludes base o).1 p) ∧
    (∀ patterns patterns' excludes excludes' o o', (∀ s, s ∈ patterns ↔ s ∈ patterns') →
      (∀ s, s ∈ excludes ↔ s ∈ excludes') → (∀ s, s ∈ o.extraExcludes ↔ s ∈ o'.extraExcludes) →
      o.respectIgnoreFile = o'.respectIgnoreFile →
      List.Forall₂ (fun p q => p.same q) (files t patterns excludes base o).1
        (files t patterns' excludes' base o').1) ∧
    (∀ patterns excludes excludes' o o', excludes ⊆ excludes' → o.extraExcludes ⊆ o'.extraExcludes →
      o.respectIgnoreFile = o'.respectIgnoreFile →
      ∀ p, Lists (files t patterns excludes' base o').1 p → Lists (files t patterns excludes base o).1 p) ∧
    (∀ pattern, ¬ Glob.IsUsable (trimHereText pattern) → ∀ before after excludes o,
      (files t (before ++ pattern :: after) excludes base o).1 = (files t (before ++ after) excludes base o).1) ∧
    (∀ text, Glob.Pattern.ofText? (trimHereText text) = none → ∀ patterns before after others respect,
      (files t patterns (before ++ text :: after) base ⟨others, respect⟩).1 =
        (files t patterns (before ++ after) base ⟨others, respect⟩).1 ∧
      (files t patterns others base ⟨before ++ text :: after, respect⟩).1 =
        (files t patterns others base ⟨before ++ after, respect⟩).1) := by
  have hmono : ∀ {excludes excludes' : List String} {o o' : Options}, excludes ⊆ excludes' →
      o.extraExcludes ⊆ o'.extraExcludes → excludeTexts excludes o ⊆ excludeTexts excludes' o' := by
    intro excludes excludes' o o' h h' s hs
    simp only [excludeTexts, List.mem_append] at hs ⊢
    rcases hs with (hs | hs) | hs
    · exact .inl (.inl hs)
    · exact .inl (.inr (h hs))
    · exact .inr (h' hs)
  refine ⟨fun patterns excludes o => ⟨ascending_files t patterns excludes base o, fun p => lists_files hb⟩,
    fun pattern => Glob.isSome_patternBelow? (isAbsolute_of_canonical hb),
    fun patterns patterns' excludes o p => lists_files_append hb, ?_, ?_, ?_, ?_⟩
  · intro patterns patterns' excludes excludes' o o' hpatterns hexcludes hextra hrespect
    refine forall₂_same (ascending_files _ _ _ _ _) (ascending_files _ _ _ _ _) fun p => ⟨?_, ?_⟩
    · exact lists_files_mono hb (fun s => (hpatterns s).mp)
        (hmono (fun s => (hexcludes s).mpr) (fun s => (hextra s).mpr)) (hrespect ▸ id)
    · exact lists_files_mono hb (fun s => (hpatterns s).mpr)
        (hmono (fun s => (hexcludes s).mp) (fun s => (hextra s).mp)) (hrespect ▸ id)
  · intro patterns excludes excludes' o o' hexcludes hextra hrespect p
    exact lists_files_mono hb (List.Subset.refl _) (hmono hexcludes hextra) (hrespect ▸ id)
  · exact fun pattern h before after excludes o => files_unusable hb h before after excludes o
  · intro text h patterns before after others respect
    constructor
    · have htexts : excludeTexts (before ++ text :: after) ⟨others, respect⟩ =
          (defaultExcludes ++ before) ++ text :: (after ++ others) := by simp [excludeTexts]
      have htexts' : excludeTexts (before ++ after) ⟨others, respect⟩ =
          (defaultExcludes ++ before) ++ (after ++ others) := by simp [excludeTexts]
      exact files_unusable_exclude hb h htexts htexts' rfl patterns
    · have htexts : excludeTexts others ⟨before ++ text :: after, respect⟩ =
          (defaultExcludes ++ others ++ before) ++ text :: after := by simp [excludeTexts]
      have htexts' : excludeTexts others ⟨before ++ after, respect⟩ =
          (defaultExcludes ++ others ++ before) ++ after := by simp [excludeTexts]
      exact files_unusable_exclude hb h htexts htexts' rfl patterns

def linked : FileTree := ⟨.dir [("a", .file (.text "")), ("here", .link ⟨"/"⟩)], []⟩

theorem files_comprehension_linked : linked.canonical ⟨"here"⟩ = .ok ⟨"/"⟩ ∧
    (files linked ["./a*", "["] ["["] ⟨"here"⟩ {}).1 = [⟨"/a"⟩] ∧
    ∃ q : FilePath, q.same ⟨"/a"⟩ ∧ IsFound linked ⟨"/"⟩ ["./a*", "["] ["["] {} q := by
  have hb : linked.canonical ⟨"here"⟩ = .ok ⟨"/"⟩ := by cbv
  have hfiles : (files linked ["./a*", "["] ["["] ⟨"here"⟩ {}).1 = [⟨"/a"⟩] := by
    have hfound : ["./a*", "["].flatMap (fun pattern => (matching linked ⟨"/"⟩ pattern).1) = [⟨"/a"⟩] := by cbv
    have hkeeps : ∀ p ∈ [(⟨"/a"⟩ : FilePath)],
        keeps ⟨"/"⟩ (excludePatterns (excludeTexts ["["] {})).1 [] p := by decide +kernel
    rw [files_of_keeps hb rfl hfound hkeeps]
    rfl
  have hlists : Lists (files linked ["./a*", "["] ["["] ⟨"here"⟩ {}).1 ⟨"/a"⟩ := by
    rw [hfiles]
    exact ⟨_, List.mem_singleton_self _, FilePath.same_iff.mpr rfl⟩
  obtain ⟨hcomprehension, -⟩ := files_comprehension hb
  exact ⟨hb, hfiles, ((hcomprehension _ _ _).2 _).mp hlists⟩

end RuleLint.Discovery
