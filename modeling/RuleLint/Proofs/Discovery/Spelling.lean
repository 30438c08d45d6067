import RuleLint.Proofs.Discovery.AlwaysExcluded
import RuleLint.Proofs.FileTree.Below

/-!
# Spellings of files

A pattern may reach a file by a path with `.` or `..`, and such a path is compared and excluded as it is spelled and
not as it is resolved: a file may be found twice, or in spite of an exclusion (`found_by_detour`). Where no pattern
spells a `.` or `..` the spelling does not matter, and what is left out of every rule set is left out however it is
spelled (`files_resolved`).
-/

namespace RuleLint

namespace Discovery

def SpellsDots (text : String) : Prop :=
  ∃ part ∈ Glob.partsOf (trimHere text.toList), ∃ pattern, Glob.Pattern.ofText? (String.ofList part) = some pattern ∧
    (pattern.SpellsDots ['.'] ∨ pattern.SpellsDots ['.', '.'])

instance (text : String) : Decidable (SpellsDots text) :=
  decidable_of_iff ((Glob.partsOf (trimHere text.toList)).any fun part =>
      (Glob.Pattern.ofText? (String.ofList part)).any fun pattern => pattern.tokens.head? = some (.char '.') &&
        (pattern.matchesText ['.'] || pattern.matchesText ['.', '.'])) <| by
    simp [SpellsDots, Glob.Pattern.spellsDots_iff, Option.any_eq_true, and_or_left]

def HasDots (p : FilePath) : Prop :=
  ['.'] ∈ FilePath.splitOn '/' p.text.toList ∨ ['.', '.'] ∈ FilePath.splitOn '/' p.text.toList

/-- Paths that are resolved to different ones, none of which the texts exclude. -/
structure SpelledAlike (base : FilePath) (texts : List String) (found : List FilePath) : Prop where
  apart : found.Pairwise fun p q => p.resolved ≠ q.resolved
  kept : ∀ p ∈ found, ∀ relative, base.resolvedBelow? p = some relative → ¬ IsExcluded texts relative

/-! ## Parts of a path that is found -/

section
variable {t : FileTree} {names : List String} {base p q : FilePath} {patterns excludes : List String} {o : Options}

/-- Where a pattern for a component of the paths comes from: the base directory or a part of the text. -/
theorem of_mem_parts {text : String} {g : Glob.PathPattern} {pattern : Glob.Pattern}
    (hnames : ∀ name ∈ names, IsName name) (hg : Glob.patternBelow? (FileTree.pathOf names) text = some g)
    (h : pattern ∈ g.parts) : (∃ name ∈ names, pattern.tokens = name.toList.map Glob.Pattern.escapeToken) ∨
      ∃ part ∈ Glob.partsOf text.toList, Glob.Pattern.ofText? (String.ofList part) = some pattern := by
  obtain ⟨-, hparts, -⟩ := (Glob.patternBelow?_eq_some (FileTree.isAbsolute_pathOf names)).mp hg
  rw [FileTree.partsBelow_pathOf hnames] at hparts
  obtain ⟨part, hpart, hread⟩ := Glob.exists_of_mem_mapM (Glob.mapM_eq_some.mpr hparts) h
  rcases List.mem_append.mp hpart with hpart | hpart
  · obtain ⟨cs, hcs, rfl⟩ := List.mem_map.mp hpart
    obtain ⟨name, hname, rfl⟩ := List.mem_map.mp hcs
    rw [Glob.Pattern.ofText?_escape] at hread
    obtain rfl := Option.some.inj hread
    exact .inl ⟨name, hname, rfl⟩
  · exact .inr ⟨part, hpart, hread⟩

theorem slash_not_mem_tokens {text : String} {g : Glob.PathPattern} (hnames : ∀ name ∈ names, IsName name)
    (hg : Glob.patternBelow? (FileTree.pathOf names) text = some g) :
    ∀ pattern ∈ g.parts, .char '/' ∉ pattern.tokens := by
  intro pattern hpattern hslash
  rcases of_mem_parts hnames hg hpattern with ⟨name, hname, htokens⟩ | ⟨part, hpart, hread⟩
  · rw [htokens] at hslash
    obtain ⟨c, hc, htoken⟩ := List.mem_map.mp hslash
    unfold Glob.Pattern.escapeToken at htoken
    split at htoken
    · cases htoken
    · exact (hnames name hname).separator (Glob.Token.char.inj htoken ▸ hc)
  · have hmem := Glob.Pattern.char_mem_of_ofText? hread hslash
    rw [String.toList_ofList] at hmem
    exact FilePath.not_mem_of_mem_splitOn (Glob.partsOf_subset _ hpart) hmem

theorem exists_parts (hwell : t.root.WellNamed) (hnames : ∀ name ∈ names, IsName name)
    (h : IsFound t (FileTree.pathOf names) patterns excludes o p) :
    ∃ parts, Glob.partsOf p.text.toList = [] :: parts ∧ (∀ part ∈ parts, part ≠ []) ∧
      ∀ part ∈ parts, part = ['.'] ∨ part = ['.', '.'] → ∃ text ∈ patterns, SpellsDots text := by
  obtain ⟨text, htext, g, hg, hp⟩ := h.reached
  obtain ⟨parts, hparts, hall⟩ := Glob.isReached_of_mem_expand hwell (slash_not_mem_tokens hnames hg) hp
  refine ⟨parts, hparts, fun part hpart => (hall part hpart).nonempty, fun part hpart hdots => ?_⟩
  obtain ⟨pattern, hpattern, hspells⟩ := (hall part hpart).dots hdots
  rcases of_mem_parts hnames hg hpattern with ⟨name, hname, htokens⟩ | ⟨part', hpart', hread⟩
  · have hmatches := hspells.spelled
    rw [Glob.Pattern.matchesText, htokens, Glob.Pattern.matchesTokens_escape] at hmatches
    obtain ⟨-, hhere, hparent⟩ := (hnames name hname).toList_ne
    exact absurd hdots (by simp [hmatches, hhere, hparent])
  · rw [trimHereText, String.toList_ofList] at hpart'
    refine ⟨text, htext, part', hpart', pattern, hread, ?_⟩
    rcases hdots with rfl | rfl
    · exact .inl hspells
    · exact .inr hspells

theorem exists_isPlain (hwell : t.root.WellNamed) (hnames : ∀ name ∈ names, IsName name)
    (h : IsFound t (FileTree.pathOf names) patterns excludes o p) (hdots : ¬ HasDots p) :
    ∃ parts, IsPlain p parts := by
  obtain ⟨parts, hparts, hnonempty, -⟩ := exists_parts hwell hnames h
  have hsub : parts ⊆ FilePath.splitOn '/' p.text.toList := by
    intro part hpart
    exact Glob.partsOf_subset _ (hparts ▸ List.mem_cons_of_mem _ hpart)
  exact ⟨parts, hparts, hnonempty, fun hmem => hdots (.inl (hsub hmem)), fun hmem => hdots (.inr (hsub hmem))⟩

theorem not_hasDots (hwell : t.root.WellNamed) (hnames : ∀ name ∈ names, IsName name)
    (h : IsFound t (FileTree.pathOf names) patterns excludes o p) (hpatterns : ∀ text ∈ patterns, ¬ SpellsDots text) :
    ¬ HasDots p := by
  obtain ⟨parts, hparts, -, hspelled⟩ := exists_parts hwell hnames h
  obtain ⟨tail, hsplit, htail⟩ := splitOn_eq_partsOf_append p.text.toList
  have hnone : ∀ part ∈ FilePath.splitOn '/' p.text.toList, ¬ (part = ['.'] ∨ part = ['.', '.']) := by
    rw [hsplit, hparts, List.forall_mem_append, List.forall_mem_cons]
    refine ⟨⟨by simp, fun part hpart hdots => ?_⟩, fun part hpart => by simp [htail part hpart]⟩
    obtain ⟨text, htext, hspells⟩ := hspelled part hpart hdots
    exact hpatterns text htext hspells
  rintro (hmem | hmem)
  · exact hnone _ hmem (.inl rfl)
  · exact hnone _ hmem (.inr rfl)

theorem isAbsolute_of_isFound (hwell : t.root.WellNamed) (hnames : ∀ name ∈ names, IsName name)
    (h : IsFound t (FileTree.pathOf names) patterns excludes o p) : p.isAbsolute := by
  obtain ⟨parts, hparts, -⟩ := exists_parts hwell hnames h
  exact Glob.isAbsolute_of_partsOf hparts

end

/-! ## What is left out of every rule set -/

theorem exists_inside_of_mem_defaultExcludes : ∀ text ∈ defaultExcludes, ∃ name : List Char, '/' ∉ name ∧
    Glob.Pattern.ofText? (trimHereText text) = some ⟨Glob.Pattern.insideTokens name, true⟩ := by
  intro text htext
  rw [defaultExcludes_eq] at htext
  obtain ⟨name, hname, rfl⟩ := List.mem_map.mp htext
  exact ⟨name.toList, separator_not_mem_excludedNames name hname, ofText?_insideText hname⟩

section
variable {base p : FilePath} {relative resolved : List Char}

theorem isExcluded_default_of_resolved (habsolute : p.isAbsolute) (hbase : base.components ≠ [])
    (hrelative : relativeTo base p = some relative) (hresolved : base.resolvedBelow? p = some resolved)
    (h : IsExcluded defaultExcludes resolved) : IsExcluded defaultExcludes relative := by
  obtain ⟨text, htext, pattern, hread, hmatches⟩ := h
  obtain ⟨name, hsep, hinside⟩ := exists_inside_of_mem_defaultExcludes text htext
  obtain rfl := Option.some.inj (hread.symm.trans hinside)
  refine ⟨text, htext, _, hread, ?_⟩
  rw [Glob.Pattern.matchesText, Glob.Pattern.matchesTokens_inside hsep] at hmatches ⊢
  obtain ⟨next, hnext⟩ := hmatches
  exact ⟨next, sublist_of_resolvedBelow? habsolute hbase hrelative hresolved hnext⟩

end

/-! ## Spellings do not matter -/

section
variable {t : FileTree} {base b p q : FilePath} {patterns excludes : List String} {o : Options}

theorem eq_of_resolved_eq (hwell : t.root.WellNamed) (hb : t.canonical base = .ok b)
    (hp : p ∈ (files t patterns excludes base o).1) (hq : q ∈ (files t patterns excludes base o).1)
    (hparent : .parent ∉ p.components) (hparent' : .parent ∉ q.components) (h : p.resolved = q.resolved) : p = q := by
  obtain ⟨names, rfl, hnames⟩ := FileTree.exists_names_of_canonical hwell hb
  have habsolute := isAbsolute_of_isFound hwell hnames (isFound_of_mem_files hb hp)
  have habsolute' := isAbsolute_of_isFound hwell hnames (isFound_of_mem_files hb hq)
  refine eq_of_same (ascending_files _ _ _ _ _) hp hq (FilePath.same_iff.mpr ?_)
  rw [FilePath.components_eq_of_not_mem habsolute hparent, FilePath.components_eq_of_not_mem habsolute' hparent', h]

theorem not_isExcluded_of_not_hasDots (hwell : t.root.WellNamed) (hb : t.canonical base = .ok b)
    (hp : p ∈ (files t patterns excludes base o).1) (hdots : ¬ HasDots p) {relative : List Char}
    (hrelative : b.resolvedBelow? p = some relative) : ¬ IsExcluded (excludeTexts excludes o) relative := by
  have hfound := isFound_of_mem_files hb hp
  obtain ⟨names, rfl, hnames⟩ := FileTree.exists_names_of_canonical hwell hb
  obtain ⟨parts, hplain⟩ := exists_isPlain hwell hnames hfound hdots
  refine hfound.kept relative ?_
  rw [hplain.relativeTo_eq hnames hfound.below, hrelative]

theorem not_isExcluded_default (hwell : t.root.WellNamed) (hb : t.canonical base = .ok b)
    (hp : p ∈ (files t patterns excludes base o).1) {resolved : List Char}
    (hresolved : b.resolvedBelow? p = some resolved) : ¬ IsExcluded defaultExcludes resolved := by
  have hfound := isFound_of_mem_files hb hp
  obtain ⟨names, rfl, hnames⟩ := FileTree.exists_names_of_canonical hwell hb
  have hbase : (FileTree.pathOf names).components ≠ [] := by simp [(isPlain_pathOf hnames).components]
  obtain ⟨relative, hrelative⟩ : ∃ relative, relativeTo (FileTree.pathOf names) p = some relative :=
    ⟨_, if_pos (List.isPrefixOf_iff_prefix.mpr hfound.below)⟩
  intro hexcluded
  refine hfound.kept relative hrelative ?_
  refine (isExcluded_default_of_resolved ?_ hbase hrelative hresolved hexcluded).mono ?_
  · exact isAbsolute_of_isFound hwell hnames hfound
  · intro text htext
    simp [excludeTexts, htext]

theorem parent_not_mem (hwell : t.root.WellNamed) (hb : t.canonical base = .ok b)
    (hp : p ∈ (files t patterns excludes base o).1) (hdots : ¬ HasDots p) : .parent ∉ p.components := by
  obtain ⟨names, rfl, hnames⟩ := FileTree.exists_names_of_canonical hwell hb
  obtain ⟨parts, hplain⟩ := exists_isPlain hwell hnames (isFound_of_mem_files hb hp) hdots
  simp [hplain.components]

end

/-- Unless a pattern spells a `.` or `..`, paths that are found are resolved to different ones and none of these is
excluded. In any case one of two paths that are resolved to the same has a `..`, only a path with `.` or `..` is
resolved to one that is excluded, and what is left out of every rule set is left out however it is spelled. -/
theorem files_resolved {t : FileTree} (hwell : t.root.WellNamed) {base b : FilePath} (hb : t.canonical base = .ok b)
    (patterns excludes : List String) (o : Options) :
    ((∀ text ∈ patterns, ¬ SpellsDots text) →
      SpelledAlike b (excludeTexts excludes o) (files t patterns excludes base o).1) ∧
    (∀ p ∈ (files t patterns excludes base o).1, ∀ q ∈ (files t patterns excludes base o).1,
      p.resolved = q.resolved → p = q ∨ .parent ∈ p.components ∨ .parent ∈ q.components) ∧
    (∀ p ∈ (files t patterns excludes base o).1, ¬ HasDots p →
      ∀ relative, b.resolvedBelow? p = some relative → ¬ IsExcluded (excludeTexts excludes o) relative) ∧
    ∀ p ∈ (files t patterns excludes base o).1,
      ∀ relative, b.resolvedBelow? p = some relative → ¬ IsExcluded defaultExcludes relative := by
  refine ⟨fun hpatterns => ?_, fun p hp q hq h => ?_, fun p hp hdots relative hrelative => ?_,
    fun p hp relative hrelative => not_isExcluded_default hwell hb hp hrelative⟩
  · have hdots : ∀ p ∈ (files t patterns excludes base o).1, ¬ HasDots p := by
      intro p hp
      have hfound := isFound_of_mem_files hb hp
      obtain ⟨names, rfl, hnames⟩ := FileTree.exists_names_of_canonical hwell hb
      exact not_hasDots hwell hnames hfound hpatterns
    refine ⟨(ascending_files t patterns excludes base o).imp_of_mem ?_, fun p hp relative hrelative =>
      not_isExcluded_of_not_hasDots hwell hb hp (hdots p hp) hrelative⟩
    intro p q hp hq hlt hresolved
    obtain rfl := eq_of_resolved_eq hwell hb hp hq (parent_not_mem hwell hb hp (hdots p hp))
      (parent_not_mem hwell hb hq (hdots q hq)) hresolved
    have hsame := not_same_of_lt hlt
    rw [FilePath.same_iff.mpr rfl] at hsame
    cases hsame
  · by_cases hparent : .parent ∈ p.components
    · exact .inr (.inl hparent)
    by_cases hparent' : .parent ∈ q.components
    · exact .inr (.inr hparent')
    exact .inl (eq_of_resolved_eq hwell hb hp hq hparent hparent' h)
  · exact not_isExcluded_of_not_hasDots hwell hb hp hdots hrelative

/-! ## Detours -/

theorem linkFree_file (c : Content) : (Node.file c).LinkFree := by
  intro names target
  cases names <;> exact nofun

theorem linkFree_dir {entries : List (String × Node)} (h : ∀ e ∈ entries, e.2.LinkFree) :
    (Node.dir entries).LinkFree := by
  intro names target
  cases names with
  | nil => exact nofun
  | cons name names =>
    rw [Node.at?_cons]
    intro hlink
    obtain ⟨n, hn, hlink⟩ := Option.bind_eq_some_iff.mp hlink
    exact h _ (Node.mem_of_child? hn) names target hlink

def detours : FileTree := ⟨.dir [("a", .file (.text "")), ("d", .dir [])], []⟩

theorem wellNamed_detours : detours.root.WellNamed := by
  refine Node.wellNamed_dir (by decide) (by decide) ?_
  simp only [List.forall_mem_cons]
  exact ⟨Node.wellNamed_file _, Node.wellNamed_dir (by decide) (by decide) nofun, nofun⟩

theorem files_resolved_detours : detours.root.WellNamed ∧ detours.canonical ⟨"d/.."⟩ = .ok ⟨"/"⟩ ∧
    (∀ text ∈ ["**/*.js", "./a*"], ¬ SpellsDots text) ∧
    SpelledAlike ⟨"/"⟩ (excludeTexts ["d/*"] {}) (files detours ["**/*.js", "./a*"] ["d/*"] ⟨"d/.."⟩ {}).1 := by
  have hb : detours.canonical ⟨"d/.."⟩ = .ok ⟨"/"⟩ := by cbv
  have hpatterns : ∀ text ∈ ["**/*.js", "./a*"], ¬ SpellsDots text := by decide +kernel
  obtain ⟨halike, -⟩ := files_resolved wellNamed_detours hb ["**/*.js", "./a*"] ["d/*"] {}
  exact ⟨wellNamed_detours, hb, hpatterns, halike hpatterns⟩

theorem expand_detour : Glob.PathPattern.expand detours
    ⟨[⟨[.char 'd'], false⟩, ⟨[.char '.', .char '.'], false⟩, ⟨[.char 'a'], false⟩], false⟩ = [⟨"/d/../a"⟩] := by
  have hd : Glob.Pattern.literal? ⟨[.char 'd'], false⟩ = some "d" := by rfl
  have hparent : Glob.Pattern.literal? ⟨[.char '.', .char '.'], false⟩ = some ".." := by rfl
  have ha : Glob.Pattern.literal? ⟨[.char 'a'], false⟩ = some "a" := by rfl
  have hpath : (⟨"/"⟩ : FilePath).join ⟨"d"⟩ = ⟨"/d"⟩ := by decide
  have hpath' : (⟨"/d"⟩ : FilePath).join ⟨".."⟩ = ⟨"/d/.."⟩ := by decide
  have hpath'' : (⟨"/d/.."⟩ : FilePath).join ⟨"a"⟩ = ⟨"/d/../a"⟩ := by decide
  have htaken : detours.isTaken ⟨"/d"⟩ := by cbv
  have hdir : detours.isDir ⟨"/d"⟩ := by cbv
  have htaken' : detours.isTaken ⟨"/d/../a"⟩ := by cbv
  have hdepth : ∀ g, 3 ≤ Glob.searchDepth detours g := by
    intro g
    rw [Glob.searchDepth]
    omega
  obtain ⟨n, hn⟩ := Nat.exists_eq_add_of_le' (hdepth _)
  rw [Glob.PathPattern.expand, hn, Glob.below_literal hd]
  simp [Glob.continued, Glob.below_literal hparent, Glob.below_literal ha, Glob.PathPattern.admits, hpath, hpath',
    hpath'', htaken, htaken', hdir]

theorem matching_detour : (matching detours ⟨"/"⟩ "d/../a").1 = [⟨"/d/../a"⟩] := by
  have hg : Glob.patternBelow? ⟨"/"⟩ (trimHereText "d/../a") =
      some ⟨[⟨[.char 'd'], false⟩, ⟨[.char '.', .char '.'], false⟩, ⟨[.char 'a'], false⟩], false⟩ := by cbv
  have hfile : detours.isFile ⟨"/d/../a"⟩ := by cbv
  rw [matching_fst, hg]
  simp [expand_detour, hfile]

/-- A file that is found twice, and one that is found in spite of an exclusion, in a tree without links. -/
theorem found_by_detour : detours.root.LinkFree ∧
    (files detours ["a", "d/../a"] [] ⟨"/"⟩ {}).1 = [⟨"/a"⟩, ⟨"/d/../a"⟩] ∧
    ¬ SpelledAlike ⟨"/"⟩ (excludeTexts [] {}) [⟨"/a"⟩, ⟨"/d/../a"⟩] ∧
    (files detours ["d/../a"] ["a"] ⟨"/"⟩ {}).1 = [⟨"/d/../a"⟩] ∧
    ¬ SpelledAlike ⟨"/"⟩ (excludeTexts ["a"] {}) [⟨"/d/../a"⟩] := by
  have hlinkFree : detours.root.LinkFree := by
    refine linkFree_dir ?_
    simp only [List.forall_mem_cons]
    exact ⟨linkFree_file _, linkFree_dir nofun, nofun⟩
  have hb : detours.canonical ⟨"/"⟩ = .ok ⟨"/"⟩ := by cbv
  have hmatching : (matching detours ⟨"/"⟩ "a").1 = [⟨"/a"⟩] := by cbv
  have ha : relativeTo ⟨"/"⟩ ⟨"/a"⟩ = some ['a'] := by decide
  have hdetour : relativeTo ⟨"/"⟩ ⟨"/d/../a"⟩ = some "d/../a".toList := by decide
  have hnames : ∀ name ∈ excludedNames, name.toList ∉ (FilePath.splitOn '/' "d/../a".toList).dropLast := by decide
  have hkeeps : ∀ p ∈ [(⟨"/a"⟩ : FilePath), ⟨"/d/../a"⟩],
      keeps ⟨"/"⟩ (excludePatterns (excludeTexts [] {})).1 [] p := by
    refine List.forall_mem_cons.mpr ⟨keeps_of_not_excluded ha (by decide) rfl, ?_⟩
    exact List.forall_mem_singleton.mpr (keeps_of_not_excluded hdetour hnames rfl)
  have hkeeps' : ∀ p ∈ [(⟨"/d/../a"⟩ : FilePath)], keeps ⟨"/"⟩ (excludePatterns (excludeTexts ["a"] {})).1 [] p :=
    List.forall_mem_singleton.mpr (keeps_of_not_excluded hdetour hnames (by decide))
  refine ⟨hlinkFree, ?_, fun h => ?_, ?_, fun h => ?_⟩
  · have hfound : ["a", "d/../a"].flatMap (fun pattern => (matching detours ⟨"/"⟩ pattern).1) =
        [⟨"/a"⟩, ⟨"/d/../a"⟩] := by simp [hmatching, matching_detour]
    rw [files_of_keeps hb rfl hfound hkeeps]
    decide
  · have hresolved : (⟨"/a"⟩ : FilePath).resolved = (⟨"/d/../a"⟩ : FilePath).resolved := by decide
    exact List.rel_of_pairwise_cons h.apart (List.mem_singleton_self _) hresolved
  · have hfound : ["d/../a"].flatMap (fun pattern => (matching detours ⟨"/"⟩ pattern).1) = [⟨"/d/../a"⟩] := by
      simp [matching_detour]
    rw [files_of_keeps hb rfl hfound hkeeps']
    decide
  · have hrelative : (⟨"/"⟩ : FilePath).resolvedBelow? ⟨"/d/../a"⟩ = some ['a'] := by decide
    have hread : Glob.Pattern.ofText? (trimHereText "a") = some ⟨[.char 'a'], false⟩ := by rfl
    exact h.kept _ (List.mem_singleton_self _) _ hrelative ⟨"a", by simp [excludeTexts], _, hread, by decide⟩

end Discovery

end RuleLint
