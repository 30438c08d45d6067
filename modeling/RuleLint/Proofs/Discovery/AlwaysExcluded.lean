import RuleLint.Proofs.Discovery.Comprehension
import RuleLint.Proofs.Discovery.Relative
import RuleLint.Proofs.Glob.Inside

/-!
# Directories that are always left out

The exclusions of every rule set are of one form, `**/N/**`, so they leave out just what is inside a directory with one
of their names, at any depth. A path that is found has none of the names below the base directory, but for the name of
the file itself (`defaultExcludes_exact`).
-/

namespace RuleLint.Discovery

def excludedNames : List String :=
  ["node_modules", "bower_components", "vendor", ".venv", "venv", "dist", "build", "target", ".next", ".git", ".hg",
   ".svn", ".idea", ".vscode", "coverage", ".cache", "__pycache__", ".pytest_cache", "fixtures", "test-fixtures",
   ".flight"]

def insideText (name : String) : String := "**/" ++ name ++ "/**"

theorem defaultExcludes_eq : defaultExcludes = excludedNames.map insideText := by decide

/-! ## What the patterns match -/

section
variable {name : String} {relative : List Char} {parts : List (List Char)}

theorem ofText?_insideText (h : name ∈ excludedNames) :
    Glob.Pattern.ofText? (trimHereText (insideText name)) = some ⟨Glob.Pattern.insideTokens name.toList, true⟩ := by
  -- none of the names has a character that is special in a pattern
  have hplain : ∀ name ∈ excludedNames, name.toList.flatMap Glob.Pattern.escapeChar = name.toList := by decide
  have htext : trimHereText (insideText name) =
      String.ofList ('*' :: '*' :: '/' :: (name.toList.flatMap Glob.Pattern.escapeChar ++ ['/', '*', '*'])) := by
    rw [hplain name h, trimHereText, insideText, String.toList_append, String.toList_append]
    rfl
  rw [htext]
  exact Glob.Pattern.ofText?_inside name.toList

theorem separator_not_mem_excludedNames : ∀ name ∈ excludedNames, '/' ∉ name.toList := by decide

theorem exists_pair_sublist_iff {α : Type} {a : α} {l : List α} : (∃ b, [a, b].Sublist l) ↔ a ∈ l.dropLast := by
  constructor
  · rintro ⟨b, h⟩
    obtain ⟨front, rest, rfl, ha, hrest⟩ := List.cons_sublist_iff.mp h
    have hne : rest ≠ [] := List.ne_nil_of_mem (List.singleton_sublist.mp hrest)
    rw [List.dropLast_append_of_ne_nil hne]
    exact List.mem_append_left _ ha
  · intro h
    have hne : l ≠ [] := by
      rintro rfl
      cases h
    refine ⟨l.getLast hne, ?_⟩
    have happend := (List.singleton_sublist.mpr h).append_right [l.getLast hne]
    rwa [List.dropLast_concat_getLast hne] at happend

theorem isExcluded_default_iff : IsExcluded defaultExcludes relative ↔
    ∃ name ∈ excludedNames, name.toList ∈ (FilePath.splitOn '/' relative).dropLast := by
  have hmatches : ∀ name ∈ excludedNames, (∃ pattern,
      Glob.Pattern.ofText? (trimHereText (insideText name)) = some pattern ∧ pattern.matchesText relative) ↔
        name.toList ∈ (FilePath.splitOn '/' relative).dropLast := by
    intro name hname
    rw [← exists_pair_sublist_iff, ← Glob.Pattern.matchesTokens_inside (separator_not_mem_excludedNames name hname)]
    simp [ofText?_insideText hname, Glob.Pattern.matchesText]
  rw [IsExcluded, defaultExcludes_eq]
  simp only [List.mem_map, exists_exists_and_eq_and]
  exact exists_congr fun name => and_congr_right (hmatches name)

/-- A path is left in if none of the directories that lead to it has one of the names and no other exclusion
matches it. -/
theorem keeps_of_not_excluded {base p : FilePath} {excludes : List String} {o : Options}
    (hrelative : relativeTo base p = some relative)
    (hnames : ∀ name ∈ excludedNames, name.toList ∉ (FilePath.splitOn '/' relative).dropLast)
    (hothers : ((excludePatterns (excludes ++ o.extraExcludes)).1.any fun g => g.matchesText relative) = false) :
    keeps base (excludePatterns (excludeTexts excludes o)).1 [] p := by
  have hbelow : base.components <+: p.components := by
    rw [← List.isPrefixOf_iff_prefix]
    by_contra hprefix
    simp [relativeTo, hprefix] at hrelative
  rw [keeps_iff]
  refine ⟨hbelow, fun relative' h => ?_, rfl⟩
  obtain rfl := Option.some.inj (hrelative.symm.trans h)
  rintro ⟨text, htext, hmatches⟩
  rw [excludeTexts, List.append_assoc, List.mem_append] at htext
  rcases htext with htext | htext
  · obtain ⟨name, hname, hmem⟩ := isExcluded_default_iff.mp ⟨text, htext, hmatches⟩
    exact hnames name hname hmem
  · rw [any_excludePatterns.mpr ⟨text, htext, hmatches⟩] at hothers
    cases hothers

/-! ## Paths that are found -/

theorem exists_pair_of_filterMap {α β : Type} {f : α → Option β} {l : List α} {x y : β}
    (h : [x, y].Sublist (l.filterMap f)) : ∃ a b, [a, b].Sublist l ∧ f a = some x ∧ f b = some y := by
  obtain ⟨l', hl', heq⟩ := List.sublist_filterMap_iff.mp h
  obtain ⟨before, a, rest, rfl, -, ha, hrest⟩ := List.filterMap_eq_cons_iff.mp heq.symm
  obtain ⟨between, b, after, rfl, -, hb, -⟩ := List.filterMap_eq_cons_iff.mp hrest
  refine ⟨a, b, List.Sublist.trans ?_ hl', ha, hb⟩
  have hb : [b].Sublist (between ++ b :: after) := List.singleton_sublist.mpr (by simp)
  exact (hb.cons_cons a).trans (List.sublist_append_right _ _)

theorem eq_of_componentOf_eq_name {part s : List Char} (h : FilePath.componentOf part = some (.name s)) : part = s := by
  unfold FilePath.componentOf at h
  split at h <;> cases h
  rfl

theorem isBlank_of_componentOf {part : List Char} {c : Component} (h : FilePath.componentOf part = some c) :
    isBlank part = false := by
  refine Bool.eq_false_iff.mpr fun hblank => ?_
  have hcases : part = [] ∨ part = ['.'] := by simpa [isBlank] using hblank
  rcases hcases with rfl | rfl <;> cases h

/-- A name among the components of a path is a part of the path as it is spelled. -/
theorem mem_dropLast_of_components {base path : FilePath} {s : List Char}
    (hrelative : relativeTo base path = some relative)
    (h : .name s ∈ ((partsAfter base path).filterMap FilePath.componentOf).dropLast) :
    s ∈ (FilePath.splitOn '/' relative).dropLast := by
  obtain ⟨-, rfl⟩ := relativeTo_eq_some hrelative
  obtain ⟨c, hcomponents⟩ := exists_pair_sublist_iff.mpr h
  obtain ⟨a, b, hparts, ha, hb⟩ := exists_pair_of_filterMap hcomponents
  obtain rfl := eq_of_componentOf_eq_name ha
  have hcounted : ∀ part ∈ [a, b], isBlank part = false := by
    simp [isBlank_of_componentOf ha, isBlank_of_componentOf hb]
  have htrim := sublist_trimParts hcounted hparts
  rw [FilePath.splitOn_intercalate]
  · exact exists_pair_sublist_iff.mp ⟨b, htrim⟩
  · intro hnil
    rw [hnil] at htrim
    cases htrim
  · exact fun part hpart => not_mem_partsAfter ((trimParts_sublist _).subset hpart)

theorem isAbsolute_of_below {base path : FilePath} (hbase : base.isAbsolute)
    (hbelow : base.components <+: path.components) : path.isAbsolute := by
  have hroot : path.components.head? = some .root := by
    obtain ⟨rest, hrest⟩ := hbelow
    rw [← hrest, FilePath.components_of_isAbsolute hbase]
    rfl
  by_contra habsolute
  have hcounted : .root ∉ (FilePath.splitOn '/' path.text.toList).filterMap FilePath.componentOf := by
    intro hmem
    obtain ⟨s, hs⟩ := FilePath.eq_name_of_mem hmem nofun
    cases hs
  rw [FilePath.components, if_neg habsolute] at hroot
  split at hroot
  · cases hroot
  · exact hcounted (List.mem_of_head? hroot)

end

/-- Of the paths below a base directory the exclusions of every rule set leave out those with one of the names before
the last. So no path that is found goes through a directory with one of the names below its base directory. -/
theorem defaultExcludes_exact :
    (∀ parts : List (List Char), parts ≠ [] → (∀ part ∈ parts, '/' ∉ part) →
      (((excludePatterns defaultExcludes).1.any fun pattern => pattern.matchesText (['/'].intercalate parts)) ↔
        ∃ name ∈ excludedNames, name.toList ∈ parts.dropLast)) ∧
    ∀ (t : FileTree) (patterns excludes : List String) (base : FilePath) (o : Options),
      ∀ p ∈ (files t patterns excludes base o).1, ∃ b below, t.canonical base = .ok b ∧ t.isFile p ∧
        p.components = b.components ++ below ∧ ∀ name ∈ excludedNames, .name name.toList ∉ below.dropLast := by
  refine ⟨fun parts hne hsep => ?_, fun t patterns excludes base o p hp => ?_⟩
  · rw [any_excludePatterns, isExcluded_default_iff, FilePath.splitOn_intercalate hne hsep]
  · cases hb : t.canonical base with
    | error e =>
      rw [files, hb] at hp
      cases hp
    | ok b =>
      have hfound := isFound_of_mem_files hb hp
      have habsolute := isAbsolute_of_canonical hb
      have hcomponents : b.components ≠ [] := by simp [FilePath.components_of_isAbsolute habsolute]
      obtain ⟨relative, hrelative⟩ : ∃ relative, relativeTo b p = some relative :=
        ⟨_, if_pos (List.isPrefixOf_iff_prefix.mpr hfound.below)⟩
      refine ⟨b, _, rfl, hfound.file, components_eq_append (isAbsolute_of_below habsolute hfound.below) hcomponents
        hfound.below, fun name hname hmem => hfound.kept relative hrelative ?_⟩
      have hdefault : defaultExcludes ⊆ excludeTexts excludes o := by
        intro text htext
        simp [excludeTexts, htext]
      exact (isExcluded_default_iff.mpr ⟨name, hname, mem_dropLast_of_components hrelative hmem⟩).mono hdefault

def namedVendor : FileTree := ⟨.dir [("vendor", .file (.text ""))], []⟩

theorem files_namedVendor : (files namedVendor ["v*"] [] ⟨"/"⟩ {}).1 = [⟨"/vendor"⟩] := by
  have hb : namedVendor.canonical ⟨"/"⟩ = .ok ⟨"/"⟩ := by cbv
  have hfound : ["v*"].flatMap (fun pattern => (matching namedVendor ⟨"/"⟩ pattern).1) = [⟨"/vendor"⟩] := by cbv
  have hrelative : relativeTo ⟨"/"⟩ ⟨"/vendor"⟩ = some "vendor".toList := by decide
  have hkeeps : ∀ p ∈ [(⟨"/vendor"⟩ : FilePath)], keeps ⟨"/"⟩ (excludePatterns (excludeTexts [] {})).1 [] p :=
    List.forall_mem_singleton.mpr (keeps_of_not_excluded hrelative (by decide) rfl)
  rw [files_of_keeps hb rfl hfound hkeeps]
  rfl

theorem defaultExcludes_exact_vendor :
    (∀ part ∈ [['a'], "vendor".toList, ['b']], '/' ∉ part) ∧
    ((excludePatterns defaultExcludes).1.any fun pattern =>
      pattern.matchesText (['/'].intercalate [['a'], "vendor".toList, ['b']])) ∧
    ¬ ((excludePatterns defaultExcludes).1.any fun pattern =>
      pattern.matchesText (['/'].intercalate [['a'], "vendor".toList])) ∧
    ⟨"/vendor"⟩ ∈ (files namedVendor ["v*"] [] ⟨"/"⟩ {}).1 ∧
    ∃ b below, namedVendor.canonical ⟨"/"⟩ = .ok b ∧ namedVendor.isFile ⟨"/vendor"⟩ ∧
      (⟨"/vendor"⟩ : FilePath).components = b.components ++ below ∧
      ∀ name ∈ excludedNames, .name name.toList ∉ below.dropLast := by
  have hsep : ∀ part ∈ [['a'], "vendor".toList, ['b']], '/' ∉ part := by decide
  have hsep' : ∀ part ∈ [['a'], "vendor".toList], '/' ∉ part := by decide
  have hmem : ⟨"/vendor"⟩ ∈ (files namedVendor ["v*"] [] ⟨"/"⟩ {}).1 := by simp [files_namedVendor]
  obtain ⟨hexact, hfiles⟩ := defaultExcludes_exact
  refine ⟨hsep, (hexact _ (by simp) hsep).mpr (by decide), ?_, hmem, hfiles _ _ _ _ _ _ hmem⟩
  rw [hexact _ (by simp) hsep']
  decide

end RuleLint.Discovery
