import RuleLint.Discovery
import RuleLint.Proofs.Glob.Expansion

/-!
# Paths below the base directory

A path without `.` and `..` is seen from the base directory as it is resolved (`IsPlain.relativeTo_eq`). Of any
other path the names that are left when it is resolved are parts of it as it is spelled, in the same order
(`sublist_of_resolvedBelow?`).
-/

namespace RuleLint

/-! ## The base directory -/

namespace FileTree

section
variable {t : FileTree} {p base : FilePath} {names : List String}

theorem exists_names_of_canonical (hwell : t.root.WellNamed) (h : t.canonical p = .ok base) :
    ∃ names, base = pathOf names ∧ ∀ name ∈ names, IsName name := by
  obtain ⟨names, hnames, hbase⟩ := bind_eq_ok.mp h
  obtain ⟨n, hn, -⟩ := isAt_of_locate (canonicalNames_eq_ok.mp hnames)
  exact ⟨names, (Except.ok.inj hbase).symm, Node.isName_of_at? hwell hn⟩

theorem toList_pathOf (names : List String) :
    (pathOf names).text.toList = '/' :: ['/'].intercalate (names.map String.toList) := by
  simp [pathOf, String.toList_intercalate]

theorem splitOn_pathOf (hnames : ∀ name ∈ names, IsName name) (hne : names ≠ []) :
    FilePath.splitOn '/' (['/'].intercalate (names.map String.toList)) = names.map String.toList := by
  refine FilePath.splitOn_intercalate (by simpa using hne) ?_
  intro part hpart
  obtain ⟨name, hname, rfl⟩ := List.mem_map.mp hpart
  exact (hnames name hname).separator

theorem getLast?_names (hnames : ∀ name ∈ names, IsName name) : (names.map String.toList).getLast? ≠ some [] := by
  intro hlast
  obtain ⟨name, hname, hnil⟩ := List.mem_map.mp (List.mem_of_getLast? hlast)
  exact (hnames name hname).toList_ne.1 hnil

theorem partsOf_pathOf (hnames : ∀ name ∈ names, IsName name) :
    Glob.partsOf (pathOf names).text.toList = [] :: names.map String.toList := by
  rw [toList_pathOf]
  by_cases hne : names = []
  · subst hne
    rfl
  · have hparts : Glob.partsOf (['/'].intercalate (names.map String.toList)) = names.map String.toList := by
      rw [Glob.partsOf, splitOn_pathOf hnames hne, if_neg (getLast?_names hnames)]
    have happend := Glob.partsOf_append [] (['/'].intercalate (names.map String.toList))
    rw [hparts] at happend
    exact happend

theorem partsBelow_pathOf (hnames : ∀ name ∈ names, IsName name) :
    Glob.partsBelow (pathOf names) = names.map String.toList := by
  rw [Glob.partsBelow, toList_pathOf]
  by_cases hne : names = []
  · subst hne
    rfl
  · have hself : ('/' :: ['/'].intercalate (names.map String.toList)).rdropWhile (· = '/') =
        '/' :: ['/'].intercalate (names.map String.toList) := by
      rw [List.rdropWhile_eq_self_iff]
      intro hcons hend
      obtain ⟨front, hfront⟩ := List.getLast?_eq_some_iff.mp
        ((List.getLast?_eq_some_getLast hcons).trans (congrArg some (of_decide_eq_true hend)))
      have hparts := FilePath.splitOn_append '/' [] (['/'].intercalate (names.map String.toList))
      rw [List.nil_append, hfront, FilePath.splitOn_append, splitOn_pathOf hnames hne] at hparts
      have hlast := congrArg List.getLast? hparts
      rw [List.getLast?_append_of_ne_nil _ (by simp [FilePath.splitOn]),
        List.getLast?_append_of_ne_nil _ (by simpa using hne)] at hlast
      exact getLast?_names hnames hlast.symm
    rw [hself]
    exact splitOn_pathOf hnames hne

theorem isAbsolute_pathOf (names : List String) : (pathOf names).isAbsolute := by
  simp [FilePath.isAbsolute, toList_pathOf]

end

end FileTree

namespace Discovery

/-! ## Paths as seen from the base directory -/

section
variable {parts : List (List Char)}

theorem filterMap_skipNames (n : Nat) (parts : List (List Char)) :
    (relativeTo.skipNames n parts).filterMap FilePath.componentOf =
      (parts.filterMap FilePath.componentOf).drop n := by
  fun_induction relativeTo.skipNames n parts with
  | case1 parts => rfl
  | case2 n hn => simp
  | case3 n part parts hpart ih =>
    obtain ⟨c, hc⟩ := Option.isSome_iff_exists.mp hpart
    rw [ih, List.filterMap_cons, hc, List.drop_succ_cons]
  | case4 n part parts hpart ih =>
    rw [ih, List.filterMap_cons, Option.not_isSome_iff_eq_none.mp hpart]

theorem skipNames_append (h : ∀ part ∈ parts, (FilePath.componentOf part).isSome) {n : Nat} (hn : n ≤ parts.length)
    (tail : List (List Char)) : relativeTo.skipNames n (parts ++ tail) = parts.drop n ++ tail := by
  induction parts generalizing n with
  | nil =>
    obtain rfl := Nat.le_zero.mp hn
    rw [relativeTo.skipNames]
    rfl
  | cons part parts ih =>
    obtain ⟨hpart, hparts⟩ := List.forall_mem_cons.mp h
    cases n with
    | zero => rw [relativeTo.skipNames, List.drop_zero]
    | succ n => rw [List.cons_append, relativeTo.skipNames, if_pos hpart, ih hparts (Nat.le_of_succ_le_succ hn),
        List.drop_succ_cons]

theorem skipNames_suffix (n : Nat) (parts : List (List Char)) : relativeTo.skipNames n parts <:+ parts := by
  fun_induction relativeTo.skipNames n parts with
  | case1 parts => exact List.suffix_refl parts
  | case2 n hn => exact List.suffix_refl []
  | case3 n part parts hpart ih => exact ih.trans (List.suffix_cons part parts)
  | case4 n part parts hpart ih => exact ih.trans (List.suffix_cons part parts)

/-- A part that does not count at either end of a path. -/
def isBlank (part : List Char) : Bool := part = [] || part = ['.']

theorem trimParts_eq (parts : List (List Char)) :
    trimParts parts = ((parts.dropWhile isBlank).reverse.dropWhile isBlank).reverse := rfl

theorem trimParts_sublist (parts : List (List Char)) : (trimParts parts).Sublist parts := by
  have hend := (List.dropWhile_suffix (l := (parts.dropWhile isBlank).reverse) isBlank).sublist.reverse
  rw [List.reverse_reverse] at hend
  exact hend.trans (List.dropWhile_suffix isBlank).sublist

theorem filter_dropWhile_not {α : Type} (p : α → Bool) (l : List α) :
    (l.dropWhile p).filter (!p ·) = l.filter (!p ·) := by
  induction l with
  | nil => rfl
  | cons a l ih =>
    rw [List.dropWhile_cons]
    split
    · rename_i ha
      rw [ih, List.filter_cons_of_neg (by simpa using ha)]
    · rfl

/-- Parts that count stay, in their order. -/
theorem sublist_trimParts {counted : List (List Char)} (hcounted : ∀ part ∈ counted, isBlank part = false)
    (h : counted.Sublist parts) : counted.Sublist (trimParts parts) := by
  have hfilter : (trimParts parts).filter (!isBlank ·) = parts.filter (!isBlank ·) := by
    rw [trimParts_eq, List.filter_reverse, filter_dropWhile_not, List.filter_reverse, List.reverse_reverse,
      filter_dropWhile_not]
  have hself : counted.filter (!isBlank ·) = counted := List.filter_eq_self.mpr (by simpa using hcounted)
  have hkept := h.filter (!isBlank ·)
  rw [hself, ← hfilter] at hkept
  exact hkept.trans List.filter_sublist

theorem dropWhile_isBlank (h : ∀ part ∈ parts, isBlank part = false) : parts.dropWhile isBlank = parts := by
  cases parts with
  | nil => rfl
  | cons part parts => rw [List.dropWhile_cons, if_neg (by simpa using h part List.mem_cons_self)]

theorem trimParts_append (h : ∀ part ∈ parts, isBlank part = false) {tail : List (List Char)}
    (htail : ∀ part ∈ tail, isBlank part) : trimParts (parts ++ tail) = parts := by
  rw [trimParts_eq]
  cases parts with
  | nil =>
    rw [List.nil_append, List.dropWhile_eq_nil_iff.mpr htail]
    rfl
  | cons part parts =>
    have hreverse : ∀ part ∈ tail.reverse, isBlank part := fun part hpart => htail part (List.mem_reverse.mp hpart)
    rw [List.cons_append, List.dropWhile_cons, if_neg (by simpa using h part List.mem_cons_self), ← List.cons_append,
      List.reverse_append, List.dropWhile_append_of_pos hreverse,
      dropWhile_isBlank (fun part hpart => h part (List.mem_reverse.mp hpart)), List.reverse_reverse]

end

/-! ## Paths without detours -/

theorem componentOf_eq_name {part : List Char} (hnil : part ≠ []) (hhere : part ≠ ['.'])
    (hparent : part ≠ ['.', '.']) : FilePath.componentOf part = some (.name part) := by
  unfold FilePath.componentOf
  split
  · exact absurd rfl hnil
  · exact absurd rfl hhere
  · exact absurd rfl hparent
  · rfl

/-- A path that is written without `.` and `..`. -/
structure IsPlain (p : FilePath) (parts : List (List Char)) : Prop where
  parts_eq : Glob.partsOf p.text.toList = [] :: parts
  nonempty : ∀ part ∈ parts, part ≠ []
  here : ['.'] ∉ parts
  parent : ['.', '.'] ∉ parts

section
variable {p : FilePath} {parts : List (List Char)} {names : List String}

theorem IsPlain.componentOf (h : IsPlain p parts) {part : List Char} (hpart : part ∈ parts) :
    FilePath.componentOf part = some (.name part) := by
  refine componentOf_eq_name (h.nonempty part hpart) ?_ ?_
  · rintro rfl
    exact h.here hpart
  · rintro rfl
    exact h.parent hpart

theorem IsPlain.components (h : IsPlain p parts) : p.components = .root :: parts.map .name := by
  rw [Glob.components_of_partsOf h.parts_eq, List.filterMap_congr fun part hpart => h.componentOf hpart,
    List.filterMap_eq_map']

theorem IsPlain.resolved (h : IsPlain p parts) : p.resolved = parts := by
  rw [FilePath.resolved_of_not_mem (by simp [h.components]), h.components, FilePath.filterMap_root_names]

theorem isPlain_pathOf (hnames : ∀ name ∈ names, IsName name) :
    IsPlain (FileTree.pathOf names) (names.map String.toList) := by
  have hne : ∀ part ∈ names.map String.toList, part ≠ [] ∧ part ≠ ['.'] ∧ part ≠ ['.', '.'] := by
    intro part hpart
    obtain ⟨name, hname, rfl⟩ := List.mem_map.mp hpart
    exact (hnames name hname).toList_ne
  exact ⟨FileTree.partsOf_pathOf hnames, fun part hpart => (hne part hpart).1, fun h => (hne _ h).2.1 rfl,
    fun h => (hne _ h).2.2 rfl⟩

theorem splitOn_eq_partsOf_append (cs : List Char) :
    ∃ tail, FilePath.splitOn '/' cs = Glob.partsOf cs ++ tail ∧ ∀ part ∈ tail, part = [] := by
  unfold Glob.partsOf
  dsimp only
  split
  · rename_i hlast
    obtain ⟨front, hfront⟩ := List.getLast?_eq_some_iff.mp hlast
    exact ⟨[[]], by simp [hfront], by simp⟩
  · exact ⟨[], by simp, nofun⟩

/-- A path without `.` and `..` is seen from the base directory as it is resolved. -/
theorem IsPlain.relativeTo_eq (h : IsPlain p parts) (hnames : ∀ name ∈ names, IsName name)
    (hbelow : (FileTree.pathOf names).components <+: p.components) :
    relativeTo (FileTree.pathOf names) p = (FileTree.pathOf names).resolvedBelow? p := by
  have hbase := isPlain_pathOf hnames
  have hprefix : names.map String.toList <+: parts := by
    have hnamed := hbelow.filterMap Component.name?
    rwa [hbase.components, h.components, FilePath.filterMap_root_names, FilePath.filterMap_root_names] at hnamed
  have hlength : (FileTree.pathOf names).components.length - 1 = (names.map String.toList).length := by
    simp [hbase.components]
  obtain ⟨tail, hsplit, htail⟩ := splitOn_eq_partsOf_append p.text.toList
  have hcount : ∀ part ∈ parts, (FilePath.componentOf part).isSome := by
    intro part hpart
    rw [h.componentOf hpart]
    rfl
  have hblank : ∀ part ∈ parts.drop (names.map String.toList).length, isBlank part = false := by
    intro part hpart
    have hmem := List.mem_of_mem_drop hpart
    have hhere : part ≠ ['.'] := by
      rintro rfl
      exact h.here hmem
    simp [isBlank, h.nonempty part hmem, hhere]
  rw [relativeTo, if_pos (List.isPrefixOf_iff_prefix.mpr hbelow), FilePath.resolvedBelow?, hbase.resolved,
    h.resolved, if_pos hprefix, hlength, hsplit, h.parts_eq]
  dsimp only
  rw [List.cons_append, List.drop_succ_cons, List.drop_zero, skipNames_append hcount hprefix.length_le,
    trimParts_append hblank fun part hpart => by simp [isBlank, htail part hpart]]

end

/-! ## Paths with detours -/

theorem filterMap_names (parts : List (List Char)) :
    (parts.filterMap FilePath.componentOf).filterMap Component.name? =
      parts.filter fun part => !isBlank part && part ≠ ['.', '.'] := by
  induction parts with
  | nil => rfl
  | cons part parts ih =>
    rw [List.filter_cons, ← ih]
    by_cases hnil : part = []
    · subst hnil
      rfl
    by_cases hhere : part = ['.']
    · subst hhere
      rfl
    by_cases hparent : part = ['.', '.']
    · subst hparent
      rfl
    rw [List.filterMap_cons, componentOf_eq_name hnil hhere hparent, if_pos (by simp [isBlank, hnil, hhere, hparent])]
    rfl

section
variable {p : FilePath} {names : List String} {r r' : List Char}

def partsAfter (base path : FilePath) : List (List Char) :=
  relativeTo.skipNames (base.components.length - 1) ((FilePath.splitOn '/' path.text.toList).drop 1)

theorem relativeTo_eq_some {base path : FilePath} (h : relativeTo base path = some r) :
    base.components <+: path.components ∧ r = ['/'].intercalate (trimParts (partsAfter base path)) := by
  unfold relativeTo at h
  split at h
  · rename_i hprefix
    exact ⟨List.isPrefixOf_iff_prefix.mp hprefix, (Option.some.inj h).symm⟩
  · cases h

theorem not_mem_partsAfter {base path : FilePath} {part : List Char} (h : part ∈ partsAfter base path) :
    '/' ∉ part :=
  FilePath.not_mem_of_mem_splitOn (List.mem_of_mem_drop ((skipNames_suffix _ _).subset h))

theorem components_eq_append (habsolute : p.isAbsolute) {base : FilePath} (hbase : base.components ≠ [])
    (hbelow : base.components <+: p.components) :
    p.components = base.components ++ (partsAfter base p).filterMap FilePath.componentOf := by
  have hcomponents : p.components =
      .root :: ((FilePath.splitOn '/' p.text.toList).drop 1).filterMap FilePath.componentOf := by
    obtain ⟨cs, hcs⟩ := List.head?_eq_some_iff.mp (beq_iff_eq.mp habsolute)
    rw [FilePath.components_of_isAbsolute habsolute, hcs]
    rfl
  obtain ⟨rest, hrest⟩ := hbelow
  have hlength := Nat.succ_pred_eq_of_pos (List.length_pos_iff.mpr hbase)
  have hdrop : rest = p.components.drop base.components.length := by rw [← hrest, List.drop_left]
  rw [partsAfter, filterMap_skipNames, ← hrest, hdrop, hcomponents, ← hlength]
  rfl

/-- Names of a resolved path are parts of the path as it is spelled, in their order. -/
theorem sublist_of_resolvedBelow? (habsolute : p.isAbsolute) {base : FilePath} (hbase : base.components ≠ [])
    (hrelative : relativeTo base p = some r) (hresolved : base.resolvedBelow? p = some r') {a b : List Char}
    (h : [a, b].Sublist (FilePath.splitOn '/' r')) : [a, b].Sublist (FilePath.splitOn '/' r) := by
  obtain ⟨hbelow, rfl⟩ := relativeTo_eq_some hrelative
  obtain ⟨left, hleft, rfl⟩ := FilePath.resolvedBelow?_eq_some.mp hresolved
  have hnames : left.Sublist ((partsAfter base p).filter fun part => !isBlank part && part ≠ ['.', '.']) := by
    have hfold : ((partsAfter base p).filterMap FilePath.componentOf).foldl FilePath.resolveStep base.resolved =
        base.resolved ++ left := by
      rw [← hleft, FilePath.resolved, FilePath.resolved, ← List.foldl_append,
        ← components_eq_append habsolute hbase hbelow]
    rw [← filterMap_names]
    exact FilePath.sublist_of_foldl_resolveStep hfold
  have hsep : ∀ part ∈ left, '/' ∉ part := fun part hpart =>
    not_mem_partsAfter (List.mem_of_mem_filter (hnames.subset hpart))
  have hne : left ≠ [] := by
    rintro rfl
    have hlength := h.length_le
    simp [FilePath.splitOn] at hlength
  rw [FilePath.splitOn_intercalate hne hsep] at h
  have hblank : ∀ part ∈ [a, b], isBlank part = false := by
    intro part hpart
    have hkept := (List.mem_filter.mp (hnames.subset (h.subset hpart))).2
    simp only [Bool.and_eq_true] at hkept
    simpa using hkept.1
  have htrim := sublist_trimParts hblank ((h.trans hnames).trans List.filter_sublist)
  rw [FilePath.splitOn_intercalate]
  · exact htrim
  · rintro hnil
    rw [hnil] at htrim
    cases htrim
  · exact fun part hpart => not_mem_partsAfter ((trimParts_sublist _).subset hpart)

end

end Discovery

end RuleLint
