import RuleLint.Proofs.Discovery.Spelling
import RuleLint.Proofs.Glob.Descent
import RuleLint.Proofs.Glob.Mirror

/-!
# The name of the base directory

Base directories with the same contents have the same files, whatever their paths are: the files are found, ordered
and left out as their paths go on from the base directory (`files_alike`). A pattern that spells a `..`, even
with other characters, leads out of the directory and to what is beside it (`found_beside_base`).
-/

namespace RuleLint

namespace Discovery

def SpellsParent (text : String) : Prop :=
  ∃ part ∈ Glob.partsOf (trimHere text.toList), ∃ pattern, Glob.Pattern.ofText? (String.ofList part) = some pattern ∧
    pattern.SpellsDots ['.', '.']

instance (text : String) : Decidable (SpellsParent text) :=
  decidable_of_iff ((Glob.partsOf (trimHere text.toList)).any fun part =>
      (Glob.Pattern.ofText? (String.ofList part)).any fun pattern => pattern.SpellsDots ['.', '.']) <| by
    simp [SpellsParent, Option.any_eq_true]

/-! ## Paths below a base directory -/

section
variable {names : List String} {q r : FilePath}

theorem text_join (hnames : ∀ name ∈ names, IsName name) (hq : q.isAbsolute = false) :
    ((FileTree.pathOf names).join q).text.toList =
      (if names = [] then [] else (FileTree.pathOf names).text.toList) ++ '/' :: q.text.toList := by
  rw [FilePath.join_of_relative hq]
  by_cases hne : names = []
  · subst hne
    have hlead : (FileTree.pathOf []).lead = "/" := rfl
    simp [hlead]
  · have hlead : (FileTree.pathOf names).lead = (FileTree.pathOf names).text ++ "/" :=
      if_neg (not_or.mpr ⟨by simp [FileTree.pathOf], FileTree.getLast?_pathOf hnames hne⟩)
    simp [hlead, hne]

theorem splitOn_join (hnames : ∀ name ∈ names, IsName name) (hq : q.isAbsolute = false) :
    FilePath.splitOn '/' ((FileTree.pathOf names).join q).text.toList =
      ([] :: names.map String.toList) ++ FilePath.splitOn '/' q.text.toList := by
  rw [text_join hnames hq, FilePath.splitOn_append]
  by_cases hne : names = []
  · subst hne
    rfl
  · rw [if_neg hne, FileTree.toList_pathOf, FilePath.splitOn, if_pos rfl, FileTree.splitOn_pathOf hnames hne]

theorem components_join (hnames : ∀ name ∈ names, IsName name) (hq : q.isAbsolute = false) :
    ((FileTree.pathOf names).join q).components = (FileTree.pathOf names).components ++
      (FilePath.splitOn '/' q.text.toList).filterMap FilePath.componentOf := by
  have hbase := isPlain_pathOf hnames
  have habsolute : ((FileTree.pathOf names).join q).isAbsolute := by
    rw [FilePath.isAbsolute, text_join hnames hq]
    by_cases hne : names = [] <;> simp [hne, FileTree.toList_pathOf]
  have hnamed : (names.map String.toList).filterMap FilePath.componentOf = (names.map String.toList).map .name := by
    rw [List.filterMap_congr fun part hpart => hbase.componentOf hpart, List.filterMap_eq_map']
  rw [FilePath.components_of_isAbsolute habsolute, splitOn_join hnames hq, List.filterMap_append, hbase.components,
    ← hnamed]
  rfl

/-- A path is seen from the base directory as it goes on from there. -/
theorem relativeTo_join (hnames : ∀ name ∈ names, IsName name) (hq : q.isAbsolute = false) :
    relativeTo (FileTree.pathOf names) ((FileTree.pathOf names).join q) =
      some (['/'].intercalate (trimParts (FilePath.splitOn '/' q.text.toList))) := by
  have hbase := isPlain_pathOf hnames
  have hlength : (FileTree.pathOf names).components.length - 1 = (names.map String.toList).length := by
    simp [hbase.components]
  have hcount : ∀ part ∈ names.map String.toList, (FilePath.componentOf part).isSome := by
    intro part hpart
    rw [hbase.componentOf hpart]
    rfl
  rw [relativeTo, if_pos (List.isPrefixOf_iff_prefix.mpr (components_join hnames hq ▸ List.prefix_append _ _)),
    splitOn_join hnames hq, hlength]
  dsimp only
  rw [List.cons_append, List.drop_succ_cons, List.drop_zero, skipNames_append hcount (Nat.le_refl _),
    List.drop_length, List.nil_append]

theorem ignorePath_join (hnames : ∀ name ∈ names, IsName name) (hq : q.isAbsolute = false) :
    ignorePath (FileTree.pathOf names) ((FileTree.pathOf names).join q) = q.text.toList := by
  unfold ignorePath
  dsimp only
  rw [text_join hnames hq]
  by_cases hne : names = []
  · subst hne
    have hbase : (FileTree.pathOf []).text.toList = ['/'] := rfl
    rw [if_pos rfl, hbase, List.nil_append, if_pos (by simp), List.length_singleton, List.drop_succ_cons,
      List.drop_zero]
    split
    · rename_i r hr
      rw [FilePath.isAbsolute, hr] at hq
      cases hq
    · rfl
  · rw [if_neg hne, if_pos (by simp), List.drop_left]
    rfl

theorem compareComponents_append (a b c : List Component) :
    FilePath.compareComponents (a ++ b) (a ++ c) = FilePath.compareComponents b c := by
  induction a with
  | nil => rfl
  | cons x a ih =>
    have hself : x.compare x = .eq := Std.ReflCmp.compare_self
    rw [List.cons_append, List.cons_append, FilePath.compareComponents, hself, ih]
    rfl

theorem compare_join (hnames : ∀ name ∈ names, IsName name) (hq : q.isAbsolute = false) (hr : r.isAbsolute = false) :
    ((FileTree.pathOf names).join q).compare ((FileTree.pathOf names).join r) =
      FilePath.compareComponents ((FilePath.splitOn '/' q.text.toList).filterMap FilePath.componentOf)
        ((FilePath.splitOn '/' r.text.toList).filterMap FilePath.componentOf) := by
  rw [FilePath.compare, components_join hnames hq, components_join hnames hr, compareComponents_append]

end

/-! ## Alike lists -/

/-- Paths that go on alike from two base directories. -/
def GoOnAlike (names₁ names₂ : List String) (p₁ p₂ : FilePath) : Prop :=
  ∃ q : FilePath, q.isAbsolute = false ∧ p₁ = (FileTree.pathOf names₁).join q ∧ p₂ = (FileTree.pathOf names₂).join q

theorem forall₂_filter {α β : Type} {R S : α → β → Prop} {p : α → Bool} {p' : β → Bool} {l : List α} {l' : List β}
    (h : List.Forall₂ R l l') (hp : ∀ a b, R a b → p a = p' b) (hS : ∀ a b, R a b → p a → S a b) :
    List.Forall₂ S (l.filter p) (l'.filter p') := by
  induction h with
  | nil => exact .nil
  | @cons a b l l' hab _ ih =>
    rw [List.filter_cons, List.filter_cons, ← hp a b hab]
    split
    · exact .cons (hS a b hab ‹_›) ih
    · exact ih

section
variable {names₁ names₂ : List String} {p₁ p₂ q₁ q₂ : FilePath} {l₁ l₂ : List FilePath}

theorem GoOnAlike.compare (hnames₁ : ∀ name ∈ names₁, IsName name) (hnames₂ : ∀ name ∈ names₂, IsName name)
    (hp : GoOnAlike names₁ names₂ p₁ p₂) (hq : GoOnAlike names₁ names₂ q₁ q₂) : p₁.compare q₁ = p₂.compare q₂ := by
  obtain ⟨p, hp, rfl, rfl⟩ := hp
  obtain ⟨q, hq, rfl, rfl⟩ := hq
  rw [compare_join hnames₁ hp hq, compare_join hnames₂ hp hq]

theorem forall₂_insertPath (hnames₁ : ∀ name ∈ names₁, IsName name) (hnames₂ : ∀ name ∈ names₂, IsName name)
    (hp : GoOnAlike names₁ names₂ p₁ p₂) (h : List.Forall₂ (GoOnAlike names₁ names₂) l₁ l₂) :
    List.Forall₂ (GoOnAlike names₁ names₂) (insertPath p₁ l₁) (insertPath p₂ l₂) := by
  induction h with
  | nil => exact .cons hp .nil
  | cons hq h ih =>
    rw [insertPath, insertPath, hp.compare hnames₁ hnames₂ hq]
    split
    · exact .cons hp (.cons hq h)
    · exact .cons hq h
    · exact .cons hq ih

theorem forall₂_sortPaths (hnames₁ : ∀ name ∈ names₁, IsName name) (hnames₂ : ∀ name ∈ names₂, IsName name)
    (h : List.Forall₂ (GoOnAlike names₁ names₂) l₁ l₂) :
    List.Forall₂ (GoOnAlike names₁ names₂) (sortPaths l₁) (sortPaths l₂) := by
  unfold sortPaths
  suffices ∀ acc₁ acc₂, List.Forall₂ (GoOnAlike names₁ names₂) acc₁ acc₂ →
      List.Forall₂ (GoOnAlike names₁ names₂) (l₁.foldl (fun acc p => insertPath p acc) acc₁)
        (l₂.foldl (fun acc p => insertPath p acc) acc₂) from this [] [] .nil
  induction h with
  | nil => exact fun acc₁ acc₂ hacc => hacc
  | cons hp _ ih => exact fun acc₁ acc₂ hacc => ih _ _ (forall₂_insertPath hnames₁ hnames₂ hp hacc)

theorem GoOnAlike.relativeTo (hnames₁ : ∀ name ∈ names₁, IsName name) (hnames₂ : ∀ name ∈ names₂, IsName name)
    (hp : GoOnAlike names₁ names₂ p₁ p₂) :
    relativeTo (FileTree.pathOf names₁) p₁ = relativeTo (FileTree.pathOf names₂) p₂ := by
  obtain ⟨q, hq, rfl, rfl⟩ := hp
  rw [relativeTo_join hnames₁ hq, relativeTo_join hnames₂ hq]

theorem GoOnAlike.keeps (hnames₁ : ∀ name ∈ names₁, IsName name) (hnames₂ : ∀ name ∈ names₂, IsName name)
    (hp : GoOnAlike names₁ names₂ p₁ p₂) (excludes : List Glob.Pattern) (lines : List Ignore.Line) :
    keeps (FileTree.pathOf names₁) excludes lines p₁ = keeps (FileTree.pathOf names₂) excludes lines p₂ := by
  have hrelative := hp.relativeTo hnames₁ hnames₂
  obtain ⟨q, hq, rfl, rfl⟩ := hp
  unfold Discovery.keeps
  rw [hrelative, ignorePath_join hnames₁ hq, ignorePath_join hnames₂ hq]

end

/-! ## Patterns below a base directory -/

theorem forall₂_names {names : List String} {parts : List (List Char)} {patterns : List Glob.Pattern} :
    List.Forall₂ (fun part p => Glob.Pattern.ofText? (String.ofList part) = some p)
        ((names.map String.toList).map (List.flatMap Glob.Pattern.escapeChar) ++ parts) patterns ↔
      ∃ rest, patterns = names.map Glob.Pattern.ofName ++ rest ∧
        List.Forall₂ (fun part p => Glob.Pattern.ofText? (String.ofList part) = some p) parts rest := by
  induction names generalizing patterns with
  | nil => simp
  | cons name names ih =>
    rw [List.map_cons, List.map_cons, List.cons_append, List.forall₂_cons_left_iff]
    constructor
    · rintro ⟨p, patterns, hp, h, rfl⟩
      obtain ⟨rest, rfl, hrest⟩ := ih.mp h
      rw [Glob.Pattern.ofText?_ofName] at hp
      obtain rfl := Option.some.inj hp
      exact ⟨rest, rfl, hrest⟩
    · rintro ⟨rest, rfl, hrest⟩
      exact ⟨_, _, Glob.Pattern.ofText?_ofName name, ih.mpr ⟨rest, rfl, hrest⟩, rfl⟩

/-- A pattern below a directory is the names of the directory and then what it is by itself. -/
theorem patternBelow?_pathOf {names : List String} (hnames : ∀ name ∈ names, IsName name) (s : String) :
    Glob.patternBelow? (FileTree.pathOf names) s =
      (Glob.patternBelow? (FileTree.pathOf []) s).map fun g => g.under names := by
  have hroot : ∀ name ∈ ([] : List String), IsName name := nofun
  refine Option.ext fun g => ?_
  rw [Option.map_eq_some_iff, Glob.patternBelow?_eq_some (FileTree.isAbsolute_pathOf names),
    FileTree.partsBelow_pathOf hnames, forall₂_names]
  simp only [Glob.patternBelow?_eq_some (FileTree.isAbsolute_pathOf []), FileTree.partsBelow_pathOf hroot]
  constructor
  · rintro ⟨hs, ⟨rest, hparts, hrest⟩, hdirOnly⟩
    refine ⟨⟨rest, g.dirOnly⟩, ⟨hs, hrest, hdirOnly⟩, ?_⟩
    rw [Glob.PathPattern.under, ← hparts]
  · rintro ⟨g', ⟨hs, hrest, hdirOnly⟩, rfl⟩
    exact ⟨hs, ⟨g'.parts, rfl, hrest⟩, hdirOnly⟩

section
variable {t₁ t₂ : FileTree} {names₁ names₂ : List String} {entries : List (String × Node)} {text : String}

theorem inward_of_not_spellsParent (h : ¬ SpellsParent text) {g : Glob.PathPattern}
    (hg : Glob.patternBelow? (FileTree.pathOf []) (trimHereText text) = some g) :
    ∀ pattern ∈ g.parts, pattern.Inward := by
  have hroot : ∀ name ∈ ([] : List String), IsName name := nofun
  intro pattern hpattern
  refine ⟨slash_not_mem_tokens hroot hg pattern hpattern, fun hspells => h ?_⟩
  rcases of_mem_parts hroot hg hpattern with ⟨name, hname, -⟩ | ⟨part, hpart, hread⟩
  · cases hname
  · rw [trimHereText, String.toList_ofList] at hpart
    exact ⟨part, hpart, pattern, hread, hspells⟩

/-- The files that a pattern matches below a directory are found by a search from the directory on. -/
theorem exists_matching_eq {t : FileTree} {names : List String} (hwell : t.root.WellNamed)
    (hdir : t.root.at? names = some (.dir entries)) {g : Glob.PathPattern}
    (hg : Glob.patternBelow? (FileTree.pathOf []) (trimHereText text) = some g) :
    ∃ n, 3 * (g.parts.length + (Node.dir entries).depth) + 1 ≤ n ∧
      (matching t (FileTree.pathOf names) text).1 =
        (Glob.below t (g.under names) n g.parts ⟨FileTree.pathOf names, true⟩).filter t.isFile := by
  obtain ⟨n, hn, hexpand⟩ := @Glob.exists_expand_under t g _ _ hwell hdir
  refine ⟨n, hn, ?_⟩
  rw [matching_fst, patternBelow?_pathOf (Node.isName_of_at? hwell hdir), hg]
  exact hexpand

/-- The files that a pattern matches below two directories with the same entries. -/
theorem forall₂_matching (hwell₁ : t₁.root.WellNamed) (hwell₂ : t₂.root.WellNamed)
    (hdir₁ : t₁.root.at? names₁ = some (.dir entries)) (hdir₂ : t₂.root.at? names₂ = some (.dir entries))
    (hfree : (Node.dir entries).LinkFree) (htext : ¬ SpellsParent text) :
    List.Forall₂ (GoOnAlike names₁ names₂) (matching t₁ (FileTree.pathOf names₁) text).1
      (matching t₂ (FileTree.pathOf names₂) text).1 := by
  cases hg : Glob.patternBelow? (FileTree.pathOf []) (trimHereText text) with
  | none =>
    rw [matching_fst, matching_fst, patternBelow?_pathOf (Node.isName_of_at? hwell₁ hdir₁),
      patternBelow?_pathOf (Node.isName_of_at? hwell₂ hdir₂), hg]
    exact .nil
  | some g =>
    let s₁ : Glob.Search := ⟨t₁, g.under names₁, FileTree.pathOf names₁⟩
    let s₂ : Glob.Search := ⟨t₂, g.under names₂, FileTree.pathOf names₂⟩
    have hnode₁ := FileTree.node_pathOf hwell₁ hdir₁
    have hmirrors : Glob.Mirrors s₁ s₂ (.dir entries) (FileTree.pathOf names₁) (FileTree.pathOf names₂) :=
      ⟨.inl ⟨rfl, rfl⟩, hnode₁, FileTree.node_pathOf hwell₂ hdir₂, hfree, hwell₁.at? hdir₁⟩
    obtain ⟨n₁, hn₁, hmatching₁⟩ := exists_matching_eq hwell₁ hdir₁ hg
    obtain ⟨n₂, hn₂, hmatching₂⟩ := exists_matching_eq hwell₂ hdir₂ hg
    obtain ⟨hbelow, -, -⟩ := @Glob.search_agrees s₁ s₂ rfl n₁ n₂
    have hfound := hbelow g.parts _ _ _ (inward_of_not_spellsParent htext hg) (Nat.le_min.mpr ⟨hn₁, hn₂⟩) hmirrors
    rw [hmatching₁, hmatching₂]
    refine forall₂_filter hfound ?_ ?_
    · rintro p₁ p₂ ⟨n, h⟩
      exact FileTree.isFile_of_node h.left h.right
    · rintro p₁ p₂ ⟨n, h⟩ hfile
      refine h.alike.resolve_left fun ⟨heq, _⟩ => ?_
      -- the directory itself is no file
      have hself : t₁.isFile (FileTree.pathOf names₁) = false := by simp [FileTree.isFile, hnode₁]
      rw [heq, hself] at hfile
      cases hfile

theorem ignoreLines_eq (hwell₁ : t₁.root.WellNamed) (hwell₂ : t₂.root.WellNamed)
    (hdir₁ : t₁.root.at? names₁ = some (.dir entries)) (hdir₂ : t₂.root.at? names₂ = some (.dir entries))
    (hfree : (Node.dir entries).LinkFree) :
    (ignoreLines t₁ (FileTree.pathOf names₁)).1 = (ignoreLines t₂ (FileTree.pathOf names₂)).1 := by
  have hcontent : t₁.content? ((FileTree.pathOf names₁).join ⟨".gitignore"⟩) =
      t₂.content? ((FileTree.pathOf names₂).join ⟨".gitignore"⟩) := by
    refine FileTree.content?_eq_of_toOption ?_
    have hlink := hfree.step?_ne_link ".gitignore"
    rw [FileTree.toOption_node_join (FileTree.node_pathOf hwell₁ hdir₁) (by decide) (by decide) hlink,
      FileTree.toOption_node_join (FileTree.node_pathOf hwell₂ hdir₂) (by decide) (by decide) hlink]
  unfold ignoreLines
  dsimp only
  rw [hcontent]
  cases t₂.content? ((FileTree.pathOf names₂).join ⟨".gitignore"⟩) with
  | none => rfl
  | some content => cases content <;> rfl

/-! ## Files -/

theorem forall₂_files (hwell₁ : t₁.root.WellNamed) (hwell₂ : t₂.root.WellNamed) {base₁ base₂ : FilePath}
    (hb₁ : t₁.canonical base₁ = .ok (FileTree.pathOf names₁)) (hb₂ : t₂.canonical base₂ = .ok (FileTree.pathOf names₂))
    (hdir₁ : t₁.root.at? names₁ = some (.dir entries)) (hdir₂ : t₂.root.at? names₂ = some (.dir entries))
    (hfree : (Node.dir entries).LinkFree) {patterns : List String} (hpatterns : ∀ text ∈ patterns, ¬ SpellsParent text)
    (excludes : List String) (o : Options) :
    List.Forall₂ (GoOnAlike names₁ names₂) (files t₁ patterns excludes base₁ o).1
      (files t₂ patterns excludes base₂ o).1 := by
  have hnames₁ := Node.isName_of_at? hwell₁ hdir₁
  have hnames₂ := Node.isName_of_at? hwell₂ hdir₂
  have hlines : (if o.respectIgnoreFile then ignoreLines t₁ (FileTree.pathOf names₁) else ([], [])).1 =
      (if o.respectIgnoreFile then ignoreLines t₂ (FileTree.pathOf names₂) else ([], [])).1 := by
    split
    · exact ignoreLines_eq hwell₁ hwell₂ hdir₁ hdir₂ hfree
    · rfl
  rw [files_eq hb₁, files_eq hb₂, hlines, List.flatMap_map, List.flatMap_map]
  refine forall₂_sortPaths hnames₁ hnames₂ (forall₂_filter (R := GoOnAlike names₁ names₂) ?_ ?_ ?_)
  · exact Glob.forall₂_flatMap fun text htext =>
      forall₂_matching hwell₁ hwell₂ hdir₁ hdir₂ hfree (hpatterns text htext)
  · exact fun p₁ p₂ h => h.keeps hnames₁ hnames₂ _ _
  · exact fun p₁ p₂ h _ => h

theorem exists_names_of_node {t : FileTree} {base b : FilePath} {n : Node} (hb : t.canonical base = .ok b)
    (hn : t.node base = .ok n) : ∃ names, b = FileTree.pathOf names ∧ t.root.at? names = some n := by
  obtain ⟨names, hnames, hat⟩ := FileTree.node_eq_ok.mp hn
  obtain ⟨names', hnames', hb⟩ := bind_eq_ok.mp hb
  obtain rfl := Except.ok.inj (hnames.symm.trans hnames')
  exact ⟨names, (Except.ok.inj hb).symm, hat⟩

theorem exists_map_join {l₁ l₂ : List FilePath} (hnames₁ : ∀ name ∈ names₁, IsName name)
    (hnames₂ : ∀ name ∈ names₂, IsName name) (h : List.Forall₂ (GoOnAlike names₁ names₂) l₁ l₂) :
    ∃ (found : List FilePath) (relatives : List (List Char)),
      l₁ = found.map (FileTree.pathOf names₁).join ∧ l₂ = found.map (FileTree.pathOf names₂).join ∧
      l₁.map (relativeTo (FileTree.pathOf names₁)) = relatives.map some ∧
      l₂.map (relativeTo (FileTree.pathOf names₂)) = relatives.map some := by
  induction h with
  | nil => exact ⟨[], [], rfl, rfl, rfl, rfl⟩
  | cons hp _ ih =>
    obtain ⟨q, hq, rfl, rfl⟩ := hp
    obtain ⟨found, relatives, rfl, rfl, hrelatives₁, hrelatives₂⟩ := ih
    refine ⟨q :: found, ['/'].intercalate (trimParts (FilePath.splitOn '/' q.text.toList)) :: relatives, rfl, rfl,
      ?_, ?_⟩
    · rw [List.map_cons, relativeTo_join hnames₁ hq, hrelatives₁, List.map_cons]
    · rw [List.map_cons, relativeTo_join hnames₂ hq, hrelatives₂, List.map_cons]

end

/-- Below two directories with the same entries and no links the same files are found, their paths go on alike from the
directories in the same order, and they are seen alike from them: what the paths of the directories are does not matter,
as long as no pattern spells a `..`. -/
theorem files_alike {t₁ t₂ : FileTree} (hwell₁ : t₁.root.WellNamed) (hwell₂ : t₂.root.WellNamed)
    {base₁ base₂ b₁ b₂ : FilePath} (hb₁ : t₁.canonical base₁ = .ok b₁) (hb₂ : t₂.canonical base₂ = .ok b₂)
    {entries : List (String × Node)} (hdir₁ : t₁.node base₁ = .ok (.dir entries))
    (hdir₂ : t₂.node base₂ = .ok (.dir entries)) (hfree : (Node.dir entries).LinkFree) {patterns : List String}
    (hpatterns : ∀ text ∈ patterns, ¬ SpellsParent text) (excludes : List String) (o : Options) :
    ∃ (found : List FilePath) (relatives : List (List Char)),
      (files t₁ patterns excludes base₁ o).1 = found.map b₁.join ∧
      (files t₂ patterns excludes base₂ o).1 = found.map b₂.join ∧
      (files t₁ patterns excludes base₁ o).1.map (relativeTo b₁) = relatives.map some ∧
      (files t₂ patterns excludes base₂ o).1.map (relativeTo b₂) = relatives.map some := by
  obtain ⟨names₁, rfl, hat₁⟩ := exists_names_of_node hb₁ hdir₁
  obtain ⟨names₂, rfl, hat₂⟩ := exists_names_of_node hb₂ hdir₂
  exact exists_map_join (Node.isName_of_at? hwell₁ hat₁) (Node.isName_of_at? hwell₂ hat₂)
    (forall₂_files hwell₁ hwell₂ hb₁ hb₂ hat₁ hat₂ hfree hpatterns excludes o)

/-! ## Two directories with one contents -/

def contents : List (String × Node) := [("a", .file (.text ""))]

/-- Two directories with the same contents, the names of which have special characters, and a file beside the first. -/
def twins : FileTree :=
  ⟨.dir [("*", .dir contents), ("[b]", .dir [("c", .dir contents)]), ("x", .file (.text ""))], []⟩

theorem wellNamed_twins : twins.root.WellNamed := by
  have hcontents : (Node.dir contents).WellNamed := by
    refine Node.wellNamed_dir (by decide) (by decide) ?_
    simp only [contents, List.forall_mem_cons]
    exact ⟨Node.wellNamed_file _, nofun⟩
  have houter : (Node.dir [("c", .dir contents)]).WellNamed := by
    refine Node.wellNamed_dir (by simp) (by decide) ?_
    simp only [List.forall_mem_cons]
    exact ⟨hcontents, nofun⟩
  refine Node.wellNamed_dir (by simp) (by decide) ?_
  simp only [List.forall_mem_cons]
  exact ⟨hcontents, houter, Node.wellNamed_file _, nofun⟩

theorem linkFree_contents : (Node.dir contents).LinkFree := by
  refine linkFree_dir ?_
  simp only [contents, List.forall_mem_cons]
  exact ⟨linkFree_file _, nofun⟩

theorem linkFree_twins : twins.root.LinkFree := by
  refine linkFree_dir ?_
  simp only [List.forall_mem_cons]
  refine ⟨linkFree_contents, linkFree_dir ?_, linkFree_file _, nofun⟩
  simp only [List.forall_mem_cons]
  exact ⟨linkFree_contents, nofun⟩

/-- Both paths lead to the contents. -/
theorem leads_twins : (twins.canonical ⟨"*"⟩ = .ok ⟨"/*"⟩ ∧ twins.node ⟨"*"⟩ = .ok (.dir contents)) ∧
    twins.canonical ⟨"[b]/c"⟩ = .ok ⟨"/[b]/c"⟩ ∧ twins.node ⟨"[b]/c"⟩ = .ok (.dir contents) :=
  ⟨⟨by cbv, by cbv⟩, by cbv, by cbv⟩

theorem fileName?_a {t : FileTree} {p : FilePath} {n : Node} (h : t.node p = .ok n) :
    (p.join ⟨"a"⟩).fileName? = some ['a'] :=
  FileTree.fileName?_join (by decide) (FileTree.text_ne_empty_of_node h)

theorem matching_a {names : List String} (hdir : twins.root.at? names = some (.dir contents)) :
    (matching twins (FileTree.pathOf names) "a").1 = [(FileTree.pathOf names).join ⟨"a"⟩] := by
  have hg : Glob.patternBelow? (FileTree.pathOf []) (trimHereText "a") = some ⟨[⟨[.char 'a'], false⟩], false⟩ := by cbv
  have ha : Glob.Pattern.literal? ⟨[.char 'a'], false⟩ = some "a" := by rfl
  have hnode := FileTree.node_pathOf wellNamed_twins hdir
  have hstep : (Node.dir contents).step? "a" = some (.file (.text "")) := by rfl
  have htaken := FileTree.isTaken_join hnode (by decide) (by decide) (linkFree_contents.step?_ne_link "a")
  have hfound := FileTree.node_join hnode (by decide) (by decide) (by simp) hstep
  have hfile : twins.isFile ((FileTree.pathOf names).join ⟨"a"⟩) := by simp [FileTree.isFile, hfound]
  obtain ⟨n, hn, hmatching⟩ := exists_matching_eq wellNamed_twins hdir hg
  obtain ⟨n, rfl⟩ : ∃ m, n = m + 1 := Nat.exists_eq_add_of_le' (by omega)
  rw [hmatching, Glob.below_literal ha]
  simp [Glob.continued, Glob.PathPattern.admits, Glob.PathPattern.under, htaken, hstep, hfile]

theorem matching_g {names : List String} (hdir : twins.root.at? names = some (.dir contents)) :
    (matching twins (FileTree.pathOf names) ".g*").1 = [] := by
  have hg : Glob.patternBelow? (FileTree.pathOf []) (trimHereText ".g*") =
      some ⟨[⟨[.char '.', .char 'g', .anySequence], false⟩], false⟩ := by cbv
  have hdots : Glob.Pattern.literal? ⟨[.char '.', .char 'g', .anySequence], false⟩ = none := by rfl
  have hhere : ¬ Glob.Pattern.SpellsDots ⟨[.char '.', .char 'g', .anySequence], false⟩ ['.'] := by decide
  have hup : ¬ Glob.Pattern.SpellsDots ⟨[.char '.', .char 'g', .anySequence], false⟩ ['.', '.'] := by decide
  have hother : Glob.Pattern.matchesText ⟨[.char '.', .char 'g', .anySequence], false⟩ ['a'] = false := by decide
  have hnode := FileTree.node_pathOf wellNamed_twins hdir
  have hname := fileName?_a hnode
  obtain ⟨n, hn, hmatching⟩ := exists_matching_eq wellNamed_twins hdir hg
  obtain ⟨n, rfl⟩ : ∃ m, n = m + 3 := by
    simp only [List.length_cons] at hn
    exact Nat.exists_eq_add_of_le' (by omega)
  rw [hmatching, Glob.below_entries hdots, FileTree.entries_of_node hnode]
  simp [Glob.dotted, hhere, hup, Glob.at_, Glob.named, contents, hname, hother]

theorem files_alike_twins : (∀ text ∈ ["a", ".g*"], ¬ SpellsParent text) ∧
    (files twins ["a", ".g*"] [] ⟨"*"⟩ {}).1 = [⟨"/*/a"⟩] ∧
    (files twins ["a", ".g*"] [] ⟨"[b]/c"⟩ {}).1.map (relativeTo ⟨"/[b]/c"⟩) = [some ['a']] := by
  obtain ⟨⟨hb₁, hn₁⟩, hb₂, hn₂⟩ := leads_twins
  have hpatterns : ∀ text ∈ ["a", ".g*"], ¬ SpellsParent text := by decide +kernel
  have hfiles : (files twins ["a", ".g*"] [] ⟨"*"⟩ {}).1 = [⟨"/*/a"⟩] := by
    have hfound : ["a", ".g*"].flatMap (fun pattern => (matching twins ⟨"/*"⟩ pattern).1) = [⟨"/*/a"⟩] := by
      have hpath : FileTree.pathOf ["*"] = ⟨"/*"⟩ := by decide
      have hjoin : (⟨"/*"⟩ : FilePath).join ⟨"a"⟩ = ⟨"/*/a"⟩ := by decide
      have ha := @matching_a ["*"] (by rfl)
      have hg := @matching_g ["*"] (by rfl)
      rw [hpath] at ha hg
      rw [hjoin] at ha
      simp [ha, hg]
    have hrelative : relativeTo ⟨"/*"⟩ ⟨"/*/a"⟩ = some ['a'] := by decide
    have hkeeps : ∀ p ∈ [(⟨"/*/a"⟩ : FilePath)], keeps ⟨"/*"⟩ (excludePatterns (excludeTexts [] {})).1 [] p :=
      List.forall_mem_singleton.mpr (keeps_of_not_excluded hrelative (by decide) rfl)
    rw [files_of_keeps hb₁ rfl hfound hkeeps]
    decide
  obtain ⟨found, relatives, -, -, hrelatives₁, hrelatives₂⟩ :=
    files_alike wellNamed_twins wellNamed_twins hb₁ hb₂ hn₁ hn₂ linkFree_contents hpatterns [] {}
  have hrelative : relativeTo ⟨"/*"⟩ ⟨"/*/a"⟩ = some ['a'] := by decide
  refine ⟨hpatterns, hfiles, ?_⟩
  rw [hrelatives₂, ← hrelatives₁, hfiles, List.map_singleton, hrelative]

/-- The `..` of the directory is among what the pattern `.*` spells, and so is a file beside the directory found. -/
theorem matching_beside {names : List String} (hdir : twins.root.at? names = some (.dir contents)) :
    (matching twins (FileTree.pathOf names) ".*/x").1 =
      [((FileTree.pathOf names).join ⟨".."⟩).join ⟨"x"⟩].filter fun p => twins.isTaken p && twins.isFile p := by
  have hg : Glob.patternBelow? (FileTree.pathOf []) (trimHereText ".*/x") =
      some ⟨[⟨[.char '.', .anySequence], false⟩, ⟨[.char 'x'], false⟩], false⟩ := by cbv
  have hdots : Glob.Pattern.literal? ⟨[.char '.', .anySequence], false⟩ = none := by rfl
  have hx : Glob.Pattern.literal? ⟨[.char 'x'], false⟩ = some "x" := by rfl
  have hnode := FileTree.node_pathOf wellNamed_twins hdir
  have hself : twins.node ((FileTree.pathOf names).join ⟨"."⟩) = .ok (.dir contents) :=
    FileTree.node_join hnode (by decide) (by decide) (Node.dir_ne_link _) Node.step?_here
  have hhere : twins.isTaken (((FileTree.pathOf names).join ⟨"."⟩).join ⟨"x"⟩) = false :=
    FileTree.isTaken_join hself (by decide) (by decide) (linkFree_contents.step?_ne_link _)
  have hname := fileName?_a hnode
  have hspells : Glob.Pattern.SpellsDots ⟨[.char '.', .anySequence], false⟩ ['.', '.'] := by decide
  have hother : Glob.Pattern.matchesText ⟨[.char '.', .anySequence], false⟩ ['a'] = false := by decide
  obtain ⟨n, hn, hmatching⟩ := exists_matching_eq wellNamed_twins hdir hg
  obtain ⟨n, rfl⟩ : ∃ m, n = m + 3 := by
    simp only [List.length_cons] at hn
    exact Nat.exists_eq_add_of_le' (by omega)
  rw [hmatching, Glob.below_entries hdots, FileTree.entries_of_node hnode]
  cases htaken : twins.isTaken (((FileTree.pathOf names).join ⟨".."⟩).join ⟨"x"⟩) <;>
    simp [Glob.dotted, Glob.continued, Glob.PathPattern.admits, Glob.PathPattern.under, Glob.below_literal hx,
      Glob.at_, Glob.named, contents, hhere, hname, hother, hspells, htaken, List.filter_cons]

/-- A pattern without the component `..` finds a file beside one of two directories with the same contents. -/
theorem found_beside_base : twins.root.LinkFree ∧
    (twins.canonical ⟨"*"⟩ = .ok ⟨"/*"⟩ ∧ twins.node ⟨"*"⟩ = .ok (.dir contents)) ∧
    (twins.canonical ⟨"[b]/c"⟩ = .ok ⟨"/[b]/c"⟩ ∧ twins.node ⟨"[b]/c"⟩ = .ok (.dir contents)) ∧
    ['.', '.'] ∉ FilePath.splitOn '/' ".*/x".toList ∧
    (files twins [".*/x"] [] ⟨"*"⟩ {}).1 = [⟨"/*/../x"⟩] ∧ (files twins [".*/x"] [] ⟨"[b]/c"⟩ {}).1 = [] := by
  obtain ⟨⟨hb₁, hn₁⟩, hb₂, hn₂⟩ := leads_twins
  refine ⟨linkFree_twins, ⟨hb₁, hn₁⟩, ⟨hb₂, hn₂⟩, by decide, ?_, ?_⟩
  · have htaken : twins.isTaken ⟨"/*/../x"⟩ := by cbv
    have hfile : twins.isFile ⟨"/*/../x"⟩ := by cbv
    have hfound : [".*/x"].flatMap (fun pattern => (matching twins ⟨"/*"⟩ pattern).1) = [⟨"/*/../x"⟩] := by
      have hmatching := @matching_beside ["*"] (by rfl)
      have hpath : FileTree.pathOf ["*"] = ⟨"/*"⟩ := by decide
      have hjoin : ((⟨"/*"⟩ : FilePath).join ⟨".."⟩).join ⟨"x"⟩ = ⟨"/*/../x"⟩ := by decide
      rw [hpath, hjoin] at hmatching
      simp [hmatching, htaken, hfile]
    have hrelative : relativeTo ⟨"/*"⟩ ⟨"/*/../x"⟩ = some "../x".toList := by decide
    have hkeeps : ∀ p ∈ [(⟨"/*/../x"⟩ : FilePath)], keeps ⟨"/*"⟩ (excludePatterns (excludeTexts [] {})).1 [] p :=
      List.forall_mem_singleton.mpr (keeps_of_not_excluded hrelative (by decide) rfl)
    rw [files_of_keeps hb₁ rfl hfound hkeeps]
    decide
  · have htaken : twins.isTaken ⟨"/[b]/c/../x"⟩ = false := by cbv
    have hfound : [".*/x"].flatMap (fun pattern => (matching twins ⟨"/[b]/c"⟩ pattern).1) = [] := by
      have hmatching := @matching_beside ["[b]", "c"] (by rfl)
      have hpath : FileTree.pathOf ["[b]", "c"] = ⟨"/[b]/c"⟩ := by decide
      have hjoin : ((⟨"/[b]/c"⟩ : FilePath).join ⟨".."⟩).join ⟨"x"⟩ = ⟨"/[b]/c/../x"⟩ := by decide
      rw [hpath, hjoin] at hmatching
      simp [hmatching, htaken]
    rw [files_of_keeps hb₂ rfl hfound (List.forall_mem_nil _)]
    decide

end Discovery

end RuleLint
