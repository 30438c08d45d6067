import RuleLint.Proofs.FilePath.Resolution
import RuleLint.Proofs.Glob.Reading

/-!
# Paths that a glob reaches

A path that is reached grows by one part at a time: the text of a pattern without special characters, the name of
an entry, or a `.` or `..` that a pattern spells. So its parts are names, but for the `.` and `..` that the glob
itself spells (`isReached_of_mem_expand`).
-/

namespace RuleLint.Glob

/-! ## Parts of a joined path -/

theorem partsOf_nil : partsOf [] = [] := rfl

theorem partsOf_of_not_mem {cs : List Char} (h : '/' ∉ cs) (hne : cs ≠ []) : partsOf cs = [cs] := by
  rw [partsOf, FilePath.splitOn_of_not_mem h]
  simp [hne]

theorem of_getLast?_splitOn {cs : List Char} (h : (FilePath.splitOn '/' cs).getLast? = some []) :
    cs = [] ∨ cs.getLast? = some '/' := by
  induction cs with
  | nil => exact .inl rfl
  | cons c cs ih =>
    refine .inr ?_
    have hrest : ∀ hlast : (FilePath.splitOn '/' cs).getLast? = some [], cs ≠ [] → (c :: cs).getLast? = some '/' := by
      intro hlast hne
      rw [List.getLast?_cons_of_ne_nil hne]
      exact (ih hlast).resolve_left hne
    rw [FilePath.splitOn] at h
    split at h
    · rename_i hc
      rw [List.getLast?_cons_of_ne_nil (FileTree.splitOn_ne_nil '/' cs)] at h
      by_cases hne : cs = []
      · simp [hne, hc]
      · exact hrest h hne
    · cases hparts : FilePath.splitOn '/' cs with
      | nil => exact absurd hparts (FileTree.splitOn_ne_nil '/' cs)
      | cons part parts =>
        rw [hparts] at h
        cases parts with
        | nil => simp at h
        | cons _ _ =>
          refine hrest (by simpa [hparts] using h) ?_
          rintro rfl
          cases hparts

theorem splitOn_eq_partsOf {cs : List Char} (hne : cs ≠ []) (hend : cs.getLast? ≠ some '/') :
    FilePath.splitOn '/' cs = partsOf cs := by
  rw [partsOf, if_neg]
  exact fun h => (of_getLast?_splitOn h).elim hne hend

theorem partsOf_join {dir : FilePath} {s : String} (hdir : dir.text ≠ "") (hs : '/' ∉ s.toList) :
    partsOf (dir.join ⟨s⟩).text.toList = partsOf dir.text.toList ++ partsOf s.toList := by
  unfold FilePath.join
  rw [if_neg (by simp [FilePath.isAbsolute_of_not_mem hs])]
  by_cases hend : dir.text.toList.getLast? = some '/'
  · obtain ⟨a, ha⟩ := List.getLast?_eq_some_iff.mp hend
    rw [if_pos (.inr hend), String.toList_append, ha, List.append_assoc, List.singleton_append, partsOf_append,
      partsOf_append, partsOf_nil, List.append_nil]
  · have hne : dir.text.toList ≠ [] := fun hnil => hdir (String.toList_eq_nil_iff.mp hnil)
    rw [if_neg (not_or.mpr ⟨hdir, hend⟩), ← splitOn_eq_partsOf hne hend, ← partsOf_append]
    simp

theorem partsOf_subset (cs : List Char) : partsOf cs ⊆ FilePath.splitOn '/' cs := by
  unfold partsOf
  dsimp only
  split
  · exact List.dropLast_subset _
  · exact List.Subset.refl _

/-- A part that is empty does not count. -/
theorem filterMap_partsOf (cs : List Char) :
    (partsOf cs).filterMap FilePath.componentOf = (FilePath.splitOn '/' cs).filterMap FilePath.componentOf := by
  unfold partsOf
  dsimp only
  split
  · rename_i hlast
    obtain ⟨front, hfront⟩ := List.getLast?_eq_some_iff.mp hlast
    simp [hfront, FilePath.componentOf]
  · rfl

theorem isAbsolute_of_partsOf {p : FilePath} {parts : List (List Char)}
    (h : partsOf p.text.toList = [] :: parts) : p.isAbsolute := by
  unfold FilePath.isAbsolute
  cases hcs : p.text.toList with
  | nil =>
    rw [hcs] at h
    cases h
  | cons c cs =>
    by_cases hc : c = '/'
    · simp [hc]
    · -- the first part has the first character
      have hhead : ∃ part, (FilePath.splitOn '/' (c :: cs)).head? = some (c :: part) := by
        rw [FilePath.splitOn, if_neg hc]
        split <;> exact ⟨_, rfl⟩
      obtain ⟨part, hpart⟩ := hhead
      obtain ⟨rest, hrest⟩ := List.head?_eq_some_iff.mp hpart
      rw [hcs, partsOf, hrest] at h
      cases rest with
      | nil => simp at h
      | cons _ _ => split at h <;> simp at h

theorem components_of_partsOf {p : FilePath} {parts : List (List Char)}
    (h : partsOf p.text.toList = [] :: parts) :
    p.components = .root :: parts.filterMap FilePath.componentOf := by
  rw [FilePath.components_of_isAbsolute (isAbsolute_of_partsOf h), ← filterMap_partsOf, h, List.filterMap_cons]
  rfl

/-! ## Parts that a glob spells -/

/-- A pattern for one component as a spelling of `.` or `..`: it starts with a point. -/
structure Pattern.SpellsDots (pattern : Pattern) (part : List Char) : Prop where
  point : pattern.tokens.head? = some (.char '.')
  spelled : pattern.matchesText part

theorem Pattern.spellsDots_iff {pattern : Pattern} {part : List Char} : pattern.SpellsDots part ↔
    pattern.tokens.head? = some (.char '.') ∧ pattern.matchesText part :=
  ⟨fun h => ⟨h.point, h.spelled⟩, fun ⟨hpoint, hspelled⟩ => ⟨hpoint, hspelled⟩⟩

instance (pattern : Pattern) (part : List Char) : Decidable (pattern.SpellsDots part) :=
  decidable_of_iff _ Pattern.spellsDots_iff.symm

/-- A part of a path that patterns reach: a name, or a `.` or `..` that a pattern spells. -/
structure IsPart (patterns : List Pattern) (part : List Char) : Prop where
  nonempty : part ≠ []
  separator : '/' ∉ part
  dots : part = ['.'] ∨ part = ['.', '.'] → ∃ pattern ∈ patterns, pattern.SpellsDots part

def IsReached (patterns : List Pattern) (p : FilePath) : Prop :=
  ∃ parts, partsOf p.text.toList = [] :: parts ∧ ∀ part ∈ parts, IsPart patterns part

section
variable {patterns : List Pattern} {pattern : Pattern} {p : FilePath} {s : String}

theorem isPart_of_isName (h : IsName s) : IsPart patterns s.toList := by
  obtain ⟨hnil, hhere, hparent⟩ := h.toList_ne
  exact ⟨hnil, h.separator, fun hdots => absurd hdots (not_or.mpr ⟨hhere, hparent⟩)⟩

theorem Pattern.matchesTokens_char (cs : List Char) : matchesTokens (cs.map .char) cs := by
  induction cs with
  | nil => rfl
  | cons c cs ih => simpa [matchesTokens, accepts] using ih

theorem Pattern.tokens_of_literal? (h : pattern.literal? = some s) : pattern.tokens = s.toList.map .char := by
  obtain ⟨cs, hcs, rfl⟩ := Option.map_eq_some_iff.mp h
  rw [mapM_eq_some] at hcs
  rw [String.toList_ofList]
  clear h
  generalize pattern.tokens = tokens at hcs ⊢
  induction hcs with
  | nil => rfl
  | @cons t c ts cs ht _ ih =>
    cases t with
    | char d =>
      obtain rfl := Option.some.inj ht
      rw [List.map_cons, ← ih]
    | _ => cases ht

theorem isPart_of_literal? (hmem : pattern ∈ patterns) (hsep : .char '/' ∉ pattern.tokens)
    (h : pattern.literal? = some s) (hne : s ≠ "") : IsPart patterns s.toList := by
  have htokens := Pattern.tokens_of_literal? h
  refine ⟨fun hnil => hne (String.toList_eq_nil_iff.mp hnil), ?_, ?_⟩
  · rw [htokens] at hsep
    exact fun hslash => hsep (List.mem_map_of_mem hslash)
  · intro hdots
    refine ⟨pattern, hmem, ?_, ?_⟩
    · rw [htokens]
      rcases hdots with hdots | hdots <;> rw [hdots] <;> rfl
    · rw [Pattern.matchesText, htokens]
      exact Pattern.matchesTokens_char s.toList

theorem IsReached.ne_empty (h : IsReached patterns p) : p.text ≠ "" := by
  obtain ⟨parts, hparts, -⟩ := h
  intro hp
  rw [hp] at hparts
  cases hparts

theorem IsReached.join (h : IsReached patterns p) (hs : IsPart patterns s.toList) :
    IsReached patterns (p.join ⟨s⟩) := by
  have hp := h.ne_empty
  obtain ⟨parts, hparts, hall⟩ := h
  refine ⟨parts ++ [s.toList], ?_, List.forall_mem_append.mpr ⟨hall, List.forall_mem_singleton.mpr hs⟩⟩
  rw [partsOf_join hp hs.separator, hparts, partsOf_of_not_mem hs.separator hs.nonempty, List.cons_append]

theorem IsReached.join_empty (h : IsReached patterns p) : IsReached patterns (p.join ⟨""⟩) := by
  have hp := h.ne_empty
  obtain ⟨parts, hparts, hall⟩ := h
  refine ⟨parts, ?_, hall⟩
  rw [partsOf_join hp (by simp), hparts, String.toList_empty, partsOf_nil, List.append_nil]

theorem isReached_root : IsReached patterns ⟨"/"⟩ := ⟨[], by decide, nofun⟩

end

/-! ## Expansion -/

section
variable {t : FileTree} {g : PathPattern} {patterns : List Pattern}

/-- From a path that may be reached only such paths come. -/
def Extends (patterns : List Pattern) (f : Reached → List FilePath) : Prop :=
  ∀ here, IsReached patterns here.path → ∀ p ∈ f here, IsReached patterns p

def continued (t : FileTree) (g : PathPattern) (n : Nat) (rest : List Pattern) (here : Reached) : List FilePath :=
  if rest.isEmpty then (if g.admits here then [here.path] else []) else below t g n rest here

/-- A pattern without special characters is looked up; `.` and `..` are there in each directory. -/
theorem below_literal {pattern : Pattern} {s : String} (h : pattern.literal? = some s) (n : Nat)
    (rest : List Pattern) (here : Reached) : below t g (n + 1) (pattern :: rest) here =
      if if s = "." ∨ s = ".." then here.isDir else t.isTaken (here.path.join ⟨s⟩) then
        continued t g n rest ⟨here.path.join ⟨s⟩, t.isDir (here.path.join ⟨s⟩)⟩
      else [] := by
  rw [below, h]
  rfl

def dotted (t : FileTree) (g : PathPattern) (n : Nat) (pattern : Pattern) (rest : List Pattern) (here : Reached) :
    List FilePath :=
  [".", ".."].flatMap fun s =>
    if pattern.SpellsDots s.toList then
      continued t g n rest ⟨here.path.join ⟨s⟩, t.isDir (here.path.join ⟨s⟩)⟩
    else []

/-- Any other pattern is compared with `.`, `..` and the entries of a directory. -/
theorem below_entries {pattern : Pattern} (h : pattern.literal? = none) (n : Nat) (rest : List Pattern)
    (here : Reached) : below t g (n + 1) (pattern :: rest) here =
      if here.isDir then
        dotted t g n pattern rest here ++ ((t.entries here.path).toOption.getD []).flatMap fun e =>
          at_ t g n (pattern :: rest) ⟨here.path.join ⟨e.1⟩, t.isDir (here.path.join ⟨e.1⟩)⟩
      else [] := by
  rw [below, h]
  unfold dotted continued
  by_cases hpoint : pattern.tokens.head? = some (.char '.') <;> simp [Pattern.spellsDots_iff, hpoint]

theorem extends_continued {n : Nat} {rest : List Pattern} (h : Extends patterns (below t g n rest)) :
    Extends patterns (continued t g n rest) := by
  intro here hhere p hp
  unfold continued at hp
  split at hp
  · split at hp
    · exact List.mem_singleton.mp hp ▸ hhere
    · cases hp
  · exact h here hhere p hp

theorem extends_named {n : Nat} {pattern : Pattern} {rest : List Pattern}
    (h : Extends patterns (below t g n rest)) : Extends patterns (named t g (n + 1) pattern rest) := by
  intro here hhere p hp
  rw [named] at hp
  split at hp
  · cases hp
  · split at hp
    · exact extends_continued h here hhere p hp
    · cases hp

theorem afterRecursive_suffix (patterns : List Pattern) : afterRecursive patterns <:+ patterns := by
  induction patterns with
  | nil => exact List.suffix_refl []
  | cons p patterns ih =>
    rw [afterRecursive]
    split
    · exact ih.trans (List.suffix_cons p patterns)
    · exact List.suffix_refl _

theorem extends_at {n : Nat} {todo : List Pattern} (htodo : todo ⊆ patterns)
    (hbelow : ∀ todo ⊆ patterns, Extends patterns (below t g n todo))
    (hnamed : ∀ pattern ∈ patterns, ∀ rest ⊆ patterns, Extends patterns (named t g n pattern rest)) :
    Extends patterns (at_ t g (n + 1) todo) := by
  intro here hhere p hp
  cases todo with
  | nil =>
    rw [at_] at hp
    · cases hp
    · exact nofun
  | cons first rest =>
    obtain ⟨hfirst, hrest⟩ := List.cons_subset.mp htodo
    rw [at_] at hp
    split at hp
    · have hafter := List.Subset.trans (afterRecursive_suffix rest).subset hrest
      split at hp
      · split at hp
        · rcases List.mem_cons.mp hp with rfl | hp
          · exact hhere
          · exact hbelow [first] (List.cons_subset.mpr ⟨hfirst, List.nil_subset _⟩) here hhere p hp
        · cases hp
      · rename_i next more heq
        rw [heq] at hafter
        obtain ⟨hnext, hmore⟩ := List.cons_subset.mp hafter
        rcases List.mem_append.mp hp with hp | hp
        · exact hnamed next hnext more hmore here hhere p hp
        · split at hp
          · exact hbelow _ (List.cons_subset.mpr ⟨hfirst, hafter⟩) here hhere p hp
          · cases hp
    · exact hnamed first hfirst rest hrest here hhere p hp

theorem extends_below (hwell : t.root.WellNamed) (hsep : ∀ pattern ∈ patterns, .char '/' ∉ pattern.tokens)
    {n : Nat} {todo : List Pattern} (htodo : todo ⊆ patterns)
    (hbelow : ∀ todo ⊆ patterns, Extends patterns (below t g n todo))
    (hat : ∀ todo ⊆ patterns, Extends patterns (at_ t g n todo)) :
    Extends patterns (below t g (n + 1) todo) := by
  intro here hhere p hp
  cases todo with
  | nil =>
    rw [below] at hp
    · cases hp
    · exact nofun
  | cons first rest =>
    obtain ⟨hfirst, hrest⟩ := List.cons_subset.mp htodo
    have hcontinued := extends_continued (hbelow rest hrest)
    cases hliteral : first.literal? with
    | some s =>
      rw [below_literal hliteral] at hp
      obtain ⟨-, hp⟩ := List.mem_ite_nil_right.mp hp
      refine hcontinued ⟨here.path.join ⟨s⟩, _⟩ ?_ p hp
      by_cases hne : s = ""
      · subst hne
        exact hhere.join_empty
      · exact hhere.join (isPart_of_literal? hfirst (hsep first hfirst) hliteral hne)
    | none =>
      rw [below_entries hliteral] at hp
      obtain ⟨-, hp⟩ := List.mem_ite_nil_right.mp hp
      rcases List.mem_append.mp hp with hp | hp
      · obtain ⟨s, hs, hp⟩ := List.mem_flatMap.mp hp
        obtain ⟨hspells, hp⟩ := List.mem_ite_nil_right.mp hp
        refine hcontinued ⟨here.path.join ⟨s⟩, _⟩ (hhere.join ?_) p hp
        have hdots : s = "." ∨ s = ".." := by simpa using hs
        refine ⟨?_, ?_, fun _ => ⟨first, hfirst, hspells⟩⟩
        · rcases hdots with rfl | rfl <;> decide
        · rcases hdots with rfl | rfl <;> decide
      · obtain ⟨⟨name, node⟩, he, hp⟩ := List.mem_flatMap.mp hp
        refine hat (first :: rest) htodo ⟨here.path.join ⟨name⟩, _⟩ (hhere.join (isPart_of_isName ?_)) p hp
        cases hentries : t.entries here.path with
        | error e =>
          rw [hentries] at he
          cases he
        | ok entries =>
          rw [hentries] at he
          obtain ⟨names, -, hdir⟩ := FileTree.entries_eq_ok.mp hentries
          exact (hwell names entries hdir).2 _ he

theorem extends_search (hwell : t.root.WellNamed) (hsep : ∀ pattern ∈ patterns, .char '/' ∉ pattern.tokens)
    (n : Nat) : (∀ todo ⊆ patterns, Extends patterns (below t g n todo)) ∧
      (∀ todo ⊆ patterns, Extends patterns (at_ t g n todo)) ∧
      ∀ pattern ∈ patterns, ∀ rest ⊆ patterns, Extends patterns (named t g n pattern rest) := by
  induction n with
  | zero =>
    refine ⟨fun todo _ here _ p hp => ?_, fun todo _ here _ p hp => ?_, fun pattern _ rest _ here _ p hp => ?_⟩
    · rw [below] at hp
      cases hp
    · rw [at_] at hp
      cases hp
    · rw [named] at hp
      cases hp
  | succ n ih =>
    obtain ⟨hbelow, hat, hnamed⟩ := ih
    exact ⟨fun todo htodo => extends_below hwell hsep htodo hbelow hat,
      fun todo htodo => extends_at htodo hbelow hnamed,
      fun pattern _ rest hrest => extends_named (hbelow rest hrest)⟩

theorem isReached_of_mem_expand (hwell : t.root.WellNamed) (hsep : ∀ pattern ∈ g.parts, .char '/' ∉ pattern.tokens)
    {p : FilePath} (h : p ∈ g.expand t) : IsReached g.parts p := by
  obtain ⟨hbelow, -, -⟩ := extends_search (g := g) hwell hsep (searchDepth t g)
  exact hbelow g.parts (List.Subset.refl _) ⟨⟨"/"⟩, true⟩ isReached_root p h

end

end RuleLint.Glob
