import RuleLint.Proofs.FileTree.Below
import RuleLint.Proofs.Glob.Expansion

/-!
# Descending to a directory

An escaped name is a pattern that matches just that name, whatever characters it has: the search for it goes on at the
entry of the name and nowhere else (`exists_below_ofName`). So the search for a pattern below an escaped directory is
the search for the pattern from that directory on (`exists_expand_under`).
-/

namespace RuleLint.Glob

/-! ## Escaped names -/

namespace Pattern

def ofName (name : String) : Pattern := ⟨name.toList.map escapeToken, false⟩

section
variable {name : String} {s : List Char}

theorem ofText?_ofName (name : String) :
    ofText? (String.ofList (name.toList.flatMap escapeChar)) = some (ofName name) := by
  have hcomponents : (name.toList.map escapeToken).contains .anyComponents = false := by
    refine Bool.eq_false_iff.mpr fun hmem => ?_
    obtain ⟨c, -, hc⟩ := List.mem_map.mp (List.contains_iff_mem.mp hmem)
    unfold escapeToken at hc
    split at hc <;> cases hc
  rw [ofText?_escape, hcomponents, ofName]

theorem matchesText_ofName : (ofName name).matchesText s ↔ s = name.toList := matchesTokens_escape

theorem literal?_ofName {s : String} (h : (ofName name).literal? = some s) : s = name := by
  have hmatches : (ofName name).matchesText s.toList := by
    rw [matchesText, tokens_of_literal? h]
    exact matchesTokens_char s.toList
  exact String.toList_inj.mp (matchesText_ofName.mp hmatches)

end

end Pattern

def PathPattern.under (g : PathPattern) (names : List String) : PathPattern :=
  ⟨names.map .ofName ++ g.parts, g.dirOnly⟩

/-! ## Entries of a directory -/

/-- Of entries with different names one at most has a given name. -/
theorem flatMap_of_name {β : Type} {entries : List (String × Node)} (hnodup : (entries.map (·.1)).Nodup)
    {name : String} {n : Node} (h : Node.child? entries name = some n) (l : List β) :
    entries.flatMap (fun e => if e.1 = name then l else []) = l := by
  have hmem := Node.mem_of_child? h
  clear h
  induction entries with
  | nil => cases hmem
  | cons e entries ih =>
    obtain ⟨he, hnodup⟩ := List.nodup_cons.mp hnodup
    rw [List.flatMap_cons]
    rcases List.mem_cons.mp hmem with rfl | hmem
    · have hrest : entries.flatMap (fun e => if e.1 = name then l else []) = [] := by
        refine List.flatMap_eq_nil_iff.mpr fun e he' => if_neg fun heq => ?_
        exact he (List.mem_map.mpr ⟨e, he', heq⟩)
      rw [if_pos rfl, hrest, List.append_nil]
    · have hne : e.1 ≠ name := by
        rintro rfl
        exact he (List.mem_map.mpr ⟨_, hmem, rfl⟩)
      rw [if_neg hne, List.nil_append, ih hnodup hmem]

/-! ## The search -/

section
variable {t : FileTree} {g : PathPattern} {before names : List String} {name : String} {m : Node}
  {entries : List (String × Node)}

theorem at_ofName {own : String} (here : Reached) (hown : here.path.fileName? = some own.toList) (n : Nat)
    (rest : List Pattern) :
    at_ t g (n + 2) (.ofName name :: rest) here = if own = name then continued t g n rest here else [] := by
  rw [at_, if_neg (by simp [Pattern.ofName]), named, hown]
  dsimp only
  by_cases heq : own = name
  · rw [if_pos heq, if_pos (Pattern.matchesText_ofName.mpr (congrArg String.toList heq))]
    rfl
  · rw [if_neg heq, if_neg]
    exact fun hmatches => heq (String.toList_inj.mp (Pattern.matchesText_ofName.mp hmatches))

/-- A name is found at the one entry that has it. -/
theorem exists_below_ofName (hwell : t.root.WellNamed) (hdir : t.root.at? before = some (.dir entries))
    (hchild : Node.child? entries name = some m) (hlink : ∀ target, m ≠ .link target) (n : Nat)
    (rest : List Pattern) :
    ∃ n', n ≤ n' ∧ below t g (n + 3) (.ofName name :: rest) ⟨FileTree.pathOf before, true⟩ =
      continued t g n' rest
        ⟨FileTree.pathOf (before ++ [name]), t.isDir (FileTree.pathOf (before ++ [name]))⟩ := by
  obtain ⟨hnodup, hnames⟩ := hwell before entries hdir
  have hname : IsName name := hnames _ (Node.mem_of_child? hchild)
  have hnode := FileTree.node_pathOf hwell hdir
  have hentry := (Node.step?_of_isName hname).trans hchild
  rw [FileTree.pathOf_concat (Node.isName_of_at? hwell hdir) hname]
  cases hliteral : (Pattern.ofName name).literal? with
  | some s =>
    obtain rfl := Pattern.literal?_ofName hliteral
    have htaken := FileTree.isTaken_join hnode hname.separator hname.parent fun target heq =>
      hlink target (Option.some.inj (hentry.symm.trans heq))
    rw [hentry] at htaken
    refine ⟨n + 2, by omega, ?_⟩
    rw [below_literal hliteral]
    simp [hname.here, hname.parent, htaken]
  | none =>
    refine ⟨n, Nat.le_refl n, ?_⟩
    have hdotted : dotted t g (n + 2) (.ofName name) rest ⟨FileTree.pathOf before, true⟩ = [] := by
      refine List.flatMap_eq_nil_iff.mpr fun s hs => if_neg fun hspells => ?_
      obtain rfl := String.toList_inj.mp (Pattern.matchesText_ofName.mp hspells.spelled)
      rcases List.mem_pair.mp hs with rfl | rfl
      · exact hname.here rfl
      · exact hname.parent rfl
    have hchildren : entries.flatMap (fun e => at_ t g (n + 2) (.ofName name :: rest)
        ⟨(FileTree.pathOf before).join ⟨e.1⟩, t.isDir ((FileTree.pathOf before).join ⟨e.1⟩)⟩) =
          continued t g n rest
            ⟨(FileTree.pathOf before).join ⟨name⟩, t.isDir ((FileTree.pathOf before).join ⟨name⟩)⟩ := by
      rw [← flatMap_of_name hnodup hchild (continued t g n rest _)]
      refine List.flatMap_congr fun e he => ?_
      have hown := FileTree.fileName?_join (hnames e he) (FileTree.text_ne_empty_of_node hnode)
      rw [at_ofName ⟨(FileTree.pathOf before).join ⟨e.1⟩, _⟩ hown]
      split
      · rename_i heq
        rw [heq]
      · rfl
    rw [below_entries hliteral, if_pos rfl, hdotted, FileTree.entries_of_node hnode, List.nil_append]
    exact hchildren

/-- A directory itself is no file, so files are found only if the search goes on. -/
theorem filter_continued {n : Nat} {rest : List Pattern} {here : Reached} (h : t.isFile here.path = false) :
    (continued t g n rest here).filter t.isFile = (below t g n rest here).filter t.isFile := by
  unfold continued
  cases rest with
  | nil =>
    have hbelow : below t g n [] here = [] := by
      cases n <;> simp [below]
    rw [hbelow]
    split
    · split <;> simp [h]
    · rfl
  | cons p rest => rfl

/-- The search descends to the directory that escaped names stand for. -/
theorem exists_below_names (hwell : t.root.WellNamed) (hdir : t.root.at? (before ++ names) = some (.dir entries))
    (n : Nat) (rest : List Pattern) :
    ∃ n', n ≤ n' ∧
      (below t g (n + 3 * names.length) (names.map .ofName ++ rest) ⟨FileTree.pathOf before, true⟩).filter t.isFile =
        (below t g n' rest ⟨FileTree.pathOf (before ++ names), true⟩).filter t.isFile := by
  induction names generalizing before n with
  | nil => exact ⟨n, Nat.le_refl n, by rw [List.append_nil]; rfl⟩
  | cons name names ih =>
    rw [List.append_cons] at hdir ⊢
    obtain ⟨inner, hinner⟩ : ∃ inner, t.root.at? (before ++ [name]) = some (.dir inner) := by
      rw [Node.at?_append] at hdir
      obtain ⟨m, hm, hdir⟩ := Option.bind_eq_some_iff.mp hdir
      obtain ⟨inner, rfl⟩ := Node.exists_dir_of_at? hdir
      exact ⟨inner, hm⟩
    obtain ⟨outer, houter⟩ := Node.exists_dir_of_at?_concat hinner
    have hchild := (Node.at?_concat houter name).symm.trans hinner
    obtain ⟨n₁, hn₁, hname⟩ :=
      @exists_below_ofName t g _ _ _ _ hwell houter hchild (Node.dir_ne_link inner) (n + 3 * names.length)
        (names.map .ofName ++ rest)
    obtain ⟨n₂, rfl⟩ := Nat.exists_eq_add_of_le' (Nat.le_trans (Nat.le_add_left _ n) hn₁)
    obtain ⟨n', hn', hnames⟩ := ih hdir n₂
    have hnode := FileTree.isDir_of_node (FileTree.node_pathOf hwell hinner)
    have hfile : t.isFile (FileTree.pathOf (before ++ [name])) = false := by
      simp [FileTree.isFile, FileTree.node_pathOf hwell hinner]
    refine ⟨n', by omega, ?_⟩
    rw [← hnames, List.length_cons, Nat.mul_succ, ← Nat.add_assoc, List.map_cons, List.cons_append, hname,
      filter_continued hfile, hnode]
    rfl

theorem exists_expand_under (hwell : t.root.WellNamed) (hdir : t.root.at? names = some (.dir entries)) :
    ∃ n, 3 * (g.parts.length + (Node.dir entries).depth) + 1 ≤ n ∧
      ((g.under names).expand t).filter t.isFile =
        (below t (g.under names) n g.parts ⟨FileTree.pathOf names, true⟩).filter t.isFile := by
  have hlength : (g.under names).parts.length = names.length + g.parts.length := by simp [PathPattern.under]
  have hdepth := Node.depth_at?_le hdir
  obtain ⟨n, hn⟩ : ∃ n, searchDepth t (g.under names) = n + 3 * names.length := by
    refine ⟨searchDepth t (g.under names) - 3 * names.length, ?_⟩
    rw [searchDepth, hlength]
    omega
  obtain ⟨n', hn', hbelow⟩ := @exists_below_names t (g.under names) [] _ _ hwell hdir n g.parts
  refine ⟨n', ?_, ?_⟩
  · rw [searchDepth, hlength, FileTree.linkLimit] at hn
    omega
  · rw [PathPattern.expand, hn]
    exact hbelow

end

end RuleLint.Glob
