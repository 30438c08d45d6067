import Mathlib.Data.List.Basic
import RuleLint.Proofs.FileTree.Join

/-!
# What is below a path

Where a path leads when it goes on depends only on the node that it has led to: it leads to the entry of that node
(`node_join`) or, if there is none, to nothing (`isTaken_join`). This holds as long as the entry is no link.
-/

namespace RuleLint

namespace Node

def LinkFree (n : Node) : Prop := ∀ names target, n.at? names ≠ some (.link target)

def isDir : Node → Bool
  | dir _ => true
  | _ => false

theorem dir_ne_link (entries : List (String × Node)) (target : FilePath) : dir entries ≠ link target := nofun

/-- What a part of a path that is not `..` leads to: an empty part and `.` lead to the directory itself. -/
def step? : Node → String → Option Node
  | dir entries, part => if part = "" ∨ part = "." then some (dir entries) else child? entries part
  | _, _ => none

section
variable {n m : Node} {entries : List (String × Node)} {part : String}

theorem step?_of_isName (h : IsName part) : (dir entries).step? part = child? entries part := by
  rw [step?, if_neg (not_or.mpr ⟨h.nonempty, h.here⟩)]

theorem step?_here : n.step? "." = if n.isDir then some n else none := by
  cases n <;> simp [step?, isDir]

/-- An entry is the directory itself or one of its own. -/
theorem at?_step? (h : n.step? part = some m) : m = n ∨ ∀ names, m.at? names = n.at? (part :: names) := by
  cases n with
  | dir entries =>
    rw [step?] at h
    split at h
    · exact .inl (Option.some.inj h).symm
    · exact .inr fun names => by rw [at?_cons, h, Option.bind_some]
  | file _ => cases h
  | link _ => cases h

theorem LinkFree.step? (hfree : n.LinkFree) (h : n.step? part = some m) : m.LinkFree := by
  rcases at?_step? h with rfl | hat
  · exact hfree
  · exact fun names target => hat names ▸ hfree (part :: names) target

theorem LinkFree.step?_ne_link (hfree : n.LinkFree) (part : String) (target : FilePath) :
    n.step? part ≠ some (link target) := by
  intro h
  exact hfree.step? h [] target (at?_nil _)

theorem WellNamed.step? (hwell : n.WellNamed) (h : n.step? part = some m) : m.WellNamed := by
  rcases at?_step? h with rfl | hat
  · exact hwell
  · exact fun names entries hdir => hwell (part :: names) entries (hat names ▸ hdir)

theorem WellNamed.at? (hwell : n.WellNamed) {names : List String} (h : n.at? names = some m) : m.WellNamed := by
  intro below entries hdir
  refine hwell (names ++ below) entries ?_
  rw [at?_append, h]
  exact hdir

theorem depth_le_entriesDepth {e : String × Node} (h : e ∈ entries) : e.2.depth ≤ entriesDepth entries := by
  induction entries with
  | nil => cases h
  | cons a entries ih =>
    rw [entriesDepth]
    rcases List.mem_cons.mp h with rfl | h
    · exact Nat.le_max_left _ _
    · exact Nat.le_trans (ih h) (Nat.le_max_right _ _)

theorem depth_lt_of_child? (h : child? entries part = some m) : m.depth < (dir entries).depth := by
  rw [depth]
  exact Nat.lt_succ_of_le (depth_le_entriesDepth (mem_of_child? h))

theorem depth_step?_le (h : n.step? part = some m) : m.depth ≤ n.depth := by
  cases n with
  | dir entries =>
    rw [Node.step?] at h
    split at h
    · exact Nat.le_of_eq (congrArg depth (Option.some.inj h)).symm
    · exact Nat.le_of_lt (depth_lt_of_child? h)
  | file _ => cases h
  | link _ => cases h

theorem depth_at?_le {names : List String} (h : n.at? names = some m) : m.depth ≤ n.depth := by
  induction names generalizing n with
  | nil =>
    rw [at?_nil] at h
    exact Nat.le_of_eq (congrArg depth (Option.some.inj h)).symm
  | cons name names ih =>
    cases n with
    | dir entries =>
      rw [at?_cons] at h
      obtain ⟨c, hc, h⟩ := Option.bind_eq_some_iff.mp h
      exact Nat.le_trans (ih h) (Nat.le_of_lt (depth_lt_of_child? hc))
    | file _ => cases h
    | link _ => cases h

end

end Node

namespace FileTree

section
variable {t : FileTree} {p : FilePath} {n m : Node} {names : List String} {part : String}

theorem node_eq_ok : t.node p = .ok n ↔ ∃ names, t.canonicalNames p = .ok names ∧ t.root.at? names = some n := by
  unfold node
  cases t.canonicalNames p with
  | error e => simp [bind, Except.bind]
  | ok names => cases hn : t.root.at? names <;> simp [bind, Except.bind, pure, Except.pure, throw, throwThe,
      MonadExceptOf.throw, hn]

theorem text_ne_empty_of_node (h : t.node p = .ok n) : p.text ≠ "" := by
  obtain ⟨names, hnames, -⟩ := node_eq_ok.mp h
  exact (follow_of_locate (canonicalNames_eq_ok.mp hnames)).1

theorem isDir_of_node (h : t.node p = .ok n) : t.isDir p = n.isDir := by
  cases n <;> simp [isDir, Node.isDir, h]

theorem isFile_of_node {t' : FileTree} {p' : FilePath} (h : t.node p = .ok n) (h' : t'.node p' = .ok n) :
    t.isFile p = t'.isFile p' := by
  rw [isFile, isFile, h, h']

theorem content?_eq_of_toOption {t' : FileTree} {p' : FilePath} (h : (t.node p).toOption = (t'.node p').toOption) :
    t.content? p = t'.content? p' := by
  unfold content?
  cases hn : t.node p <;> cases hn' : t'.node p' <;> rw [hn, hn'] at h <;> simp_all [Except.toOption]

theorem entries_of_node (h : t.node p = .ok n) : (t.entries p).toOption.getD [] =
    match n with
    | .dir entries => entries
    | _ => [] := by
  cases n <;> simp [entries, h, bind, Except.bind, pure, Except.pure, throw, throwThe, MonadExceptOf.throw,
    Except.toOption]

/-! ## Going on -/

theorem stepOf_part (hstay : ¬ (part = "" ∨ part = ".")) (hup : part ≠ "..") : stepOf part.toList = .down part := by
  have hlist : part.toList = "".toList ↔ part = "" := String.toList_inj
  have hlist' : part.toList = ".".toList ↔ part = "." := String.toList_inj
  have hlist'' : part.toList = "..".toList ↔ part = ".." := String.toList_inj
  rw [← hlist, ← hlist'] at hstay
  rw [Ne, ← hlist''] at hup
  rw [stepOf, String.ofList_toList]
  exact (if_neg hstay).trans (if_neg hup)

theorem stepOf_stay (h : part = "" ∨ part = ".") : stepOf part.toList = .stay := by
  rcases h with rfl | rfl <;> rfl

theorem stepOf_ne_top (cs : List Char) : stepOf cs ≠ .top := by
  unfold stepOf
  split
  · exact nofun
  · split <;> exact nofun

/-- A path that goes on leads to the entry of the node that it has led to. -/
theorem exists_locate_join (h : t.node p = .ok n) (hsep : '/' ∉ part.toList) (hup : part ≠ "..")
    (hlink : ∀ target, m ≠ .link target) (hm : n.step? part = some m) :
    ∃ names, t.root.at? names = some m ∧ ∀ final, t.locate (p.join ⟨part⟩) final = .ok (.taken names) := by
  obtain ⟨names, hnames, hn⟩ := node_eq_ok.mp h
  obtain ⟨links, hlocate⟩ := locate_join hnames hsep
  cases n with
  | dir entries =>
    rw [Node.step?] at hm
    split at hm
    · rename_i hstay
      obtain rfl := Option.some.inj hm
      refine ⟨names, hn, fun final => ?_⟩
      rw [hlocate, stepOf_stay hstay]
      simp [follow, hn]
    · rename_i hstay
      refine ⟨names ++ [part], (Node.at?_concat hn part).trans hm, fun final => ?_⟩
      rw [hlocate, stepOf_part hstay hup]
      simp [follow, hn, hm]
  | file _ => cases hm
  | link _ => cases hm

theorem locate_join_ne_taken (h : t.node p = .ok n) (hsep : '/' ∉ part.toList) (hup : part ≠ "..")
    (hm : n.step? part = none) (final : Bool) : t.locate (p.join ⟨part⟩) final ≠ .ok (.taken names) := by
  obtain ⟨before, hbefore, hn⟩ := node_eq_ok.mp h
  obtain ⟨links, hlocate⟩ := locate_join hbefore hsep
  rw [hlocate]
  cases n with
  | dir entries =>
    rw [Node.step?] at hm
    split at hm
    · cases hm
    · rename_i hstay
      rw [stepOf_part hstay hup]
      simp [follow, hn, hm]
  | file _ | link _ =>
    have hstep := stepOf_ne_top part.toList
    simp [follow, hn]

theorem node_join (h : t.node p = .ok n) (hsep : '/' ∉ part.toList) (hup : part ≠ "..")
    (hlink : ∀ target, m ≠ .link target) (hm : n.step? part = some m) : t.node (p.join ⟨part⟩) = .ok m := by
  obtain ⟨names, hnames, hlocate⟩ := exists_locate_join h hsep hup hlink hm
  exact node_eq_ok.mpr ⟨names, canonicalNames_eq_ok.mpr (hlocate true), hnames⟩

theorem isTaken_join (h : t.node p = .ok n) (hsep : '/' ∉ part.toList) (hup : part ≠ "..")
    (hlink : ∀ target, n.step? part ≠ some (.link target)) : t.isTaken (p.join ⟨part⟩) = (n.step? part).isSome := by
  unfold isTaken
  cases hm : n.step? part with
  | none =>
    split
    · exact absurd ‹_› (locate_join_ne_taken h hsep hup hm false)
    · rfl
  | some m =>
    obtain ⟨names, -, hlocate⟩ := exists_locate_join h hsep hup (fun target heq => hlink target (heq ▸ hm)) hm
    rw [hlocate]
    rfl

/-- What there is below a path does not depend on the tree around it. -/
theorem toOption_node_join (h : t.node p = .ok n) (hsep : '/' ∉ part.toList) (hup : part ≠ "..")
    (hlink : ∀ target, n.step? part ≠ some (.link target)) : (t.node (p.join ⟨part⟩)).toOption = n.step? part := by
  cases hm : n.step? part with
  | none =>
    cases hnode : t.node (p.join ⟨part⟩) with
    | error e => rfl
    | ok c =>
      obtain ⟨names, hnames, -⟩ := node_eq_ok.mp hnode
      exact absurd (canonicalNames_eq_ok.mp hnames) (locate_join_ne_taken h hsep hup hm true)
  | some m =>
    rw [node_join h hsep hup (fun target heq => hlink target (heq ▸ hm)) hm]
    rfl

/-! ## Paths of names -/

theorem getLast?_pathOf (hnames : ∀ name ∈ names, IsName name) (hne : names ≠ []) :
    (pathOf names).text.toList.getLast? ≠ some '/' := by
  obtain ⟨before, name, rfl⟩ := (List.eq_nil_or_concat names).resolve_left hne
  rw [List.concat_eq_append] at hnames ⊢
  have hname := hnames name (by simp)
  obtain ⟨cs, hcs⟩ : ∃ cs, (pathOf (before ++ [name])).text.toList = cs ++ name.toList := by
    cases before with
    | nil => exact ⟨['/'], by simp [pathOf]⟩
    | cons first before =>
      refine ⟨'/' :: ("/".intercalate (first :: before)).toList ++ ['/'], ?_⟩
      rw [pathOf, String.intercalate_append_of_ne_nil (by simp) (by simp)]
      simp
  rw [hcs, List.getLast?_append_of_ne_nil _ hname.toList_ne.1]
  exact fun hlast => hname.separator (List.mem_of_getLast? hlast)

theorem pathOf_concat (hnames : ∀ name ∈ names, IsName name) {name : String} (hname : IsName name) :
    pathOf (names ++ [name]) = (pathOf names).join ⟨name⟩ := by
  rw [FilePath.join, if_neg (by simp [FilePath.isAbsolute_of_not_mem hname.separator])]
  by_cases hne : names = []
  · subst hne
    rw [if_pos (.inr rfl)]
    simp [pathOf]
  · rw [if_neg (not_or.mpr ⟨by simp [pathOf], getLast?_pathOf hnames hne⟩)]
    simp [pathOf, String.intercalate_append_of_ne_nil hne, String.append_assoc]

/-- The path of a directory leads to it. -/
theorem node_pathOf (hwell : t.root.WellNamed) {entries : List (String × Node)}
    (h : t.root.at? names = some (.dir entries)) : t.node (pathOf names) = .ok (.dir entries) := by
  induction names using List.reverseRecOn generalizing entries with
  | nil =>
    refine node_eq_ok.mpr ⟨[], canonicalNames_eq_ok.mpr ?_, h⟩
    have hsteps : steps (pathOf []) = [.top, .stay] := by decide
    rw [locate, if_neg (by decide), hsteps]
    simp [follow, h]
  | append_singleton before name ih =>
    obtain ⟨outer, hdir⟩ := Node.exists_dir_of_at?_concat h
    rw [Node.at?_concat hdir] at h
    have hname := (hwell before outer hdir).2 _ (Node.mem_of_child? h)
    rw [pathOf_concat (Node.isName_of_at? hwell hdir) hname]
    exact node_join (ih hdir) hname.separator hname.parent (Node.dir_ne_link entries) ((Node.step?_of_isName hname).trans h)

end

end FileTree

end RuleLint
