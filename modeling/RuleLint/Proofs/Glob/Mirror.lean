import Mathlib.Data.List.Forall2
import RuleLint.Proofs.FilePath.Normal
import RuleLint.Proofs.FileTree.Below
import RuleLint.Proofs.Glob.Expansion

/-!
# Searches below two directories

Two searches from paths that lead to one node see the same entries at each step, so they reach paths that go on alike
from the two (`search_agrees`). The searches may have different bounds, as long as both suffice: each level of the tree
and each pattern that is left take three steps at most.
-/

namespace RuleLint

/-! ## Paths that go on -/

namespace FilePath

/-- Paths that go on alike from two paths. -/
def Alike (b₁ b₂ p₁ p₂ : FilePath) : Prop :=
  (p₁ = b₁ ∧ p₂ = b₂) ∨ ∃ q : FilePath, q.isAbsolute = false ∧ p₁ = b₁.join q ∧ p₂ = b₂.join q

theorem Alike.join {b₁ b₂ p₁ p₂ : FilePath} (h : Alike b₁ b₂ p₁ p₂) {part : String} (hpart : '/' ∉ part.toList) :
    Alike b₁ b₂ (p₁.join ⟨part⟩) (p₂.join ⟨part⟩) := by
  have hrelative := isAbsolute_of_not_mem hpart
  rcases h with ⟨rfl, rfl⟩ | ⟨q, hq, rfl, rfl⟩
  · exact .inr ⟨⟨part⟩, hrelative, rfl, rfl⟩
  · exact .inr ⟨q.join ⟨part⟩, isAbsolute_join_of_relative hq hrelative, join_join hq hrelative,
      join_join hq hrelative⟩

end FilePath

namespace Glob

structure Pattern.Inward (pattern : Pattern) : Prop where
  separator : .char '/' ∉ pattern.tokens
  parent : ¬ pattern.SpellsDots ['.', '.']

theorem Pattern.Inward.of_literal? {pattern : Pattern} {s : String} (h : pattern.Inward)
    (hs : pattern.literal? = some s) : '/' ∉ s.toList ∧ s ≠ ".." := by
  have htokens := tokens_of_literal? hs
  constructor
  · exact fun hslash => h.separator (htokens ▸ List.mem_map_of_mem hslash)
  · rintro rfl
    refine h.parent ⟨by rw [htokens]; rfl, ?_⟩
    rw [matchesText, htokens]
    exact matchesTokens_char _

structure Search where
  tree : FileTree
  pattern : PathPattern
  base : FilePath

/-- Two paths that go on alike from two directories and lead to one node, with no link below it. -/
structure Mirrors (s₁ s₂ : Search) (n : Node) (p₁ p₂ : FilePath) : Prop where
  alike : FilePath.Alike s₁.base s₂.base p₁ p₂
  left : s₁.tree.node p₁ = .ok n
  right : s₂.tree.node p₂ = .ok n
  linkFree : n.LinkFree
  wellNamed : n.WellNamed

def AllMirror (s₁ s₂ : Search) : List FilePath → List FilePath → Prop :=
  List.Forall₂ fun p₁ p₂ => ∃ n, Mirrors s₁ s₂ n p₁ p₂

theorem forall₂_flatMap {α β γ : Type} {R : β → γ → Prop} {l : List α} {f : α → List β} {f' : α → List γ}
    (h : ∀ a ∈ l, List.Forall₂ R (f a) (f' a)) : List.Forall₂ R (l.flatMap f) (l.flatMap f') := by
  induction l with
  | nil => exact .nil
  | cons a l ih =>
    obtain ⟨ha, hl⟩ := List.forall_mem_cons.mp h
    rw [List.flatMap_cons, List.flatMap_cons]
    exact List.rel_append ha (ih hl)

section
variable {s₁ s₂ : Search} {p₁ p₂ : FilePath} {n m : Node} {n₁ n₂ : Nat}
  {pattern : Pattern} {rest todo : List Pattern} {part : String}

theorem Mirrors.join (h : Mirrors s₁ s₂ n p₁ p₂) (hsep : '/' ∉ part.toList) (hup : part ≠ "..")
    (hm : n.step? part = some m) : Mirrors s₁ s₂ m (p₁.join ⟨part⟩) (p₂.join ⟨part⟩) := by
  have hlink : ∀ target, m ≠ .link target := fun target heq => h.linkFree.step?_ne_link part target (heq ▸ hm)
  exact ⟨h.alike.join hsep, FileTree.node_join h.left hsep hup hlink hm,
    FileTree.node_join h.right hsep hup hlink hm, h.linkFree.step? hm, h.wellNamed.step? hm⟩

/-! ## Searches -/

/-- Searches below mirrored paths find mirrored paths if their bounds suffice. -/
def BelowAgrees (s₁ s₂ : Search) (n₁ n₂ : Nat) : Prop :=
  ∀ todo n p₁ p₂, (∀ pattern ∈ todo, pattern.Inward) → 3 * (todo.length + n.depth) + 1 ≤ min n₁ n₂ →
    Mirrors s₁ s₂ n p₁ p₂ →
    AllMirror s₁ s₂ (below s₁.tree s₁.pattern n₁ todo ⟨p₁, n.isDir⟩) (below s₂.tree s₂.pattern n₂ todo ⟨p₂, n.isDir⟩)

def AtAgrees (s₁ s₂ : Search) (n₁ n₂ : Nat) : Prop :=
  ∀ todo n p₁ p₂, (∀ pattern ∈ todo, pattern.Inward) → 3 * (todo.length + n.depth) + 3 ≤ min n₁ n₂ →
    p₁.fileName? = p₂.fileName? → Mirrors s₁ s₂ n p₁ p₂ →
    AllMirror s₁ s₂ (at_ s₁.tree s₁.pattern n₁ todo ⟨p₁, n.isDir⟩) (at_ s₂.tree s₂.pattern n₂ todo ⟨p₂, n.isDir⟩)

def NamedAgrees (s₁ s₂ : Search) (n₁ n₂ : Nat) : Prop :=
  ∀ pattern rest n p₁ p₂, (∀ pattern ∈ rest, pattern.Inward) → 3 * (rest.length + n.depth) + 2 ≤ min n₁ n₂ →
    p₁.fileName? = p₂.fileName? → Mirrors s₁ s₂ n p₁ p₂ →
    AllMirror s₁ s₂ (named s₁.tree s₁.pattern n₁ pattern rest ⟨p₁, n.isDir⟩)
      (named s₂.tree s₂.pattern n₂ pattern rest ⟨p₂, n.isDir⟩)

theorem allMirror_continued (hdirOnly : s₁.pattern.dirOnly = s₂.pattern.dirOnly) (hbelow : BelowAgrees s₁ s₂ n₁ n₂)
    (hrest : ∀ pattern ∈ rest, pattern.Inward) (hbound : 3 * (rest.length + n.depth) + 1 ≤ min n₁ n₂)
    (h : Mirrors s₁ s₂ n p₁ p₂) :
    AllMirror s₁ s₂ (continued s₁.tree s₁.pattern n₁ rest ⟨p₁, n.isDir⟩)
      (continued s₂.tree s₂.pattern n₂ rest ⟨p₂, n.isDir⟩) := by
  unfold continued PathPattern.admits
  rw [hdirOnly]
  split
  · split
    · exact .cons ⟨n, h⟩ .nil
    · exact .nil
  · exact hbelow rest n p₁ p₂ hrest hbound h

/-- What comes of an entry by which both paths go on. -/
theorem allMirror_continued_join (hdirOnly : s₁.pattern.dirOnly = s₂.pattern.dirOnly)
    (hbelow : BelowAgrees s₁ s₂ n₁ n₂) (hrest : ∀ pattern ∈ rest, pattern.Inward)
    (hbound : 3 * (rest.length + n.depth) + 1 ≤ min n₁ n₂)
    (h : Mirrors s₁ s₂ n p₁ p₂) (hsep : '/' ∉ part.toList) (hup : part ≠ "..") (hm : n.step? part = some m) :
    AllMirror s₁ s₂ (continued s₁.tree s₁.pattern n₁ rest ⟨p₁.join ⟨part⟩, s₁.tree.isDir (p₁.join ⟨part⟩)⟩)
      (continued s₂.tree s₂.pattern n₂ rest ⟨p₂.join ⟨part⟩, s₂.tree.isDir (p₂.join ⟨part⟩)⟩) := by
  have hjoin := h.join hsep hup hm
  have hdepth := Node.depth_step?_le hm
  rw [FileTree.isDir_of_node hjoin.left, FileTree.isDir_of_node hjoin.right]
  exact allMirror_continued hdirOnly hbelow hrest (by omega) hjoin

theorem namedAgrees_succ (hdirOnly : s₁.pattern.dirOnly = s₂.pattern.dirOnly) (hbelow : BelowAgrees s₁ s₂ n₁ n₂) :
    NamedAgrees s₁ s₂ (n₁ + 1) (n₂ + 1) := by
  intro pattern rest n p₁ p₂ hrest hbound hname h
  rw [named, named]
  dsimp only
  rw [hname]
  split
  · exact .nil
  · split
    · exact allMirror_continued hdirOnly hbelow hrest (by omega) h
    · exact .nil

theorem atAgrees_succ (hbelow : BelowAgrees s₁ s₂ n₁ n₂) (hnamed : NamedAgrees s₁ s₂ n₁ n₂) :
    AtAgrees s₁ s₂ (n₁ + 1) (n₂ + 1) := by
  intro todo n p₁ p₂ htodo hbound hname h
  cases todo with
  | nil =>
    simp only [at_]
    exact .nil
  | cons first rest =>
    obtain ⟨hfirst, hrest⟩ := List.forall_mem_cons.mp htodo
    have hsuffix := afterRecursive_suffix rest
    have hlength := hsuffix.length_le
    rw [List.length_cons] at hbound
    rw [at_, at_]
    split
    · split
      · dsimp only
        split
        · refine .cons ⟨n, h⟩ (hbelow [first] n p₁ p₂ (by simpa using hfirst) ?_ h)
          rw [List.length_singleton]
          omega
        · exact .nil
      · rename_i next more heq
        rw [heq] at hsuffix hlength
        rw [List.length_cons] at hlength
        have hafter : ∀ pattern ∈ next :: more, pattern.Inward := fun p hp => hrest p (hsuffix.subset hp)
        refine List.rel_append (hnamed next more n p₁ p₂ (List.forall_mem_cons.mp hafter).2 ?_ hname h) ?_
        · omega
        · dsimp only
          split
          · refine hbelow _ n p₁ p₂ (List.forall_mem_cons.mpr ⟨hfirst, hafter⟩) ?_ h
            simp only [List.length_cons]
            omega
          · exact .nil
    · exact hnamed first rest n p₁ p₂ hrest (by omega) hname h

/-- The `.` of a directory leads to the directory, and its `..` is not spelled. -/
theorem allMirror_dotted (hdirOnly : s₁.pattern.dirOnly = s₂.pattern.dirOnly) (hbelow : BelowAgrees s₁ s₂ n₁ n₂)
    (hpattern : pattern.Inward) (hrest : ∀ pattern ∈ rest, pattern.Inward)
    (hbound : 3 * (rest.length + n.depth) + 1 ≤ min n₁ n₂) (h : Mirrors s₁ s₂ n p₁ p₂) (hdir : n.isDir) :
    AllMirror s₁ s₂ (dotted s₁.tree s₁.pattern n₁ pattern rest ⟨p₁, n.isDir⟩)
      (dotted s₂.tree s₂.pattern n₂ pattern rest ⟨p₂, n.isDir⟩) := by
  refine forall₂_flatMap fun s hs => ?_
  split
  · rename_i hspells
    obtain rfl : s = "." := by
      refine (List.mem_pair.mp hs).resolve_right ?_
      rintro rfl
      exact hpattern.parent hspells
    have hself : n.step? "." = some n := by rw [Node.step?_here, if_pos hdir]
    exact allMirror_continued_join hdirOnly hbelow hrest hbound h (by decide) (by decide) hself
  · exact .nil

theorem allMirror_entries {entries : List (String × Node)} (hat : AtAgrees s₁ s₂ n₁ n₂)
    (htodo : ∀ pattern ∈ todo, pattern.Inward)
    (hbound : 3 * (todo.length + (Node.dir entries).depth) ≤ min n₁ n₂) (h : Mirrors s₁ s₂ (.dir entries) p₁ p₂) :
    AllMirror s₁ s₂
      (entries.flatMap fun e =>
        at_ s₁.tree s₁.pattern n₁ todo ⟨p₁.join ⟨e.1⟩, s₁.tree.isDir (p₁.join ⟨e.1⟩)⟩)
      (entries.flatMap fun e =>
        at_ s₂.tree s₂.pattern n₂ todo ⟨p₂.join ⟨e.1⟩, s₂.tree.isDir (p₂.join ⟨e.1⟩)⟩) := by
  refine forall₂_flatMap fun e he => ?_
  obtain ⟨hnodup, hnames⟩ := h.wellNamed [] entries (Node.at?_nil _)
  have hname := hnames e he
  have hchild := Node.child?_of_mem hnodup he
  have hdepth := Node.depth_lt_of_child? hchild
  have hjoin := h.join hname.separator hname.parent ((Node.step?_of_isName hname).trans hchild)
  rw [FileTree.isDir_of_node hjoin.left, FileTree.isDir_of_node hjoin.right]
  refine hat todo e.2 _ _ htodo (by omega) ?_ hjoin
  rw [FileTree.fileName?_join hname (FileTree.text_ne_empty_of_node h.left),
    FileTree.fileName?_join hname (FileTree.text_ne_empty_of_node h.right)]

theorem belowAgrees_succ (hdirOnly : s₁.pattern.dirOnly = s₂.pattern.dirOnly) (hbelow : BelowAgrees s₁ s₂ n₁ n₂)
    (hat : AtAgrees s₁ s₂ n₁ n₂) : BelowAgrees s₁ s₂ (n₁ + 1) (n₂ + 1) := by
  intro todo n p₁ p₂ htodo hbound h
  cases todo with
  | nil =>
    simp only [below]
    exact .nil
  | cons first rest =>
    obtain ⟨hfirst, hrest⟩ := List.forall_mem_cons.mp htodo
    rw [List.length_cons] at hbound
    cases hliteral : first.literal? with
    | some s =>
      obtain ⟨hsep, hup⟩ := hfirst.of_literal? hliteral
      rw [below_literal hliteral, below_literal hliteral,
        FileTree.isTaken_join h.left hsep hup (h.linkFree.step?_ne_link s),
        FileTree.isTaken_join h.right hsep hup (h.linkFree.step?_ne_link s)]
      -- where the search goes on there is an entry, `.` being one of a directory
      have hentry : (if s = "." ∨ s = ".." then n.isDir else (n.step? s).isSome) = (n.step? s).isSome := by
        split
        · rename_i hs
          obtain rfl := hs.resolve_right hup
          rw [Node.step?_here]
          cases n.isDir <;> rfl
        · rfl
      dsimp only
      rw [hentry]
      split
      · rename_i hm
        obtain ⟨m, hm⟩ := Option.isSome_iff_exists.mp hm
        exact allMirror_continued_join hdirOnly hbelow hrest (by omega) h hsep hup hm
      · exact .nil
    | none =>
      rw [below_entries hliteral, below_entries hliteral]
      cases n with
      | dir entries =>
        dsimp only
        rw [FileTree.entries_of_node h.left, FileTree.entries_of_node h.right]
        have hchildren : 3 * ((first :: rest).length + (Node.dir entries).depth) ≤ min n₁ n₂ := by
          rw [List.length_cons]
          omega
        refine List.rel_append (allMirror_dotted hdirOnly hbelow hfirst hrest (by omega) h rfl) ?_
        exact allMirror_entries hat htodo hchildren h
      | file _ | link _ => exact .nil

theorem search_agrees (hdirOnly : s₁.pattern.dirOnly = s₂.pattern.dirOnly) (n₁ n₂ : Nat) : BelowAgrees s₁ s₂ n₁ n₂ ∧
    AtAgrees s₁ s₂ n₁ n₂ ∧ NamedAgrees s₁ s₂ n₁ n₂ := by
  have hzero : ∀ n₁ n₂, min n₁ n₂ = 0 →
      BelowAgrees s₁ s₂ n₁ n₂ ∧ AtAgrees s₁ s₂ n₁ n₂ ∧ NamedAgrees s₁ s₂ n₁ n₂ := by
    intro n₁ n₂ hmin
    refine ⟨?_, ?_, ?_⟩
    · exact fun todo n p₁ p₂ _ hbound => absurd hbound (by omega)
    · exact fun todo n p₁ p₂ _ hbound => absurd hbound (by omega)
    · exact fun pattern rest n p₁ p₂ _ hbound => absurd hbound (by omega)
  induction n₁ generalizing n₂ with
  | zero => exact hzero 0 n₂ (Nat.zero_min n₂)
  | succ n₁ ih =>
    cases n₂ with
    | zero => exact hzero (n₁ + 1) 0 (Nat.min_zero _)
    | succ n₂ =>
      obtain ⟨hbelow, hat, hnamed⟩ := ih n₂
      exact ⟨belowAgrees_succ hdirOnly hbelow hat, atAgrees_succ hbelow hnamed, namedAgrees_succ hdirOnly hbelow⟩

end

end Glob

end RuleLint
