import RuleLint.Discovery
import RuleLint.Proofs.PathOrder

/-!
# Paths that are found

The files that are found are in order of paths, and no two of their paths are spellings of one
(`eq_of_same`). Sorting keeps a spelling of each path (`exists_same_sortPaths`).
-/

namespace RuleLint.Discovery

/-- In order of paths, no two of them being the same. -/
def Ascending (l : List FilePath) : Prop := l.Pairwise fun p q => p.compare q = .lt

section
variable {p q : FilePath} {l : List FilePath}

theorem compare_trans {s : FilePath} (h₁ : p.compare q = .lt) (h₂ : q.compare s = .lt) :
    p.compare s = .lt := by
  unfold FilePath.compare at *
  exact Std.TransCmp.lt_trans h₁ h₂

theorem compare_of_gt (h : p.compare q = .gt) : q.compare p = .lt := by
  unfold FilePath.compare at *
  exact Std.OrientedCmp.lt_of_gt h

theorem mem_insertPath (h : q ∈ insertPath p l) : q = p ∨ q ∈ l := by
  induction l with
  | nil => exact .inl (List.mem_singleton.mp h)
  | cons a l ih =>
    unfold insertPath at h
    split at h
    · exact List.mem_cons.mp h
    · exact .inr h
    · rcases List.mem_cons.mp h with rfl | h
      · exact .inr List.mem_cons_self
      · exact (ih h).imp_right (List.mem_cons_of_mem _)

theorem exists_same_insertPath (h : q = p ∨ q ∈ l) : ∃ s ∈ insertPath p l, q.same s := by
  have hself : q.same q := FilePath.same_iff.mpr rfl
  induction l with
  | nil =>
    obtain rfl := h.resolve_right List.not_mem_nil
    exact ⟨q, List.mem_singleton_self q, hself⟩
  | cons a l ih =>
    unfold insertPath
    split
    · exact ⟨q, List.mem_cons.mpr h, hself⟩
    · rename_i heq
      rcases h with rfl | h
      · exact ⟨a, List.mem_cons_self, FilePath.same_iff.mpr (Std.LawfulEqCmp.eq_of_compare heq)⟩
      · exact ⟨q, h, hself⟩
    · rcases h with rfl | h
      · obtain ⟨s, hs, hsame⟩ := ih (.inl rfl)
        exact ⟨s, List.mem_cons_of_mem a hs, hsame⟩
      · rcases List.mem_cons.mp h with rfl | h
        · exact ⟨q, List.mem_cons_self, hself⟩
        · obtain ⟨s, hs, hsame⟩ := ih (.inr h)
          exact ⟨s, List.mem_cons_of_mem a hs, hsame⟩

theorem ascending_insertPath (h : Ascending l) : Ascending (insertPath p l) := by
  unfold Ascending at *
  induction l with
  | nil => exact List.pairwise_singleton _ p
  | cons a l ih =>
    obtain ⟨ha, hl⟩ := List.pairwise_cons.mp h
    unfold insertPath
    split
    · rename_i hlt
      refine List.pairwise_cons.mpr ⟨fun q hq => ?_, h⟩
      rcases List.mem_cons.mp hq with rfl | hq
      · exact hlt
      · exact compare_trans hlt (ha q hq)
    · exact h
    · rename_i hgt
      refine List.pairwise_cons.mpr ⟨fun q hq => ?_, ih hl⟩
      rcases mem_insertPath hq with rfl | hq
      · exact compare_of_gt hgt
      · exact ha q hq

theorem ascending_sortPaths (paths : List FilePath) : Ascending (sortPaths paths) := by
  unfold sortPaths
  suffices ∀ acc, Ascending acc → Ascending (paths.foldl (fun acc p => insertPath p acc) acc) from
    this [] List.Pairwise.nil
  induction paths with
  | nil => exact fun acc h => h
  | cons p paths ih => exact fun acc h => ih _ (ascending_insertPath h)

theorem mem_sortPaths {paths : List FilePath} (h : p ∈ sortPaths paths) : p ∈ paths := by
  unfold sortPaths at h
  suffices ∀ acc, p ∈ paths.foldl (fun acc p => insertPath p acc) acc → p ∈ acc ∨ p ∈ paths from
    (this [] h).resolve_left List.not_mem_nil
  clear h
  induction paths with
  | nil => exact fun acc h => .inl h
  | cons a paths ih =>
    intro acc h
    rcases ih _ h with h | h
    · exact (mem_insertPath h).elim (fun heq => .inr (heq ▸ List.mem_cons_self)) .inl
    · exact .inr (List.mem_cons_of_mem a h)

/-- A path that is left out is the same as one that stays. -/
theorem exists_same_sortPaths {paths : List FilePath} (h : p ∈ paths) : ∃ q ∈ sortPaths paths, p.same q := by
  unfold sortPaths
  suffices ∀ acc, (∃ s ∈ acc, p.same s) ∨ p ∈ paths →
      ∃ q ∈ paths.foldl (fun acc p => insertPath p acc) acc, p.same q from this [] (.inr h)
  clear h
  induction paths with
  | nil => exact fun acc h => h.resolve_right List.not_mem_nil
  | cons a paths ih =>
    intro acc h
    have hstep : ∀ {s}, s = a ∨ s ∈ acc → p.same s → ∃ s ∈ insertPath a acc, p.same s := by
      intro s hs hsame
      obtain ⟨u, hu, hsame'⟩ := exists_same_insertPath hs
      exact ⟨u, hu, FilePath.same_iff.mpr ((FilePath.same_iff.mp hsame).trans (FilePath.same_iff.mp hsame'))⟩
    rcases h with ⟨s, hs, hsame⟩ | h
    · exact ih _ (.inl (hstep (.inr hs) hsame))
    · rcases List.mem_cons.mp h with rfl | h
      · exact ih _ (.inl (hstep (.inl rfl) (FilePath.same_iff.mpr rfl)))
      · exact ih _ (.inr h)

theorem ascending_files (t : FileTree) (patterns excludes : List String) (base : FilePath)
    (options : Options) : Ascending (files t patterns excludes base options).1 := by
  unfold files
  -- or else the exclusions are read to see that they are a pair
  generalize excludePatterns (defaultExcludes ++ excludes ++ options.extraExcludes) = excluded
  split
  · exact List.Pairwise.nil
  · exact ascending_sortPaths _

theorem not_same_of_lt (h : p.compare q = .lt) : p.same q = false := by
  refine Bool.eq_false_iff.mpr fun hsame => ?_
  have hself : FilePath.compareComponents q.components q.components = .eq := Std.ReflCmp.compare_self
  rw [FilePath.compare, FilePath.same_iff.mp hsame, hself] at h
  cases h

theorem eq_of_same (h : Ascending l) (hp : p ∈ l) (hq : q ∈ l) (hsame : p.same q) : p = q := by
  unfold Ascending at h
  induction l with
  | nil => cases hp
  | cons a l ih =>
    obtain ⟨ha, hl⟩ := List.pairwise_cons.mp h
    rcases List.mem_cons.mp hp with rfl | hpl
    · rcases List.mem_cons.mp hq with rfl | hql
      · rfl
      · rw [not_same_of_lt (ha q hql)] at hsame
        cases hsame
    · rcases List.mem_cons.mp hq with rfl | hql
      · rw [FilePath.same_comm, not_same_of_lt (ha p hpl)] at hsame
        cases hsame
      · exact ih hl hpl hql

end

end RuleLint.Discovery
