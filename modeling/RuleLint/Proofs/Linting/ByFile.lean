import Mathlib.Data.List.Basic
import RuleLint.Linting.Files
import RuleLint.Proofs.PathOrder

/-!
# Findings in order of files

Sorting by file keeps the findings of each file in the order in which they were found. Two lists are
sorted alike exactly if each file has the same findings in the same order in both
(`sortByFile_eq_iff`), and findings can be picked before they are sorted or afterwards.
-/

namespace RuleLint.Linting

/-- Whether a finding is in a file, however the path of the file is written. -/
def inFile (p : FilePath) (f : Finding) : Bool := f.file.same p

def ByFile (l : List Finding) : Prop := l.Pairwise fun a b => a.file.le b.file

theorem inFile_self (f : Finding) : inFile f.file f :=
  FilePath.same_iff.mpr rfl

theorem inFile_congr {p q : FilePath} (h : p.same q) : inFile p = inFile q := by
  funext f
  rw [inFile, inFile, FilePath.same, FilePath.same, FilePath.same_iff.mp h]

theorem inFile_of_le {a b : Finding} (h₁ : a.file.le b.file) (h₂ : b.file.le a.file) :
    inFile b.file a :=
  FilePath.same_iff_le.mpr ⟨h₁, h₂⟩

theorem le_of_inFile {p : FilePath} {a b : Finding} (ha : inFile p a) (hb : inFile p b) :
    a.file.le b.file := by
  unfold inFile at ha hb
  rw [FilePath.same_iff] at ha hb
  exact (FilePath.same_iff_le.mp (FilePath.same_iff.mpr (ha.trans hb.symm))).1

/-! ## Sorting -/

theorem byFile_sortByFile (l : List Finding) : ByFile (sortByFile l) := by
  apply List.pairwise_mergeSort
  · intro a b c
    exact FilePath.le_trans
  · intro a b
    simpa using FilePath.le_total a.file b.file

theorem sublist_sortByFile {s l : List Finding} (hs : ByFile s) (h : s.Sublist l) :
    s.Sublist (sortByFile l) := by
  apply List.sublist_mergeSort _ _ hs h
  · intro a b c
    exact FilePath.le_trans
  · intro a b
    simpa using FilePath.le_total a.file b.file

theorem sortByFile_perm (l : List Finding) : (sortByFile l).Perm l := List.mergeSort_perm l _

theorem byFile_filter_inFile (p : FilePath) (l : List Finding) : ByFile (l.filter (inFile p)) := by
  unfold ByFile
  rw [List.pairwise_filter]
  exact List.pairwise_of_forall fun a b ha hb => le_of_inFile ha hb

/-- The findings of one file stay in the order in which they were found. -/
theorem filter_inFile_sortByFile (p : FilePath) (l : List Finding) :
    (sortByFile l).filter (inFile p) = l.filter (inFile p) := by
  have hsub : (l.filter (inFile p)).Sublist (sortByFile l) :=
    sublist_sortByFile (byFile_filter_inFile p l) List.filter_sublist
  have hfilter : (l.filter (inFile p)).Sublist ((sortByFile l).filter (inFile p)) := by
    have := hsub.filter (inFile p)
    simpa only [List.filter_filter, Bool.and_self] using this
  have hlen := ((sortByFile_perm l).filter (inFile p)).length_eq
  exact (hfilter.eq_of_length hlen.symm).symm

/-! ## Comparing lists file by file -/

/-- In a list in order of files the findings of the first file come first. -/
theorem head_inFile {a : Finding} {l : List Finding} (h : ByFile (a :: l)) {b : Finding}
    (hb : b ∈ a :: l) : a.file.le b.file := by
  rcases List.mem_cons.mp hb with rfl | hb
  · exact le_of_inFile (inFile_self _) (inFile_self _)
  · exact List.rel_of_pairwise_cons h hb

theorem mem_iff_of_filter_inFile {l₁ l₂ : List Finding}
    (h : ∀ p, l₁.filter (inFile p) = l₂.filter (inFile p)) (f : Finding) : f ∈ l₁ ↔ f ∈ l₂ := by
  have := congrArg (f ∈ ·) (h f.file)
  simpa [List.mem_filter, inFile_self] using this

theorem byFile_ext {l₁ l₂ : List Finding} (h₁ : ByFile l₁) (h₂ : ByFile l₂)
    (h : ∀ p, l₁.filter (inFile p) = l₂.filter (inFile p)) : l₁ = l₂ := by
  induction l₁ generalizing l₂ with
  | nil =>
    symm
    refine List.eq_nil_iff_forall_not_mem.mpr fun f hf => ?_
    simpa using (mem_iff_of_filter_inFile h f).mpr hf
  | cons a l₁ ih =>
    cases l₂ with
    | nil => simpa using mem_iff_of_filter_inFile h a
    | cons b l₂ =>
      have hab : a.file.le b.file := head_inFile h₁ ((mem_iff_of_filter_inFile h b).mpr (by simp))
      have hba : b.file.le a.file := head_inFile h₂ ((mem_iff_of_filter_inFile h a).mp (by simp))
      have heq : a = b := by
        have := h b.file
        rw [List.filter_cons_of_pos (inFile_of_le hab hba),
          List.filter_cons_of_pos (inFile_self b)] at this
        exact (List.cons.inj this).1
      subst heq
      rw [ih (List.Pairwise.of_cons h₁) (List.Pairwise.of_cons h₂)]
      intro p
      have := h p
      by_cases hp : inFile p a
      · rw [List.filter_cons_of_pos hp, List.filter_cons_of_pos hp] at this
        exact (List.cons.inj this).2
      · rwa [List.filter_cons_of_neg hp, List.filter_cons_of_neg hp] at this

theorem sortByFile_eq_iff {l₁ l₂ : List Finding} :
    sortByFile l₁ = sortByFile l₂ ↔ ∀ p, l₁.filter (inFile p) = l₂.filter (inFile p) := by
  constructor
  · intro h p
    rw [← filter_inFile_sortByFile p l₁, ← filter_inFile_sortByFile p l₂, h]
  · intro h
    apply byFile_ext (byFile_sortByFile l₁) (byFile_sortByFile l₂)
    intro p
    rw [filter_inFile_sortByFile, filter_inFile_sortByFile, h p]

/-- Findings can be picked before they are sorted or afterwards. -/
theorem filter_sortByFile (q : Finding → Bool) (l : List Finding) :
    (sortByFile l).filter q = sortByFile (l.filter q) := by
  apply byFile_ext
  · exact List.Pairwise.filter q (byFile_sortByFile l)
  · exact byFile_sortByFile _
  · intro p
    rw [filter_inFile_sortByFile, List.filter_comm, filter_inFile_sortByFile, List.filter_comm]

end RuleLint.Linting
