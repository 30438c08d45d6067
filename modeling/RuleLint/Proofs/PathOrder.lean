import RuleLint.FilePath

/-!
# The order of paths

Paths are ordered by their components: `le` is total and transitive, and two paths that are each
before the other are spellings of one path.
-/

namespace RuleLint

namespace Component

/-! ## Texts -/

theorem compareText_eq : compareText = List.compareLex (compareOn Char.toNat) := by
  funext s t
  induction s generalizing t with
  | nil => cases t <;> rfl
  | cons a s ih =>
    cases t with
    | nil => rfl
    | cons b t => rw [compareText, List.compareLex_cons_cons, ih]; rfl

instance : Std.LawfulEqCmp (compareOn Char.toNat) where
  eq_of_compare h := Char.toNat_inj.mp (Nat.compare_eq_eq.mp h)

instance : Std.TransCmp compareText := by
  rw [compareText_eq]; infer_instance

instance : Std.LawfulEqCmp compareText := by
  rw [compareText_eq]; infer_instance

/-! ## Components -/

def nameText : Component → List Char
  | name s => s
  | _ => []

def compareName (a b : Component) : Ordering := compareText a.nameText b.nameText

theorem compare_eq : compare = compareLex (compareOn rank) compareName := by
  funext a b
  cases a <;> cases b <;> rfl

instance : Std.TransCmp compareName where
  eq_swap {a b} := @Std.OrientedCmp.eq_swap _ compareText _ a.nameText b.nameText
  isLE_trans {a b c} := @Std.TransCmp.isLE_trans _ compareText _ a.nameText b.nameText c.nameText

instance : Std.TransCmp compare := by
  rw [compare_eq]; infer_instance

theorem eq_of_rank_nameText {a b : Component} (hr : a.rank = b.rank) (hn : a.nameText = b.nameText) :
    a = b := by
  cases a <;> cases b <;> simp_all [rank, nameText]

instance : Std.LawfulEqCmp compare where
  eq_of_compare {a b} h := by
    rw [compare_eq, compareLex_eq_eq] at h
    exact eq_of_rank_nameText (Nat.compare_eq_eq.mp h.1) (Std.LawfulEqCmp.eq_of_compare h.2)

end Component

namespace FilePath

/-! ## Paths -/

theorem compareComponents_eq : compareComponents = List.compareLex Component.compare := by
  funext s t
  induction s generalizing t with
  | nil => cases t <;> rfl
  | cons a s ih =>
    cases t with
    | nil => rfl
    | cons b t => rw [compareComponents, List.compareLex_cons_cons, ih]

instance : Std.TransCmp compareComponents := by
  rw [compareComponents_eq]; infer_instance

instance : Std.LawfulEqCmp compareComponents := by
  rw [compareComponents_eq]; infer_instance

theorem le_iff {p q : FilePath} : p.le q ↔ (compareComponents p.components q.components).isLE := by
  unfold le compare
  cases compareComponents p.components q.components <;> decide

theorem le_trans {p q s : FilePath} (h₁ : p.le q) (h₂ : q.le s) : p.le s :=
  le_iff.mpr (Std.TransCmp.isLE_trans (le_iff.mp h₁) (le_iff.mp h₂))

theorem le_total (p q : FilePath) : p.le q ∨ q.le p := by
  have hswap : compareComponents q.components p.components =
      (compareComponents p.components q.components).swap := Std.OrientedCmp.eq_swap
  rw [le_iff, le_iff, hswap]
  cases compareComponents p.components q.components <;> simp

theorem same_iff {p q : FilePath} : p.same q ↔ p.components = q.components := by
  unfold same
  exact beq_iff_eq

theorem same_iff_le {p q : FilePath} : p.same q ↔ p.le q ∧ q.le p := by
  rw [same_iff, le_iff, le_iff]
  constructor
  · intro h
    rw [h]
    simp [Std.ReflCmp.compare_self]
  · intro ⟨h₁, h₂⟩
    exact Std.LawfulEqCmp.eq_of_compare (Std.OrientedCmp.isLE_antisymm h₁ h₂)

theorem same_comm {p q : FilePath} : p.same q = q.same p := by
  unfold same
  exact Bool.beq_comm

section
variable {p q s : FilePath}

theorem same_symm (h : p.same q) : q.same p := by
  rwa [same_comm]

theorem same_trans (h₁ : p.same q) (h₂ : q.same s) : p.same s := by
  rw [same_iff] at h₁ h₂ ⊢
  exact h₁.trans h₂

def Before (p q : FilePath) : Prop := p.le q ∧ ¬ p.same q

theorem Before.trans (h₁ : p.Before q) (h₂ : q.Before s) : p.Before s := by
  refine ⟨le_trans h₁.1 h₂.1, fun hsame => h₂.2 ?_⟩
  exact same_iff_le.mpr ⟨h₂.1, le_trans (same_iff_le.mp hsame).2 h₁.1⟩

theorem Before.of_same (hsame : p.same q) (h : q.Before s) : p.Before s :=
  ⟨le_trans (same_iff_le.mp hsame).1 h.1, fun hps => h.2 (same_trans (same_symm hsame) hps)⟩

end

end FilePath

end RuleLint
