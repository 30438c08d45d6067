import Mathlib.Data.List.Infix
import RuleLint.FilePath
import RuleLint.Proofs.FileTree.Join

/-!
# Resolving paths

A path is resolved without looking at a file tree: each `..` takes away the name before it. Without a `..` the
names of the path stay as they are (`resolved_of_not_mem`), and what is left below a directory is always among the
names that come after it (`sublist_of_foldl_resolveStep`).
-/

namespace RuleLint

def Component.name? : Component → Option (List Char)
  | name s => some s
  | _ => none

namespace FilePath

/-! ## Parts -/

theorem not_mem_of_mem_splitOn {sep : Char} {cs part : List Char} (h : part ∈ splitOn sep cs) : sep ∉ part := by
  induction cs generalizing part with
  | nil =>
    rw [List.mem_singleton.mp h]
    exact nofun
  | cons c cs ih =>
    rw [splitOn] at h
    split at h
    · rcases List.mem_cons.mp h with rfl | h
      · exact nofun
      · exact ih h
    · rename_i hc
      split at h
      · rw [List.mem_singleton.mp h, List.mem_singleton]
        exact Ne.symm hc
      · rename_i first parts hparts
        rw [hparts] at ih
        rcases List.mem_cons.mp h with rfl | h
        · rw [List.mem_cons, not_or]
          exact ⟨Ne.symm hc, ih List.mem_cons_self⟩
        · exact ih (List.mem_cons_of_mem _ h)

theorem splitOn_intercalate {sep : Char} {parts : List (List Char)} (hne : parts ≠ [])
    (h : ∀ part ∈ parts, sep ∉ part) : splitOn sep ([sep].intercalate parts) = parts := by
  induction parts with
  | nil => exact absurd rfl hne
  | cons part parts ih =>
    obtain ⟨hpart, hparts⟩ := List.forall_mem_cons.mp h
    cases parts with
    | nil => simpa using splitOn_of_not_mem hpart
    | cons next parts =>
      rw [List.intercalate_cons_cons, List.append_assoc, List.singleton_append, splitOn_append,
        splitOn_of_not_mem hpart, ih (by simp) hparts, List.singleton_append]

/-! ## Resolution -/

def resolveStep (names : List (List Char)) : Component → List (List Char)
  | .name s => names ++ [s]
  | .parent => names.dropLast
  | _ => names

/-- The names that are left of a path when each `..` takes away the name before it. -/
def resolved (p : FilePath) : List (List Char) := p.components.foldl resolveStep []

/-- A path as seen from a directory above it, both being resolved. -/
def resolvedBelow? (base path : FilePath) : Option (List Char) :=
  if base.resolved <+: path.resolved then
    some (['/'].intercalate (path.resolved.drop base.resolved.length))
  else none

section
variable {init rest : List (List Char)} {components : List Component} {p q : FilePath}

theorem foldl_resolveStep_of_not_mem (h : .parent ∉ components) :
    components.foldl resolveStep init = init ++ components.filterMap Component.name? := by
  induction components generalizing init with
  | nil => simp
  | cons c components ih =>
    rw [List.mem_cons, not_or] at h
    rw [List.foldl_cons, ih h.2]
    cases c with
    | parent => exact absurd rfl h.1
    | name s => simp [resolveStep, Component.name?]
    | root => rfl
    | here => rfl

theorem resolved_of_not_mem (h : .parent ∉ p.components) :
    p.resolved = p.components.filterMap Component.name? := by
  rw [resolved, foldl_resolveStep_of_not_mem h, List.nil_append]

theorem resolvedBelow?_eq_some {base : FilePath} {relative : List Char} :
    base.resolvedBelow? p = some relative ↔
      ∃ names, p.resolved = base.resolved ++ names ∧ relative = ['/'].intercalate names := by
  unfold resolvedBelow?
  constructor
  · intro h
    split at h
    · rename_i hprefix
      obtain ⟨names, hnames⟩ := hprefix
      rw [← hnames, List.drop_left] at h
      exact ⟨names, hnames.symm, (Option.some.inj h).symm⟩
    · cases h
  · rintro ⟨names, hnames, rfl⟩
    rw [if_pos ⟨names, hnames.symm⟩, hnames, List.drop_left]

theorem components_of_isAbsolute (h : p.isAbsolute) :
    p.components = .root :: (splitOn '/' p.text.toList).filterMap componentOf := by
  rw [components]
  exact if_pos h

theorem eq_name_of_mem {parts : List (List Char)} {c : Component} (h : c ∈ parts.filterMap componentOf)
    (hparent : c ≠ .parent) : ∃ s, c = .name s := by
  obtain ⟨part, -, hc⟩ := List.mem_filterMap.mp h
  unfold componentOf at hc
  split at hc
  · cases hc
  · cases hc
  · exact absurd (Option.some.inj hc).symm hparent
  · exact ⟨part, (Option.some.inj hc).symm⟩

theorem map_name_filterMap {components : List Component} (h : ∀ c ∈ components, ∃ s, c = .name s) :
    (components.filterMap Component.name?).map .name = components := by
  induction components with
  | nil => rfl
  | cons c components ih =>
    obtain ⟨⟨s, rfl⟩, hrest⟩ := List.forall_mem_cons.mp h
    rw [List.filterMap_cons, Component.name?, List.map_cons, ih hrest]

theorem filterMap_root_names (names : List (List Char)) :
    (Component.root :: names.map .name).filterMap Component.name? = names := by
  have hsome : Component.name? ∘ .name = some := rfl
  have hroot : (Component.root :: names.map .name).filterMap Component.name? =
      (names.map .name).filterMap Component.name? := rfl
  rw [hroot, List.filterMap_map, hsome, List.filterMap_some]

/-- A path without `..` is the names that it is resolved to. -/
theorem components_eq_of_not_mem (habsolute : p.isAbsolute) (h : .parent ∉ p.components) :
    p.components = .root :: p.resolved.map .name := by
  have hcomponents := components_of_isAbsolute habsolute
  have hnames : ∀ c ∈ (splitOn '/' p.text.toList).filterMap componentOf, ∃ s, c = .name s := by
    intro c hc
    refine eq_name_of_mem hc ?_
    rintro rfl
    exact h (hcomponents ▸ List.mem_cons_of_mem _ hc)
  rw [resolved_of_not_mem h, hcomponents]
  exact congrArg (Component.root :: ·) (map_name_filterMap hnames).symm

/-- What components leave of the names before them, and which of their own names they leave. -/
theorem exists_foldl_resolveStep (init : List (List Char)) (components : List Component) :
    ∃ n own, components.foldl resolveStep init = init.take n ++ own ∧
      own.Sublist (components.filterMap Component.name?) := by
  induction components generalizing init with
  | nil => exact ⟨init.length, [], by simp, List.Sublist.refl _⟩
  | cons c components ih =>
    obtain ⟨n, own, heq, hown⟩ := ih (resolveStep init c)
    rw [List.foldl_cons, heq]
    cases c with
    | name s =>
      simp only [resolveStep, List.filterMap_cons, Component.name?]
      by_cases hn : n ≤ init.length
      · exact ⟨n, own, by rw [List.take_append_of_le_length hn], hown.trans (List.sublist_cons_self _ _)⟩
      · have hall : (init ++ [s]).length ≤ n := by simp; omega
        exact ⟨init.length, s :: own, by simp [List.take_of_length_le hall], hown.cons_cons s⟩
    | parent =>
      refine ⟨min n (init.length - 1), own, ?_, hown⟩
      rw [resolveStep, List.dropLast_eq_take, List.take_take]
    | root => exact ⟨n, own, rfl, hown⟩
    | here => exact ⟨n, own, rfl, hown⟩

theorem sublist_of_foldl_resolveStep (h : components.foldl resolveStep init = init ++ rest) :
    rest.Sublist (components.filterMap Component.name?) := by
  obtain ⟨n, own, heq, hown⟩ := exists_foldl_resolveStep init components
  have hsplit : init.take n ++ (init.drop n ++ rest) = init.take n ++ own := by
    rw [← List.append_assoc, List.take_append_drop, ← h, heq]
  rw [← List.append_cancel_left hsplit] at hown
  exact (List.sublist_append_right _ _).trans hown

end

end FilePath

end RuleLint
