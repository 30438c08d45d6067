import Mathlib.Data.List.Basic
import RuleLint.Policy

/-!
# What a policy leaves

A policy looks at each finding by itself (`apply_eq_filterMap`): it keeps the finding, with the severity that it counts
with, or drops it. A higher floor drops more and changes nothing else (`apply_floor`), and a policy leaves alone what it
has left (`apply_apply`).
-/

namespace RuleLint

namespace Severity

section
variable {a b c : Severity}

theorem le_trans (hab : a ≤ b) (hbc : b ≤ c) : a ≤ c := Nat.le_trans hab hbc

theorem guidance_le (a : Severity) : guidance ≤ a := Nat.zero_le a.rank

theorem must_le_of_isBlocking (h : a.isBlocking) : must ≤ a := by
  cases a <;> first | decide | cases h

end

end Severity

namespace Policy

def counted? (p : Policy) (domain : String) (f : Finding) : Option Finding :=
  if p.ignores domain f.ruleId then none
  else if p.floor ≤ p.severityOf domain f then some { f with severity := p.severityOf domain f }
  else none

section
variable {p : Policy} {domain : String} {f g : Finding}

theorem apply_eq_filterMap (p : Policy) (domain : String) (l : List Finding) :
    p.apply domain l = l.filterMap (p.counted? domain) := by
  unfold apply
  induction l with
  | nil => rfl
  | cons f l ih =>
    rw [List.filterMap_cons, counted?, ← ih]
    cases hignored : p.ignores domain f.ruleId with
    | true => simp [hignored]
    | false =>
      by_cases hfloor : p.floor ≤ p.severityOf domain f
      · simp [hignored, hfloor]
      · simp [hignored, hfloor]

/-- What a finding that counts has kept, and why it does. -/
theorem counted?_eq_some : p.counted? domain f = some g ↔ p.ignores domain f.ruleId = false ∧
    p.floor ≤ p.severityOf domain f ∧ g = { f with severity := p.severityOf domain f } := by
  unfold counted?
  cases p.ignores domain f.ruleId with
  | true => simp
  | false =>
    by_cases hfloor : p.floor ≤ p.severityOf domain f
    · simp [hfloor, eq_comm]
    · simp [hfloor]

/-- A finding that counts does so with the severity that it has then. -/
theorem severityOf_counted {v : Severity} (h : p.severityOf domain f = v) :
    p.severityOf domain { f with severity := v } = v := by
  subst h
  unfold severityOf
  cases (p.override? (qualified domain f.ruleId)).or (p.override? f.ruleId) <;> rfl

theorem counted?_counted (h : p.counted? domain f = some g) : p.counted? domain g = some g := by
  obtain ⟨hignored, hfloor, rfl⟩ := counted?_eq_some.mp h
  have hseverity : p.severityOf domain { f with severity := p.severityOf domain f } = p.severityOf domain f :=
    severityOf_counted rfl
  refine counted?_eq_some.mpr ⟨hignored, ?_, ?_⟩
  · rw [hseverity]
    exact hfloor
  · rw [hseverity]

theorem counted?_floor {m m' : Severity} (h : m ≤ m') :
    ({ p with floor := m' } : Policy).counted? domain f =
      (({ p with floor := m } : Policy).counted? domain f).filter (m' ≤ ·.severity) := by
  have hignores : ∀ m, ({ p with floor := m } : Policy).ignores domain f.ruleId = p.ignores domain f.ruleId :=
    fun m => rfl
  have hseverity : ∀ m, ({ p with floor := m } : Policy).severityOf domain f = p.severityOf domain f := fun m => rfl
  unfold counted?
  simp only [hignores, hseverity]
  cases p.ignores domain f.ruleId with
  | true => rfl
  | false =>
    by_cases hfloor : m' ≤ p.severityOf domain f
    · simp [Option.filter, hfloor, Severity.le_trans h hfloor]
    · by_cases hlower : m ≤ p.severityOf domain f <;> simp [Option.filter, hfloor, hlower]

end

/-! ## Laws -/

theorem apply_floor (p : Policy) (domain : String) (l : List Finding) {m m' : Severity} (h : m ≤ m') :
    ({ p with floor := m' } : Policy).apply domain l =
      (({ p with floor := m } : Policy).apply domain l).filter (m' ≤ ·.severity) := by
  rw [apply_eq_filterMap, apply_eq_filterMap, List.filter_filterMap]
  exact List.filterMap_congr fun f _ => counted?_floor h

theorem apply_apply (p : Policy) (domain : String) (l : List Finding) :
    p.apply domain (p.apply domain l) = p.apply domain l := by
  simp only [apply_eq_filterMap, List.filterMap_filterMap]
  refine List.filterMap_congr fun f _ => ?_
  cases h : p.counted? domain f with
  | none => rfl
  | some g => exact counted?_counted h

end Policy

end RuleLint
