import RuleLint.Registry

/-!
# The languages of a registry

The registry with all languages has the grammar of each.
-/

namespace RuleLint.Registry

theorem grammarOf_eq_ok {r : Registry} {l : Language} {g : Grammar} :
    r.grammarOf l = .ok g ↔ r.grammar? l = some g := by
  unfold grammarOf
  cases r.grammar? l <;> simp

theorem grammarOf_eq_error {r : Registry} {l : Language} {e : LintError} :
    r.grammarOf l = .error e ↔ r.grammar? l = none ∧ e = r.unsupported l.name := by
  unfold grammarOf
  cases r.grammar? l <;> simp [eq_comm]

theorem grammar?_register (r : Registry) (language l : Language) (fetch : Unit → Grammar) :
    (r.register language fetch).grammar? l = if l = language then some (fetch ()) else r.grammar? l := by
  unfold register put grammar?
  by_cases h : l = language
  · simp [h, Slot.fresh, Slot.take]
  · simp [h]

theorem grammar?_ofLanguages (languages : List Language) (l : Language) :
    (ofLanguages languages).grammar? l = if l ∈ languages then some l.grammar else none := by
  suffices ∀ r : Registry, (languages.foldl (fun r l => r.register l fun _ => l.grammar) r).grammar? l =
      if l ∈ languages then some l.grammar else r.grammar? l from this empty
  induction languages with
  | nil => simp
  | cons first languages ih =>
    intro r
    rw [List.foldl_cons, ih, grammar?_register]
    by_cases h : l = first
    · simp [h]
    · simp [h]

theorem grammarOf_full (l : Language) : full.grammarOf l = .ok l.grammar := by
  rw [grammarOf, full, grammar?_ofLanguages, if_pos (Language.mem_all l)]

end RuleLint.Registry
