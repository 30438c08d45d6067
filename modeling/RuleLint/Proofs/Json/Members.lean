import RuleLint.Json.Basic

/-!
# Members of objects

The members of an object can be given in any order, and of several with one key the last one counts
(`get?_ofMembers`).
-/

namespace RuleLint

namespace Json

@[simp]
theorem get?_cons (k : String) (v : Json) (members : List (String × Json)) (key : String) :
    (obj ((k, v) :: members)).get? key = if k = key then some v else (obj members).get? key := by
  by_cases h : k = key <;> simp [get?, h]

theorem find?_setMember (key : String) (value : Json) (members : List (String × Json)) (k : String) :
    (setMember key value members).find? (fun m => m.1 = k) =
      if key = k then some (key, value) else members.find? fun m => m.1 = k := by
  induction members with
  | nil => by_cases h : key = k <;> simp [setMember, h]
  | cons m members ih =>
    obtain ⟨name, old⟩ := m
    unfold setMember
    by_cases hkey : key = name
    · subst hkey
      by_cases h : key = k <;> simp [h]
    · rw [if_neg hkey]
      split
      · by_cases h : key = k <;> simp [h]
      · rw [List.find?_cons, List.find?_cons]
        by_cases h : name = k
        · subst h
          simp [hkey]
        · simpa [h] using ih

/-- Of several members with one key the last one counts. -/
@[simp]
theorem get?_ofMembers (members : List (String × Json)) (k : String) :
    (ofMembers members).get? k = (obj members.reverse).get? k := by
  have hfold : ∀ acc : List (String × Json),
      (members.foldl (fun acc m => setMember m.1 m.2 acc) acc).find? (fun m => m.1 = k) =
        (members.reverse ++ acc).find? fun m => m.1 = k := by
    induction members with
    | nil => exact fun acc => rfl
    | cons m members ih =>
      intro acc
      obtain ⟨key, value⟩ := m
      rw [List.foldl_cons, ih, List.reverse_cons, List.append_assoc, List.find?_append, List.find?_append,
        find?_setMember, List.singleton_append, List.find?_cons]
      by_cases h : key = k <;> simp [h]
  have hfind := hfold []
  rw [List.append_nil] at hfind
  exact congrArg (Option.map (·.2)) hfind

end Json

end RuleLint
