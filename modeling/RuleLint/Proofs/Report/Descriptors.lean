import RuleLint.Proofs.Linting.Origin
import RuleLint.Proofs.Report.Values

/-!
# Descriptors of rules

The interchange format names each rule by its domain and its identifier, and has a descriptor for each name
(`map_name_descriptors`), which is that of the first rule with the name (`find?_descriptors`). A result gives
the place of the descriptor that has the name of its rule (`refersTo_of_find?`).
-/

namespace RuleLint.Sarif

/-! ## Names -/

def ruleNames (sets : List RuleSet) : List String :=
  sets.flatMap fun s => s.rules.map fun rule => s.domain ++ "/" ++ rule.id

/-- Of what is added to a list the first of each name stays. -/
theorem map_name_foldl (l acc : List Descriptor) :
    (l.foldl (fun acc d => if acc.any (·.name = d.name) then acc else acc ++ [d]) acc).map Descriptor.name =
      acc.map Descriptor.name ++
        ((l.map Descriptor.name).filter fun name => name ∉ acc.map Descriptor.name).eraseDups := by
  induction l generalizing acc with
  | nil => simp
  | cons d l ih =>
    rw [List.foldl_cons, ih, List.map_cons]
    by_cases hd : d.name ∈ acc.map Descriptor.name
    · have hany : acc.any (fun e => e.name = d.name) := by simpa using hd
      rw [if_pos hany, List.filter_cons_of_neg (by simpa using hd)]
    · have hany : ¬ acc.any (fun e => e.name = d.name) := by simpa using hd
      have hfilter : ∀ name, decide (name ∉ (acc ++ [d]).map Descriptor.name) =
          (!(name == d.name) && decide (name ∉ acc.map Descriptor.name)) := by
        intro name
        by_cases h : name = d.name <;> simp [h]
      rw [if_neg hany, List.filter_cons_of_pos (by simpa using hd), List.eraseDups_cons, List.filter_filter,
        List.map_append, List.append_assoc]
      simp only [← List.map_append, hfilter]
      rfl

/-- There is a descriptor for each name, in the order in which the names come up. -/
theorem map_name_descriptors (sets : List RuleSet) :
    (descriptors sets).map Descriptor.name = (ruleNames sets).eraseDups := by
  have hnames : (sets.flatMap fun s => s.rules.map fun rule =>
      (⟨ruleName s.domain rule.id, s.domain, rule⟩ : Descriptor)).map Descriptor.name = ruleNames sets := by
    rw [List.map_flatMap]
    simp only [List.map_map]
    rfl
  unfold descriptors
  dsimp only
  rw [map_name_foldl, hnames]
  simp

theorem nodup_eraseDups (l : List String) : l.eraseDups.Nodup := by
  induction hn : l.length using Nat.strong_induction_on generalizing l with
  | _ n ih =>
    cases l with
    | nil => exact List.nodup_nil
    | cons a l =>
      rw [List.eraseDups_cons, List.nodup_cons]
      refine ⟨by simp, ih _ ?_ _ rfl⟩
      rw [← hn, List.length_cons]
      exact Nat.lt_succ_of_le (List.length_filter_le _ _)

def rulePairs (sets : List RuleSet) : List (String × String) :=
  sets.flatMap fun s => s.rules.map fun rule => (s.domain, rule.id)

def firstNamed (sets : List RuleSet) (name : String) : Option (String × String) :=
  (rulePairs sets).find? fun r => ruleName r.1 r.2 = name

theorem find?_foldl (l acc : List Descriptor) (name : String) :
    (l.foldl (fun acc d => if acc.any (·.name = d.name) then acc else acc ++ [d]) acc).find? (·.name = name) =
      (acc ++ l).find? (·.name = name) := by
  induction l generalizing acc with
  | nil => rw [List.foldl_nil, List.append_nil]
  | cons d l ih =>
    rw [List.foldl_cons, ih]
    split
    · rename_i hany
      obtain ⟨e, he, hname⟩ := List.any_eq_true.mp hany
      rw [List.find?_append, List.find?_append]
      cases hacc : acc.find? (·.name = name) with
      | some first => rfl
      | none =>
        -- a descriptor that is left out has the name of one that stays
        have hne : ¬ d.name = name := by
          rw [← of_decide_eq_true hname]
          simpa using List.find?_eq_none.mp hacc e he
        rw [List.find?_cons_of_neg (by simpa using hne)]
    · rw [List.append_assoc, List.singleton_append]

/-- The descriptor of a name is that of the first rule with the name. -/
theorem find?_descriptors (sets : List RuleSet) (name : String) :
    ((descriptors sets).find? (·.name = name)).map (fun d => (d.domain, d.rule.id)) = firstNamed sets name := by
  let all := sets.flatMap fun s => s.rules.map fun rule => (s, rule)
  have hpairs : rulePairs sets = all.map fun r => (r.1.domain, r.2.id) := by
    simp only [all, rulePairs, List.map_flatMap, List.map_map]
    rfl
  have hall : (sets.flatMap fun s => s.rules.map fun rule =>
      (⟨ruleName s.domain rule.id, s.domain, rule⟩ : Descriptor)) =
      all.map fun r => ⟨ruleName r.1.domain r.2.id, r.1.domain, r.2⟩ := by
    simp only [all, List.map_flatMap, List.map_map]
    rfl
  unfold descriptors firstNamed
  dsimp only
  rw [find?_foldl, List.nil_append, hall, hpairs, List.find?_map, List.find?_map, Option.map_map]
  rfl

theorem mem_rulePairs {sets : List RuleSet} {s : RuleSet} {rule : Rule} (hs : s ∈ sets)
    (hrule : rule ∈ s.rules) : (s.domain, rule.id) ∈ rulePairs sets :=
  List.mem_flatMap.mpr ⟨s, hs, List.mem_map.mpr ⟨rule, hrule, rfl⟩⟩

theorem exists_descriptor {sets : List RuleSet} {domain id : String} (h : (domain, id) ∈ rulePairs sets) :
    ∃ d, (descriptors sets).find? (·.name = ruleName domain id) = some d ∧ d.name = ruleName domain id := by
  have hfirst : (firstNamed sets (ruleName domain id)).isSome :=
    List.find?_isSome.mpr ⟨(domain, id), h, decide_eq_true rfl⟩
  rw [← find?_descriptors, Option.isSome_map] at hfirst
  obtain ⟨d, hd⟩ := Option.isSome_iff_exists.mp hfirst
  exact ⟨d, hd, by simpa using List.find?_some hd⟩

/-! ## Values -/

theorem id_toJson (d : Descriptor) : d.toJson.get? "id" = some (.str d.name) := by
  simp [Descriptor.toJson]

theorem properties_toJson (d : Descriptor) :
    (memberOf d.toJson "properties").get? "domain" = some (.str d.domain) ∧
      (memberOf d.toJson "properties").get? "ruleId" = some (.str d.rule.id) := by
  cases h : d.rule.language? <;> simp [Descriptor.toJson, memberOf, h]

section
variable (known : List Descriptor) (domain : String) (f : Finding)

theorem ruleId_resultJson :
    (resultJson known domain f).get? "ruleId" = some (.str (ruleName domain f.ruleId)) := by
  unfold resultJson
  dsimp only
  cases known.findIdx? fun d => d.name = ruleName domain f.ruleId <;> simp

theorem domain_resultJson :
    (memberOf (resultJson known domain f) "properties").get? "domain" = some (.str domain) := by
  unfold resultJson
  dsimp only
  cases known.findIdx? fun d => d.name = ruleName domain f.ruleId <;> simp [memberOf]

theorem ruleIndex_resultJson : (resultJson known domain f).get? "ruleIndex" =
    (known.findIdx? fun d => d.name = ruleName domain f.ruleId).map Json.nat := by
  unfold resultJson
  dsimp only
  cases known.findIdx? fun d => d.name = ruleName domain f.ruleId with
  | none =>
    simp
    rfl
  | some i => simp

theorem descriptor_notificationJson (e : RuleError) :
    (memberOf (notificationJson domain e) "descriptor").get? "id" = some (.str (ruleName domain e.ruleId)) := by
  simp [notificationJson, memberOf]

end

section
variable {guid : String} {summaries : List Summary} {sets : List RuleSet}

theorem rulesIn_toJson : rulesIn (toJson guid summaries sets) = (descriptors sets).map Descriptor.toJson := by
  unfold rulesIn toJson
  simp [firstOf, memberOf, itemsOf, Json.arr?]

/-- A result gives the place of the descriptor that has the name of its rule. -/
theorem refersTo_of_find? {domain : String} {f : Finding} {d : Descriptor}
    (h : (descriptors sets).find? (·.name = ruleName domain f.ruleId) = some d) :
    RefersTo (toJson guid summaries sets) (resultJson (descriptors sets) domain f) d.toJson := by
  obtain ⟨hname, i, hlt, hd, hbefore⟩ := List.find?_eq_some_iff_getElem.mp h
  have hi : (descriptors sets).findIdx? (fun d => d.name = ruleName domain f.ruleId) = some i :=
    List.findIdx?_eq_some_iff_getElem.mpr ⟨hlt, hd ▸ hname, fun j hj => by simpa using hbefore j hj⟩
  refine ⟨i, ?_, ?_⟩
  · rw [ruleIndex_resultJson, hi]
    rfl
  · rw [rulesIn_toJson, List.getElem?_map, List.getElem?_eq_getElem hlt, hd]
    rfl

end

end RuleLint.Sarif
