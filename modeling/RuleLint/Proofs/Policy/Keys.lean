import RuleLint.Proofs.FileTree.Join
import RuleLint.Proofs.Policy
import RuleLint.Rule.Document

/-!
# Keys of rules

A policy knows a rule by two keys, its identifier and its domain with its identifier, and looks both up in one list. A
key that is added to a policy acts on the findings of the rules that it names and on no others (`qualifiedKey_acts`).
The key of a rule in one domain names rules of other domains too if an identifier holds a separator
(`qualifiedKey_namesOthers`).
-/

namespace RuleLint

theorem Severity.exists_ne (v : Severity) : ∃ w, w ≠ v := by
  cases v with
  | never => exact ⟨.must, by decide⟩
  | must | should | guidance => exact ⟨.never, by decide⟩

namespace Policy

/-- A key names a rule by its identifier, in every domain, or by its domain and its identifier. -/
def Names (key domain id : String) : Prop := key = id ∨ key = qualified domain id

instance (key domain id : String) : Decidable (Names key domain id) :=
  inferInstanceAs (Decidable (_ ∨ _))

/-! ## Policies with a key more -/

structure Ignoring (key : String) (p p' : Policy) : Prop where
  floor : p'.floor = p.floor
  ignored : ∀ k, k ∈ p'.ignored ↔ k = key ∨ k ∈ p.ignored
  override : ∀ k, p'.override? k = p.override? k

structure Overriding (key : String) (v : Severity) (p p' : Policy) : Prop where
  floor : p'.floor = p.floor
  ignored : ∀ k, k ∈ p'.ignored ↔ k ∈ p.ignored
  override : ∀ k, p'.override? k = if k = key then some v else p.override? k

structure AgreeBut (key : String) (p p' : Policy) : Prop where
  floor : p'.floor = p.floor
  ignored : ∀ k, k ≠ key → (k ∈ p'.ignored ↔ k ∈ p.ignored)
  override : ∀ k, k ≠ key → p'.override? k = p.override? k

section
variable {key domain id : String} {v : Severity} {p p' : Policy} {f g : Finding} {l : List Finding}

theorem Ignoring.agreeBut (h : Ignoring key p p') : AgreeBut key p p' where
  floor := h.floor
  ignored k hk := by rw [h.ignored, or_iff_right hk]
  override k _ := h.override k

theorem Overriding.agreeBut (h : Overriding key v p p') : AgreeBut key p p' where
  floor := h.floor
  ignored k _ := h.ignored k
  override k hk := by rw [h.override, if_neg hk]

/-! ## Findings that a key does not name -/

theorem AgreeBut.counted?_eq (h : AgreeBut key p p') (hf : ¬ Names key domain f.ruleId) :
    p'.counted? domain f = p.counted? domain f := by
  have hid : f.ruleId ≠ key := fun heq => hf (.inl heq.symm)
  have hqualified : qualified domain f.ruleId ≠ key := fun heq => hf (.inr heq.symm)
  have hignores : p'.ignores domain f.ruleId = p.ignores domain f.ruleId := by
    simp [ignores, h.ignored _ hid, h.ignored _ hqualified]
  have hseverity : p'.severityOf domain f = p.severityOf domain f := by
    rw [severityOf, severityOf, h.override _ hid, h.override _ hqualified]
  rw [counted?, counted?, hignores, hseverity, h.floor]

theorem AgreeBut.apply_eq (h : AgreeBut key p p') (hl : ∀ f ∈ l, ¬ Names key domain f.ruleId) :
    p'.apply domain l = p.apply domain l := by
  rw [apply_eq_filterMap, apply_eq_filterMap]
  exact List.filterMap_congr fun f hf => h.counted?_eq (hl f hf)

theorem ruleId_of_counted? (h : p.counted? domain f = some g) : g.ruleId = f.ruleId := by
  obtain ⟨-, -, rfl⟩ := counted?_eq_some.mp h
  rfl

/-- Findings can be chosen by their rules before a policy is applied or after. -/
theorem filter_apply (q : String → Bool) :
    (p.apply domain l).filter (fun f => q f.ruleId) = p.apply domain (l.filter fun f => q f.ruleId) := by
  rw [apply_eq_filterMap, apply_eq_filterMap, List.filter_filterMap, List.filterMap_filter]
  refine List.filterMap_congr fun f _ => ?_
  cases h : p.counted? domain f with
  | none => cases q f.ruleId <;> rfl
  | some g =>
    rw [Option.filter, ruleId_of_counted? h]

theorem AgreeBut.filter_apply_eq (h : AgreeBut key p p') (q : String → Bool)
    (hl : ∀ f ∈ l, q f.ruleId → ¬ Names key domain f.ruleId) :
    (p'.apply domain l).filter (fun f => q f.ruleId) = (p.apply domain l).filter fun f => q f.ruleId := by
  rw [filter_apply, filter_apply]
  refine h.apply_eq fun f hf => ?_
  obtain ⟨hf, hq⟩ := List.mem_filter.mp hf
  exact hl f hf hq

/-! ## Findings that a key names -/

theorem default_apply (domain : String) (l : List Finding) : default.apply domain l = l := by
  have hcounted : ∀ f, default.counted? domain f = some f := fun f =>
    counted?_eq_some.mpr ⟨rfl, Severity.guidance_le _, rfl⟩
  rw [apply_eq_filterMap, List.filterMap_congr fun f _ => hcounted f, List.filterMap_some]

theorem ignoring_default (key : String) : Ignoring key default { default with ignored := [key] } where
  floor := rfl
  ignored k := by simp [default]
  override _ := rfl

theorem overriding_default (key : String) (v : Severity) :
    Overriding key v default { default with overrides := [(key, v)] } where
  floor := rfl
  ignored _ := Iff.rfl
  override k := by
    by_cases hk : k = key
    · simp [override?, hk]
    · simp [override?, hk, Ne.symm hk, default]

theorem ignores_of_names (hkey : key ∈ p.ignored) (h : Names key domain id) : p.ignores domain id := by
  rcases h with rfl | rfl <;> simp [ignores, hkey]

theorem severityOf_of_names (hkey : ∀ k, p.override? k = if k = key then some v else none)
    (h : Names key domain f.ruleId) : p.severityOf domain f = v := by
  rw [severityOf, hkey, hkey]
  rcases h with h | h
  · rw [if_pos h.symm]
    split <;> rfl
  · rw [if_pos h.symm]
    rfl

/-- What a policy leaves is not ignored and has the severity that it counts with. -/
theorem of_mem_apply (h : g ∈ p.apply domain l) :
    p.ignores domain g.ruleId = false ∧ p.severityOf domain g = g.severity := by
  rw [apply_eq_filterMap] at h
  obtain ⟨f, -, hf⟩ := List.mem_filterMap.mp h
  obtain ⟨hignored, -, hg⟩ := counted?_eq_some.mp (counted?_counted hf)
  exact ⟨hignored, (congrArg Finding.severity hg).symm⟩

theorem apply_ignoring_iff : (∀ p p', Ignoring key p p' → p'.apply domain l = p.apply domain l) ↔
    ∀ f ∈ l, ¬ Names key domain f.ruleId := by
  constructor
  · intro h f hf hnames
    have happly := h _ _ (ignoring_default key)
    rw [default_apply] at happly
    obtain ⟨hignored, -⟩ := of_mem_apply (happly ▸ hf)
    rw [ignores_of_names (List.mem_singleton_self key) hnames] at hignored
    cases hignored
  · exact fun h p p' hp => hp.agreeBut.apply_eq h

theorem apply_overriding_iff : (∀ p p' v, Overriding key v p p' → p'.apply domain l = p.apply domain l) ↔
    ∀ f ∈ l, ¬ Names key domain f.ruleId := by
  constructor
  · intro h f hf hnames
    obtain ⟨v, hv⟩ := f.severity.exists_ne
    have happly := h _ _ v (overriding_default key v)
    rw [default_apply] at happly
    obtain ⟨-, hseverity⟩ := of_mem_apply (happly ▸ hf)
    rw [severityOf_of_names (overriding_default key v).override hnames] at hseverity
    exact hv hseverity
  · exact fun h p p' v hp => hp.agreeBut.apply_eq h

/-! ## Keys without a separator in the identifier -/

theorem qualified_inj {domain' id' : String} (hid : '/' ∉ id.toList) (hid' : '/' ∉ id'.toList)
    (h : qualified domain id = qualified domain' id') : domain = domain' ∧ id = id' := by
  have hparts := congrArg (fun s => FilePath.splitOn '/' s.toList) h
  unfold qualified at h hparts
  rw [FilePath.splitOn_text_append _ hid, FilePath.splitOn_text_append _ hid'] at hparts
  obtain ⟨-, hlast⟩ := List.append_inj' hparts rfl
  obtain rfl := String.toList_inj.mp (List.singleton_inj.mp hlast)
  refine ⟨String.toList_inj.mp ?_, rfl⟩
  have hchars := congrArg String.toList h
  simpa using hchars

theorem names_qualified_iff {domain' id' : String} (hid : '/' ∉ id.toList) (hid' : '/' ∉ id'.toList) :
    Names (qualified domain id) domain' id' ↔ domain' = domain ∧ id' = id := by
  constructor
  · rintro (h | h)
    · refine absurd ?_ hid'
      rw [← h]
      simp [qualified]
    · obtain ⟨rfl, rfl⟩ := qualified_inj hid hid' h
      exact ⟨rfl, rfl⟩
  · rintro ⟨rfl, rfl⟩
    exact .inr rfl

end

/-! ## Keys of one domain -/

/-- A key added to what is ignored or overridden leaves the findings of a domain as they are, for every policy, exactly
if it names the rules of none of them; in any case the findings of the rules that it does not name stay as they are. If
no identifier holds a separator, it names one rule of one domain. -/
theorem qualifiedKey_acts (domain id : String) :
    (∀ other l,
      ((∀ p p', Ignoring (qualified domain id) p p' → p'.apply other l = p.apply other l) ↔
        ∀ f ∈ l, ¬ Names (qualified domain id) other f.ruleId) ∧
      ((∀ p p' v, Overriding (qualified domain id) v p p' → p'.apply other l = p.apply other l) ↔
        ∀ f ∈ l, ¬ Names (qualified domain id) other f.ruleId)) ∧
    ∀ p p', (Ignoring (qualified domain id) p p' ∨ ∃ v, Overriding (qualified domain id) v p p') →
      (∀ other l, (p'.apply other l).filter (fun f => ¬ Names (qualified domain id) other f.ruleId) =
        (p.apply other l).filter fun f => ¬ Names (qualified domain id) other f.ruleId) ∧
      ∀ l, '/' ∉ id.toList → (∀ f ∈ l, '/' ∉ f.ruleId.toList) →
        (∀ other, other ≠ domain → p'.apply other l = p.apply other l) ∧
        (p'.apply domain l).filter (fun f => f.ruleId ≠ id) = (p.apply domain l).filter fun f => f.ruleId ≠ id := by
  refine ⟨fun other l => ⟨apply_ignoring_iff, apply_overriding_iff⟩, fun p p' h => ?_⟩
  have hagree : AgreeBut (qualified domain id) p p' := by
    obtain h | ⟨v, h⟩ := h
    · exact h.agreeBut
    · exact h.agreeBut
  refine ⟨fun other l => ?_, fun l hid hl => ⟨fun other hother => hagree.apply_eq fun f hf hnames => ?_, ?_⟩⟩
  · exact hagree.filter_apply_eq (fun i => ¬ Names (qualified domain id) other i) fun f _ hq => of_decide_eq_true hq
  · exact hother ((names_qualified_iff hid (hl f hf)).mp hnames).1
  · refine hagree.filter_apply_eq (fun i => i ≠ id) fun f hf hq hnames => of_decide_eq_true hq ?_
    exact ((names_qualified_iff hid (hl f hf)).mp hnames).2

def findingOf (id : String) : Finding := ⟨⟨"/a"⟩, 1, 1, id, .never, "m", "x"⟩

theorem qualifiedKey_acts_python :
    Overriding "python/N1" .guidance default { default with overrides := [("python/N1", .guidance)] } ∧
    ({ default with overrides := [("python/N1", .guidance)] } : Policy).apply "go" [findingOf "N1"] =
      default.apply "go" [findingOf "N1"] ∧
    (({ default with overrides := [("python/N1", .guidance)] } : Policy).apply "python" [findingOf "N1",
      findingOf "N2"]).filter (fun f => f.ruleId ≠ "N1") = [findingOf "N2"] := by
  have hadded := overriding_default "python/N1" .guidance
  obtain ⟨-, hacts⟩ := qualifiedKey_acts "python" "N1"
  obtain ⟨-, hplain⟩ := hacts _ _ (.inr ⟨_, hadded⟩)
  refine ⟨hadded, ?_, ?_⟩
  · exact (hplain [findingOf "N1"] (by decide) (by decide)).1 "go" (by decide)
  · rw [(hplain [findingOf "N1", findingOf "N2"] (by decide) (by decide)).2]
    decide

def ruleText (domain id : String) : String :=
  "\x7b\"domain\":\"" ++ domain ++ "\",\"version\":\"1\",\"file_patterns\":[\"a\"],\"rules\":[" ++
  "\x7b\"id\":\"" ++ id ++ "\",\"title\":\"t\",\"severity\":\"NEVER\",\"pattern\":\"x\",\"message\":\"m\"\x7d]\x7d"

/-- What a document holds if it is accepted: its domain and the identifiers of its rules. -/
def loaded (domain id : String) : Option (String × List String) :=
  (RuleSet.parse ⟨"r"⟩ (ruleText domain id)).toOption.map fun set => (set.domain, set.rules.map (·.id))

/-- Documents of the rules are accepted, and each key of a rule in one domain ignores or overrides the rule of the
other, be it by its identifier or by its domain and its identifier. -/
theorem qualifiedKey_namesOthers :
    (loaded "python" "N1" = some ("python", ["N1"]) ∧ loaded "go" "python/N1" = some ("go", ["python/N1"]) ∧
      loaded "a" "b/c" = some ("a", ["b/c"]) ∧ loaded "a/b" "c" = some ("a/b", ["c"])) ∧
    (qualified "python" "N1" = "python/N1" ∧ Ignoring "python/N1" default { default with ignored := ["python/N1"] } ∧
      default.apply "go" [findingOf "python/N1"] = [findingOf "python/N1"] ∧
      ({ default with ignored := ["python/N1"] } : Policy).apply "go" [findingOf "python/N1"] = []) ∧
    (qualified "a" "b/c" = "a/b/c" ∧
      Overriding "a/b/c" .guidance default { default with overrides := [("a/b/c", .guidance)] } ∧
      default.apply "a/b" [findingOf "c"] = [findingOf "c"] ∧
      ({ default with overrides := [("a/b/c", .guidance)] } : Policy).apply "a/b" [findingOf "c"] =
        [{ findingOf "c" with severity := .guidance }]) := by
  refine ⟨by decide +kernel, ⟨by decide, ignoring_default _, default_apply .., by decide⟩, ?_⟩
  exact ⟨by decide, overriding_default .., default_apply .., by decide⟩

end Policy

end RuleLint
