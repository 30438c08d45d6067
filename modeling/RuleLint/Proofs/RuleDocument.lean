import RuleLint.Proofs.Except
import RuleLint.Rule.Document

/-!
# What loading ensures

The rules of a rule set that has been read from a document have something to look for: no query is blank
(`hasQuery_of_parse`).
-/

namespace RuleLint

/-- The query, if there is one, has something in it. -/
def RuleCheck.HasQuery (c : RuleCheck) : Prop :=
  ∀ language query, c = .ast language query → Text.isBlankText query = false

theorem hasQuery_of_astCheck {v : Json} {query pattern : Option String} {c : RuleCheck}
    (h : astCheck v query pattern = .ok c) : c.HasQuery := by
  unfold astCheck at h
  dsimp only at h
  split at h
  · exact absurd h throw_ne_ok
  obtain ⟨language, _, h⟩ := bind_eq_ok.mp h
  split at h
  · exact absurd h throw_ne_ok
  · exact absurd h throw_ne_ok
  split at h
  · exact absurd h throw_ne_ok
  split at h
  · exact absurd h throw_ne_ok
  rename_i q hq
  cases h
  intro language' query' heq
  cases heq
  simpa using hq

theorem hasQuery_of_grepCheck {query pattern : Option String} {c : RuleCheck}
    (h : grepCheck query pattern = .ok c) : c.HasQuery := by
  unfold grepCheck at h
  dsimp only at h
  split at h
  · exact absurd h throw_ne_ok
  split at h
  · exact absurd h throw_ne_ok
  · exact absurd h throw_ne_ok
  obtain ⟨regex, _, h⟩ := bind_eq_ok.mp h
  cases h
  exact nofun

theorem hasQuery_of_ruleCheck {v : Json} {type query pattern : Option String} {c : RuleCheck}
    (h : ruleCheck v type query pattern = .ok c) : c.HasQuery := by
  unfold ruleCheck at h
  split at h
  · exact hasQuery_of_astCheck h
  · exact hasQuery_of_grepCheck h
  · cases h

theorem hasQuery_of_ruleOf {id : String} {v : Json} {rule : Rule} (h : ruleOf id v = .ok rule) :
    rule.check.HasQuery := by
  unfold ruleOf at h
  obtain ⟨title, _, h⟩ := bind_eq_ok.mp h
  obtain ⟨given, _, h⟩ := bind_eq_ok.mp h
  dsimp only at h
  split at h
  case h_2 =>
    obtain ⟨severity, hs, _⟩ := bind_eq_ok.mp h
    exact absurd hs throw_ne_ok
  obtain ⟨severity, _, h⟩ := bind_eq_ok.mp h
  obtain ⟨message, _, h⟩ := bind_eq_ok.mp h
  obtain ⟨query, _, h⟩ := bind_eq_ok.mp h
  obtain ⟨pattern, _, h⟩ := bind_eq_ok.mp h
  obtain ⟨type, _, h⟩ := bind_eq_ok.mp h
  obtain ⟨check, hc, h⟩ := bind_eq_ok.mp h
  obtain ⟨provenance, _, h⟩ := bind_eq_ok.mp h
  cases h
  exact hasQuery_of_ruleCheck hc

theorem hasQuery_of_ruleAt {index : Nat} {v : Json} {rule : Rule} (h : ruleAt index v = .ok rule) :
    rule.check.HasQuery := by
  unfold ruleAt at h
  split at h
  · split at h
    · cases h
    · exact hasQuery_of_ruleOf (mapError_eq_ok.mp h)
  · cases h

theorem hasQuery_of_rulesFrom {items : List Json} {seen : List String} {index : Nat}
    {rules : List Rule} (h : rulesFrom seen index items = .ok rules) :
    ∀ rule ∈ rules, rule.check.HasQuery := by
  induction items generalizing seen index rules with
  | nil =>
    cases h
    exact List.forall_mem_nil _
  | cons v items ih =>
    unfold rulesFrom at h
    obtain ⟨first, hfirst, h⟩ := bind_eq_ok.mp h
    dsimp only at h
    split at h
    · exact absurd h throw_ne_ok
    obtain ⟨rest, hrest, h⟩ := bind_eq_ok.mp h
    cases h
    intro rule hrule
    rcases List.mem_cons.mp hrule with rfl | hrule
    · exact hasQuery_of_ruleAt hfirst
    · exact ih hrest rule hrule

theorem hasQuery_of_ofJson {source : FilePath} {v : Json} {s : RuleSet}
    (h : RuleSet.ofJson source v = .ok s) : ∀ rule ∈ s.rules, rule.check.HasQuery := by
  unfold RuleSet.ofJson at h
  obtain ⟨domain, _, h⟩ := bind_eq_ok.mp h
  obtain ⟨version, _, h⟩ := bind_eq_ok.mp h
  obtain ⟨language, _, h⟩ := bind_eq_ok.mp h
  obtain ⟨filePatterns, _, h⟩ := bind_eq_ok.mp h
  obtain ⟨excludePatterns, _, h⟩ := bind_eq_ok.mp h
  obtain ⟨provenance, _, h⟩ := bind_eq_ok.mp h
  split at h
  · obtain ⟨rules, hrules, h⟩ := bind_eq_ok.mp h
    cases h
    exact hasQuery_of_rulesFrom hrules
  · exact absurd h throw_ne_ok

/-- No rule of a loaded rule set has a blank query. -/
theorem hasQuery_of_parse {source : FilePath} {text : String} {s : RuleSet}
    (h : RuleSet.parse source text = .ok s) : ∀ rule ∈ s.rules, rule.check.HasQuery := by
  unfold RuleSet.parse at h
  split at h
  · cases h
  · exact hasQuery_of_ofJson h
  · cases h

end RuleLint
