import Mathlib.Data.List.Forall2
import RuleLint.Proofs.RuleDocument

/-!
# The shape of rule documents

`IsDocument` says of a value whether it is a rule document, member by member, and `IsDocumentOf` which
rule set it describes. The reader goes through the members in an order of its own and stops at the first
fault; all the same it accepts a text exactly if the value of the text has the shape, and gives the rule
set that the value describes (`parse_iff_isDocument`).
-/

namespace RuleLint

/-! ## Members -/

section
variable (v : Json) (key : String)

/-- A member that is missing or null. -/
def IsAbsent : Prop := v.get? key = none ∨ v.get? key = some .null

def HoldsFilled (s : String) : Prop :=
  v.get? key = some (.str s) ∧ ∃ c ∈ s.toList, ¬ Text.isBlank c

def HoldsTexts (texts : List String) : Prop := v.get? key = some (.strings texts)

inductive MayHoldText : Option String → Prop
  | absent (h : IsAbsent v key) : MayHoldText none
  | text {s : String} (h : v.get? key = some (.str s)) : MayHoldText (some s)

inductive MayHoldTexts : List String → Prop
  | absent (h : IsAbsent v key) : MayHoldTexts []
  | texts {texts : List String} (h : HoldsTexts v key texts) : MayHoldTexts texts

inductive MayHoldObject {α : Type} (decode : Json → Except Mismatch α) : Option α → Prop
  | absent (h : IsAbsent v key) : MayHoldObject decode none
  | object {members : List (String × Json)} {a : α} (h : v.get? key = some (.obj members))
      (hd : decode (.obj members) = .ok a) : MayHoldObject decode (some a)

end

section
variable {v : Json} {key s : String}

theorem isBlankText_eq_false : Text.isBlankText s = false ↔ ∃ c ∈ s.toList, ¬ Text.isBlank c := by
  simp [Text.isBlankText]

theorem requiredText_eq_ok : requiredText v key = .ok s ↔ HoldsFilled v key s := by
  unfold requiredText HoldsFilled
  rw [← isBlankText_eq_false]
  cases hget : v.get? key with
  | none => simp
  | some w =>
    cases w with
    | str given =>
      by_cases hg : given = s
      · subst hg
        cases hb : Text.isBlankText given <;> simp [hb]
      · cases hb : Text.isBlankText given <;> simp [hb, hg]
    | _ => simp

theorem optionalText_eq_ok {o : Option String} :
    optionalText v key = .ok o ↔ MayHoldText v key o := by
  unfold optionalText
  constructor
  · intro h
    split at h
    · obtain rfl := Except.ok.inj h
      exact .text ‹_›
    · obtain rfl := Except.ok.inj h
      exact .absent (.inr ‹_›)
    · obtain rfl := Except.ok.inj h
      exact .absent (.inl ‹_›)
    · cases h
  · intro h
    cases h with
    | absent h =>
      rcases h with h | h
      · rw [h]
      · rw [h]
    | text h => rw [h]

theorem textItems_eq_ok {items : List Json} {index : Nat} {texts : List String} :
    textItems key index items = .ok texts ↔ items = texts.map .str := by
  induction items generalizing index texts with
  | nil =>
    rw [textItems, Except.ok.injEq]
    exact ⟨by rintro rfl; rfl, fun h => (List.map_eq_nil_iff.mp h.symm).symm⟩
  | cons item items ih =>
    cases item with
    | str first =>
      rw [textItems]
      cases hrest : textItems key (index + 1) items with
      | ok rest =>
        obtain rfl := ih.mp hrest
        rw [Except.map, Except.ok.injEq, ← List.map_cons, List.map_inj_right fun _ _ => Json.str.inj]
      | error f =>
        simp only [Except.map, reduceCtorEq, false_iff]
        intro h
        cases texts with
        | nil => cases h
        | cons a texts =>
          rw [ih.mpr (List.cons.inj h).2] at hrest
          cases hrest
    | _ => cases texts <;> simp [textItems]

theorem textList_eq_ok {texts : List String} :
    textList v key true = .ok texts ↔ HoldsTexts v key texts := by
  unfold textList HoldsTexts Json.strings
  cases hget : v.get? key with
  | none => simp
  | some w =>
    cases w with
    | arr items => simp [textItems_eq_ok]
    | _ => simp

theorem textList_eq_ok_of_optional {texts : List String} :
    textList v key false = .ok texts ↔ MayHoldTexts v key texts := by
  constructor
  · intro h
    unfold textList at h
    split at h
    · rename_i items hget
      refine .texts ?_
      rw [HoldsTexts, hget, textItems_eq_ok.mp h, Json.strings]
    · obtain rfl := Except.ok.inj h
      exact .absent (.inr ‹_›)
    · obtain rfl := Except.ok.inj h
      exact .absent (.inl ‹_›)
    · cases h
  · intro h
    unfold textList
    cases h with
    | absent h =>
      rcases h with h | h
      · rw [h]; rfl
      · rw [h]; rfl
    | texts h =>
      rw [h, Json.strings]
      exact textItems_eq_ok.mpr rfl

theorem optionalObject_eq_ok {α : Type} {decode : Json → Except Mismatch α} {o : Option α} :
    optionalObject decode v key = .ok o ↔ MayHoldObject v key decode o := by
  unfold optionalObject
  constructor
  · intro h
    split at h
    · obtain rfl := Except.ok.inj h
      exact .absent (.inr ‹_›)
    · obtain rfl := Except.ok.inj h
      exact .absent (.inl ‹_›)
    · rename_i hget
      split at h
      · obtain rfl := Except.ok.inj h
        exact .object hget ‹_›
      · cases h
    · cases h
  · intro h
    cases h with
    | absent h =>
      rcases h with h | h
      · rw [h]
      · rw [h]
    | object h hd => rw [h]; dsimp only; rw [hd]

end

/-! ## Rules -/

/-- What a rule looks for. The type tells which members must be there and which must not; a rule without
a type has a pattern. -/
inductive LooksFor (v : Json) : RuleCheck → Prop
  | query {language query : String} (type : v.get? "type" = some (.str "ast"))
      (noPattern : IsAbsent v "pattern") (hasLanguage : v.get? "language" = some (.str language))
      (named : language ≠ "") (hasQuery : HoldsFilled v "query" query) : LooksFor v (.ast language query)
  | pattern {pattern : String} {regex : Regex}
      (type : IsAbsent v "type" ∨ v.get? "type" = some (.str "grep")) (noQuery : IsAbsent v "query")
      (hasPattern : v.get? "pattern" = some (.str pattern)) (nonempty : pattern ≠ "")
      (compiles : Regex.compile pattern = .ok regex) : LooksFor v (.grep regex)

structure IsRule (v : Json) : Prop where
  object : ∃ members, v = .obj members
  id : ∃ s, HoldsFilled v "id" s
  title : ∃ s, HoldsFilled v "title" s
  severity : ∃ severity : Severity, v.get? "severity" = some (.str severity.name)
  message : ∃ s, HoldsFilled v "message" s
  check : ∃ c, LooksFor v c
  provenance : ∃ p, MayHoldObject v "provenance" RuleProvenance.decode p

structure IsRuleOf (v : Json) (rule : Rule) : Prop where
  object : ∃ members, v = .obj members
  id : HoldsFilled v "id" rule.id
  title : HoldsFilled v "title" rule.title
  severity : v.get? "severity" = some (.str rule.severity.name)
  message : HoldsFilled v "message" rule.message
  check : LooksFor v rule.check
  provenance : MayHoldObject v "provenance" RuleProvenance.decode rule.provenance

theorem isRule_iff {v : Json} : IsRule v ↔ ∃ rule, IsRuleOf v rule := by
  constructor
  · rintro ⟨hobject, ⟨id, hid⟩, ⟨title, htitle⟩, ⟨severity, hseverity⟩, ⟨message, hmessage⟩, ⟨check, hcheck⟩,
      ⟨provenance, hprovenance⟩⟩
    exact ⟨⟨id, title, severity, check, message, provenance⟩, hobject, hid, htitle, hseverity, hmessage,
      hcheck, hprovenance⟩
  · rintro ⟨rule, h⟩
    exact ⟨h.object, ⟨_, h.id⟩, ⟨_, h.title⟩, ⟨_, h.severity⟩, ⟨_, h.message⟩, ⟨_, h.check⟩,
      ⟨_, h.provenance⟩⟩

section
variable {v : Json} {query pattern type : Option String} {c : RuleCheck}

theorem MayHoldText.eq_none {key : String} {o : Option String} (h : MayHoldText v key o)
    (habsent : IsAbsent v key) : o = none := by
  cases h with
  | absent _ => rfl
  | text h =>
    rcases habsent with habsent | habsent
    · rw [habsent] at h; cases h
    · rw [habsent] at h; cases h

theorem MayHoldText.eq_some {key s : String} {o : Option String} (h : MayHoldText v key o)
    (hs : v.get? key = some (.str s)) : o = some s := by
  cases h with
  | absent h =>
    rcases h with h | h
    · rw [h] at hs; cases hs
    · rw [h] at hs; cases hs
  | text h =>
    rw [h] at hs
    obtain rfl := Json.str.inj (Option.some.inj hs)
    rfl

theorem MayHoldText.isAbsent {key : String} (h : MayHoldText v key none) : IsAbsent v key := by
  cases h with
  | absent h => exact h

theorem MayHoldText.get?_eq {key s : String} (h : MayHoldText v key (some s)) :
    v.get? key = some (.str s) := by
  cases h with
  | text h => exact h

theorem astCheck_eq_ok : astCheck v query pattern = .ok c ↔
    pattern = none ∧ ∃ language q, v.get? "language" = some (.str language) ∧ language ≠ "" ∧
      query = some q ∧ Text.isBlankText q = false ∧ c = .ast language q := by
  unfold astCheck
  dsimp only
  constructor
  · intro h
    split at h
    · exact absurd h throw_ne_ok
    rename_i hpattern
    obtain ⟨language, hlanguage, h⟩ := bind_eq_ok.mp h
    rw [mapError_eq_ok, optionalText_eq_ok] at hlanguage
    split at h
    · exact absurd h throw_ne_ok
    · exact absurd h throw_ne_ok
    rename_i language hnamed
    split at h
    · exact absurd h throw_ne_ok
    split at h
    · exact absurd h throw_ne_ok
    rename_i hq
    obtain rfl := Except.ok.inj h
    refine ⟨by simpa using hpattern, language, _, hlanguage.get?_eq, ?_, rfl, by simpa using hq, rfl⟩
    rintro rfl
    exact hnamed rfl
  · rintro ⟨rfl, language, q, hlanguage, hnamed, rfl, hq, rfl⟩
    have hl : (optionalText v "language").mapError RuleFault.member = .ok (some language) :=
      mapError_eq_ok.mpr (optionalText_eq_ok.mpr (.text hlanguage))
    simp only [Option.isSome_none, Bool.false_eq_true, if_false, hl, hq, bind, Except.bind]
    rfl

theorem grepCheck_eq_ok : grepCheck query pattern = .ok c ↔
    query = none ∧ ∃ p regex, pattern = some p ∧ p ≠ "" ∧ Regex.compile p = .ok regex ∧
      c = .grep regex := by
  unfold grepCheck
  dsimp only
  constructor
  · intro h
    split at h
    · exact absurd h throw_ne_ok
    rename_i hquery
    split at h
    · exact absurd h throw_ne_ok
    · exact absurd h throw_ne_ok
    rename_i p hp
    obtain ⟨regex, hregex, h⟩ := bind_eq_ok.mp h
    obtain rfl := Except.ok.inj h
    refine ⟨by simpa using hquery, p, regex, rfl, ?_, mapError_eq_ok.mp hregex, rfl⟩
    rintro rfl
    exact hp rfl
  · rintro ⟨rfl, p, regex, rfl, hp, hregex, rfl⟩
    have hr : (Regex.compile p).mapError (RuleFault.badPattern p) = .ok regex := mapError_eq_ok.mpr hregex
    simp only [Option.isSome_none, Bool.false_eq_true, if_false]
    rw [hr]
    rfl

theorem ruleCheck_eq_ok (htype : MayHoldText v "type" type) (hquery : MayHoldText v "query" query)
    (hpattern : MayHoldText v "pattern" pattern) :
    ruleCheck v type query pattern = .ok c ↔ LooksFor v c := by
  unfold ruleCheck
  constructor
  · intro h
    split at h
    · rename_i hkind
      obtain ⟨rfl, language, q, hlanguage, hnamed, rfl, hq, rfl⟩ := astCheck_eq_ok.mp h
      have hast : type = some "ast" := by
        cases type with
        | none => exact absurd hkind (by decide)
        | some kind => exact congrArg some hkind
      subst hast
      exact .query htype.get?_eq hpattern.isAbsent hlanguage hnamed
        ⟨hquery.get?_eq, isBlankText_eq_false.mp hq⟩
    · rename_i _ hkind
      obtain ⟨rfl, p, regex, rfl, hp, hregex, rfl⟩ := grepCheck_eq_ok.mp h
      refine .pattern ?_ hquery.isAbsent hpattern.get?_eq hp hregex
      cases type with
      | none => exact .inl htype.isAbsent
      | some kind =>
        have hgrep : kind = "grep" := hkind
        subst hgrep
        exact .inr htype.get?_eq
    · cases h
  · intro h
    cases h with
    | query type noPattern hasLanguage named hasQuery =>
      obtain rfl := htype.eq_some type
      obtain rfl := hpattern.eq_none noPattern
      obtain rfl := hquery.eq_some hasQuery.1
      exact astCheck_eq_ok.mpr
        ⟨rfl, _, _, hasLanguage, named, rfl, isBlankText_eq_false.mpr hasQuery.2, rfl⟩
    | pattern type noQuery hasPattern nonempty compiles =>
      obtain rfl := hquery.eq_none noQuery
      obtain rfl := hpattern.eq_some hasPattern
      have hcheck := grepCheck_eq_ok.mpr ⟨rfl, _, _, rfl, nonempty, compiles, rfl⟩
      rcases type with type | type
      · obtain rfl := htype.eq_none type
        exact hcheck
      · obtain rfl := htype.eq_some type
        exact hcheck

end

theorem LooksFor.exists_texts {v : Json} {c : RuleCheck} (h : LooksFor v c) :
    ∃ query pattern type, MayHoldText v "query" query ∧ MayHoldText v "pattern" pattern ∧
      MayHoldText v "type" type := by
  cases h with
  | query type noPattern _ _ hasQuery =>
    exact ⟨_, _, _, .text hasQuery.1, .absent noPattern, .text type⟩
  | pattern type noQuery hasPattern _ _ =>
    rcases type with type | type
    · exact ⟨_, _, _, .absent noQuery, .text hasPattern, .absent type⟩
    · exact ⟨_, _, _, .absent noQuery, .text hasPattern, .text type⟩

section
variable {v : Json} {rule : Rule}

theorem ofName?_eq_some {s : String} {severity : Severity} :
    Severity.ofName? s = some severity ↔ s = severity.name := by
  constructor
  · intro h
    have := List.find?_some h
    simpa [eq_comm] using this
  · rintro rfl
    exact Severity.ofName?_name severity

theorem holdsFilled_name {key : String} {severity : Severity} (h : v.get? key = some (.str severity.name)) :
    HoldsFilled v key severity.name := by
  refine ⟨h, isBlankText_eq_false.mp ?_⟩
  cases severity <;> decide

theorem ruleOf_eq_ok {members : List (String × Json)} {id : String} (hv : v = .obj members)
    (hid : HoldsFilled v "id" id) :
    ruleOf id v = .ok rule ↔ rule.id = id ∧ IsRuleOf v rule := by
  unfold ruleOf
  constructor
  · intro h
    obtain ⟨title, htitle, h⟩ := bind_eq_ok.mp h
    obtain ⟨given, hgiven, h⟩ := bind_eq_ok.mp h
    dsimp only at h
    split at h
    case h_2 =>
      obtain ⟨severity, hs, _⟩ := bind_eq_ok.mp h
      exact absurd hs throw_ne_ok
    rename_i severity hname
    obtain ⟨_, hs, h⟩ := bind_eq_ok.mp h
    obtain rfl := Except.ok.inj hs
    obtain ⟨message, hmessage, h⟩ := bind_eq_ok.mp h
    obtain ⟨query, hquery, h⟩ := bind_eq_ok.mp h
    obtain ⟨pattern, hpattern, h⟩ := bind_eq_ok.mp h
    obtain ⟨type, htype, h⟩ := bind_eq_ok.mp h
    obtain ⟨check, hcheck, h⟩ := bind_eq_ok.mp h
    obtain ⟨provenance, hprovenance, h⟩ := bind_eq_ok.mp h
    obtain rfl := Except.ok.inj h
    rw [mapError_eq_ok, requiredText_eq_ok] at htitle hgiven hmessage
    rw [mapError_eq_ok, optionalText_eq_ok] at hquery hpattern htype
    rw [ruleCheck_eq_ok htype hquery hpattern] at hcheck
    rw [mapError_eq_ok, optionalObject_eq_ok] at hprovenance
    obtain rfl := ofName?_eq_some.mp hname
    exact ⟨rfl, ⟨members, hv⟩, hid, htitle, hgiven.1, hmessage, hcheck, hprovenance⟩
  · rintro ⟨rfl, h⟩
    obtain ⟨query, pattern, type, hquery, hpattern, htype⟩ := h.check.exists_texts
    have htitle := requiredText_eq_ok.mpr h.title
    have hgiven := requiredText_eq_ok.mpr (holdsFilled_name h.severity)
    have hmessage := requiredText_eq_ok.mpr h.message
    have hcheck := (ruleCheck_eq_ok htype hquery hpattern).mpr h.check
    have hprovenance := optionalObject_eq_ok.mpr h.provenance
    rw [← optionalText_eq_ok] at hquery hpattern htype
    simp only [htitle, hgiven, hmessage, hquery, hpattern, htype, hcheck, hprovenance,
      Severity.ofName?_name, Except.mapError, bind, Except.bind, pure, Except.pure]

theorem ruleAt_eq_ok {index : Nat} : ruleAt index v = .ok rule ↔ IsRuleOf v rule := by
  unfold ruleAt
  constructor
  · intro h
    split at h
    · split at h
      · cases h
      · rename_i hid
        exact ((ruleOf_eq_ok rfl (requiredText_eq_ok.mp hid)).mp (mapError_eq_ok.mp h)).2
    · cases h
  · intro h
    obtain ⟨members, rfl⟩ := h.object
    dsimp only
    rw [requiredText_eq_ok.mpr h.id]
    exact mapError_eq_ok.mpr ((ruleOf_eq_ok rfl h.id).mpr ⟨rfl, h⟩)

/-- Rules that have been read have identifiers that none before them has. -/
theorem rulesFrom_eq_ok {items : List Json} {seen : List String} {index : Nat} {rules : List Rule} :
    rulesFrom seen index items = .ok rules ↔
      List.Forall₂ IsRuleOf items rules ∧ (rules.map Rule.id).Nodup ∧
        ∀ rule ∈ rules, rule.id ∉ seen := by
  induction items generalizing seen index rules with
  | nil =>
    rw [rulesFrom, Except.ok.injEq, List.forall₂_nil_left_iff]
    constructor
    · rintro rfl
      simp
    · exact fun h => h.1.symm
  | cons v items ih =>
    unfold rulesFrom
    constructor
    · intro h
      obtain ⟨first, hfirst, h⟩ := bind_eq_ok.mp h
      dsimp only at h
      split at h
      · exact absurd h throw_ne_ok
      rename_i hseen
      obtain ⟨rest, hrest, h⟩ := bind_eq_ok.mp h
      obtain rfl := Except.ok.inj h
      obtain ⟨hrules, hnodup, hnew⟩ := ih.mp hrest
      refine ⟨.cons (ruleAt_eq_ok.mp hfirst) hrules, ?_, ?_⟩
      · rw [List.map_cons, List.nodup_cons]
        refine ⟨fun hmem => ?_, hnodup⟩
        obtain ⟨rule, hrule, heq⟩ := List.mem_map.mp hmem
        exact hnew rule hrule (by simp [heq])
      · rw [List.forall_mem_cons]
        refine ⟨by simpa using hseen, fun rule hrule hmem => ?_⟩
        exact hnew rule hrule (List.mem_cons_of_mem _ hmem)
    · rintro ⟨hrules, hnodup, hnew⟩
      cases hrules with
      | @cons _ first _ rest hfirst hrest =>
        rw [List.map_cons, List.nodup_cons] at hnodup
        rw [List.forall_mem_cons] at hnew
        have hr : rulesFrom (first.id :: seen) (index + 1) items = .ok rest := by
          refine ih.mpr ⟨hrest, hnodup.2, fun rule hrule hmem => ?_⟩
          rcases List.mem_cons.mp hmem with heq | hmem
          · exact hnodup.1 (heq ▸ List.mem_map_of_mem hrule)
          · exact hnew.2 rule hrule hmem
        have hseen : seen.contains first.id = false := by simpa using hnew.1
        rw [ruleAt_eq_ok.mpr hfirst]
        simp only [bind, Except.bind, hseen, Bool.false_eq_true, if_false, hr]
        rfl

end

/-! ## Documents -/

structure IsDocument (v : Json) : Prop where
  object : ∃ members, v = .obj members
  domain : ∃ s, HoldsFilled v "domain" s
  version : ∃ s, HoldsFilled v "version" s
  language : ∃ o, MayHoldText v "language" o
  filePatterns : ∃ texts, HoldsTexts v "file_patterns" texts
  excludePatterns : ∃ texts, MayHoldTexts v "exclude_patterns" texts
  provenance : ∃ p, MayHoldObject v "provenance" DomainProvenance.decode p
  rules : ∃ items, v.get? "rules" = some (.arr items) ∧ (∀ item ∈ items, IsRule item) ∧
    items.Pairwise fun a b => a.get? "id" ≠ b.get? "id"

/-- The rule set that a value describes: one rule for each item of the list, in order. -/
structure IsDocumentOf (source : FilePath) (v : Json) (s : RuleSet) : Prop where
  object : ∃ members, v = .obj members
  domain : HoldsFilled v "domain" s.domain
  version : HoldsFilled v "version" s.version
  language : MayHoldText v "language" s.language
  filePatterns : HoldsTexts v "file_patterns" s.filePatterns
  excludePatterns : MayHoldTexts v "exclude_patterns" s.excludePatterns
  provenance : MayHoldObject v "provenance" DomainProvenance.decode s.provenance
  rules : ∃ items, v.get? "rules" = some (.arr items) ∧ List.Forall₂ IsRuleOf items s.rules
  ids : (s.rules.map Rule.id).Nodup
  source : s.source = source

theorem map_id_of_forall₂ {items : List Json} {rules : List Rule} (h : List.Forall₂ IsRuleOf items rules) :
    items.map (·.get? "id") = rules.map fun rule => some (.str rule.id) := by
  induction h with
  | nil => rfl
  | cons hfirst _ ih => rw [List.map_cons, List.map_cons, ih, hfirst.id.1]

theorem nodup_ids_iff {items : List Json} {rules : List Rule} (h : List.Forall₂ IsRuleOf items rules) :
    (rules.map Rule.id).Nodup ↔ items.Pairwise fun a b => a.get? "id" ≠ b.get? "id" := by
  have hpairs : (items.map (·.get? "id")).Pairwise (· ≠ ·) ↔
      items.Pairwise fun a b => a.get? "id" ≠ b.get? "id" := List.pairwise_map
  rw [← hpairs, map_id_of_forall₂ h, List.pairwise_map, List.Nodup, List.pairwise_map]
  simp

theorem exists_rules {items : List Json} (h : ∀ item ∈ items, IsRule item) :
    ∃ rules, List.Forall₂ IsRuleOf items rules := by
  induction items with
  | nil => exact ⟨[], .nil⟩
  | cons item items ih =>
    rw [List.forall_mem_cons] at h
    obtain ⟨rule, hrule⟩ := isRule_iff.mp h.1
    obtain ⟨rules, hrules⟩ := ih h.2
    exact ⟨rule :: rules, .cons hrule hrules⟩

theorem isRule_of_forall₂ {items : List Json} {rules : List Rule} (h : List.Forall₂ IsRuleOf items rules) :
    ∀ item ∈ items, IsRule item := by
  induction h with
  | nil => exact List.forall_mem_nil _
  | cons hfirst _ ih => exact List.forall_mem_cons.mpr ⟨isRule_iff.mpr ⟨_, hfirst⟩, ih⟩

theorem isDocument_iff (source : FilePath) {v : Json} : IsDocument v ↔ ∃ s, IsDocumentOf source v s := by
  constructor
  · rintro ⟨hobject, ⟨domain, hdomain⟩, ⟨version, hversion⟩, ⟨language, hlanguage⟩, ⟨patterns, hpatterns⟩,
      ⟨excludes, hexcludes⟩, ⟨provenance, hprovenance⟩, ⟨items, hitems, hall, hids⟩⟩
    obtain ⟨rules, hrules⟩ := exists_rules hall
    exact ⟨⟨domain, version, language, patterns, excludes, rules, provenance, source⟩, hobject, hdomain,
      hversion, hlanguage, hpatterns, hexcludes, hprovenance, ⟨items, hitems, hrules⟩,
      (nodup_ids_iff hrules).mpr hids, rfl⟩
  · rintro ⟨s, h⟩
    obtain ⟨items, hitems, hrules⟩ := h.rules
    exact ⟨h.object, ⟨_, h.domain⟩, ⟨_, h.version⟩, ⟨_, h.language⟩, ⟨_, h.filePatterns⟩,
      ⟨_, h.excludePatterns⟩, ⟨_, h.provenance⟩,
      ⟨items, hitems, isRule_of_forall₂ hrules, (nodup_ids_iff hrules).mp h.ids⟩⟩

section
variable {source : FilePath} {v : Json} {s : RuleSet}

theorem ofJson_eq_ok {members : List (String × Json)} (hv : v = .obj members) :
    RuleSet.ofJson source v = .ok s ↔ IsDocumentOf source v s := by
  unfold RuleSet.ofJson
  constructor
  · intro h
    obtain ⟨domain, hdomain, h⟩ := bind_eq_ok.mp h
    obtain ⟨version, hversion, h⟩ := bind_eq_ok.mp h
    obtain ⟨language, hlanguage, h⟩ := bind_eq_ok.mp h
    obtain ⟨filePatterns, hfilePatterns, h⟩ := bind_eq_ok.mp h
    obtain ⟨excludePatterns, hexcludePatterns, h⟩ := bind_eq_ok.mp h
    obtain ⟨provenance, hprovenance, h⟩ := bind_eq_ok.mp h
    split at h
    · rename_i items hitems
      obtain ⟨rules, hrules, h⟩ := bind_eq_ok.mp h
      obtain rfl := Except.ok.inj h
      obtain ⟨hforall, hids, _⟩ := rulesFrom_eq_ok.mp hrules
      rw [mapError_eq_ok, requiredText_eq_ok] at hdomain hversion
      rw [mapError_eq_ok, optionalText_eq_ok] at hlanguage
      rw [mapError_eq_ok, textList_eq_ok] at hfilePatterns
      rw [mapError_eq_ok, textList_eq_ok_of_optional] at hexcludePatterns
      rw [mapError_eq_ok, optionalObject_eq_ok] at hprovenance
      exact ⟨⟨members, hv⟩, hdomain, hversion, hlanguage, hfilePatterns, hexcludePatterns, hprovenance,
        ⟨items, hitems, hforall⟩, hids, rfl⟩
    · exact absurd h throw_ne_ok
  · intro h
    obtain ⟨items, hitems, hforall⟩ := h.rules
    have hdomain := requiredText_eq_ok.mpr h.domain
    have hversion := requiredText_eq_ok.mpr h.version
    have hlanguage := optionalText_eq_ok.mpr h.language
    have hfilePatterns := textList_eq_ok.mpr h.filePatterns
    have hexcludePatterns := textList_eq_ok_of_optional.mpr h.excludePatterns
    have hprovenance := optionalObject_eq_ok.mpr h.provenance
    have hrules : rulesFrom [] 0 items = .ok s.rules :=
      rulesFrom_eq_ok.mpr ⟨hforall, h.ids, fun _ _ => List.not_mem_nil⟩
    simp only [hdomain, hversion, hlanguage, hfilePatterns, hexcludePatterns, hprovenance, hitems, hrules,
      Except.mapError, bind, Except.bind, pure, Except.pure, ← h.source]

theorem parse_eq_ok {text : String} :
    RuleSet.parse source text = .ok s ↔ ∃ v, Json.parse text = .ok v ∧ IsDocumentOf source v s := by
  unfold RuleSet.parse
  constructor
  · intro h
    split at h
    · cases h
    · rename_i members hparse
      exact ⟨_, hparse, (ofJson_eq_ok rfl).mp h⟩
    · cases h
  · rintro ⟨v, hparse, h⟩
    obtain ⟨members, rfl⟩ := h.object
    rw [hparse]
    exact (ofJson_eq_ok rfl).mpr h

/-- In a rule set without repeated identifiers every rule is found by its own. -/
theorem rule?_eq_some {rule : Rule} (hids : (s.rules.map Rule.id).Nodup) {id : String} :
    s.rule? id = some rule ↔ rule ∈ s.rules ∧ rule.id = id := by
  unfold RuleSet.rule?
  generalize s.rules = rules at hids
  induction rules with
  | nil => simp
  | cons first rules ih =>
    rw [List.map_cons, List.nodup_cons] at hids
    rw [List.find?_cons]
    by_cases hfirst : first.id = id
    · simp only [hfirst, decide_true, Option.some.injEq, List.mem_cons]
      constructor
      · rintro rfl
        exact ⟨.inl rfl, hfirst⟩
      · rintro ⟨rfl | hrule, heq⟩
        · rfl
        · exact absurd (heq.trans hfirst.symm ▸ List.mem_map_of_mem hrule) hids.1
    · simp only [hfirst, decide_false, ih hids.2, List.mem_cons]
      constructor
      · exact fun h => ⟨.inr h.1, h.2⟩
      · rintro ⟨rfl | hrule, heq⟩
        · exact absurd heq hfirst
        · exact ⟨hrule, heq⟩

end

/-- A text is accepted exactly if it is JSON and its value is a rule document, and the rule set read from
it is the one that the value describes, member by member and rule by rule. A rule is found by its
identifier. -/
theorem parse_iff_isDocument (source : FilePath) (text : String) :
    ((∃ s, RuleSet.parse source text = .ok s) ↔ ∃ v, Json.parse text = .ok v ∧ IsDocument v) ∧
    ∀ s, (RuleSet.parse source text = .ok s ↔ ∃ v, Json.parse text = .ok v ∧ IsDocumentOf source v s) ∧
      (RuleSet.parse source text = .ok s →
        ∀ id rule, s.rule? id = some rule ↔ rule ∈ s.rules ∧ rule.id = id) := by
  refine ⟨?_, fun s => ⟨parse_eq_ok, fun h id rule => ?_⟩⟩
  · constructor
    · rintro ⟨s, h⟩
      obtain ⟨v, hparse, hdocument⟩ := parse_eq_ok.mp h
      exact ⟨v, hparse, (isDocument_iff source).mpr ⟨s, hdocument⟩⟩
    · rintro ⟨v, hparse, hdocument⟩
      obtain ⟨s, hs⟩ := (isDocument_iff source).mp hdocument
      exact ⟨s, parse_eq_ok.mpr ⟨v, hparse, hs⟩⟩
  · obtain ⟨v, _, hdocument⟩ := parse_eq_ok.mp h
    exact rule?_eq_some hdocument.ids

end RuleLint
