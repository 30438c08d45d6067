import Mathlib.Data.List.Permutation
import Mathlib.Data.Nat.Find
import RuleLint.Proofs.Json.Members
import RuleLint.Proofs.RuleDocument.Shape

/-!
# The rule that is to blame

A document that is fine but for its rules is refused for the first rule that would be refused in a document
with no other rule or that has the identifier of a rule before it (`parse_blames`). The fault tells of this
rule alone, so it does not depend on the rules after it.

The rules are read from the first on, the identifiers so far being kept (`rulesFrom_append`); so a fault is
that of one rule, read after rules that are all accepted (`rulesFrom_singleton`).
-/

namespace RuleLint

/-! ## Documents that differ in their rules -/

structure HasHead (v : Json) : Prop where
  object : ∃ members, v = .obj members
  domain : ∃ s, HoldsFilled v "domain" s
  version : ∃ s, HoldsFilled v "version" s
  language : ∃ o, MayHoldText v "language" o
  filePatterns : ∃ texts, HoldsTexts v "file_patterns" texts
  excludePatterns : ∃ texts, MayHoldTexts v "exclude_patterns" texts
  provenance : ∃ p, MayHoldObject v "provenance" DomainProvenance.decode p

structure HasRules (v w : Json) (items : List Json) : Prop where
  object : ∃ members, w = .obj members
  rules : w.get? "rules" = some (.arr items)
  other : ∀ key, key ≠ "rules" → w.get? key = v.get? key

def Json.withRules (items : List Json) : Json → Json
  | .obj members => .obj (setMember "rules" (.arr items) members)
  | v => v

theorem hasRules_withRules {v : Json} (hv : ∃ members, v = .obj members) (items : List Json) :
    HasRules v (v.withRules items) items := by
  obtain ⟨members, rfl⟩ := hv
  refine ⟨⟨_, rfl⟩, ?_, ?_⟩
  · simp [Json.withRules, Json.get?, Json.find?_setMember]
  · intro key hkey
    simp [Json.withRules, Json.get?, Json.find?_setMember, Ne.symm hkey]

section
variable {v w : Json} {key : String}

theorem requiredText_congr (h : w.get? key = v.get? key) : requiredText w key = requiredText v key := by
  unfold requiredText
  rw [h]

theorem optionalText_congr (h : w.get? key = v.get? key) : optionalText w key = optionalText v key := by
  unfold optionalText
  rw [h]

theorem textList_congr (h : w.get? key = v.get? key) (required : Bool) :
    textList w key required = textList v key required := by
  unfold textList
  rw [h]

theorem optionalObject_congr {α : Type} {decode : Json → Except Mismatch α} (h : w.get? key = v.get? key) :
    optionalObject decode w key = optionalObject decode v key := by
  unfold optionalObject
  rw [h]

/-- With such members the rules decide. -/
theorem HasHead.exists_ofJson_eq (h : HasHead v) (source : FilePath) :
    ∃ build : List Rule → RuleSet, ∀ w items, HasRules v w items →
      RuleSet.ofJson source w = (rulesFrom [] 0 items).map build := by
  obtain ⟨domain, hdomain⟩ := h.domain
  obtain ⟨version, hversion⟩ := h.version
  obtain ⟨language, hlanguage⟩ := h.language
  obtain ⟨filePatterns, hfilePatterns⟩ := h.filePatterns
  obtain ⟨excludePatterns, hexcludePatterns⟩ := h.excludePatterns
  obtain ⟨provenance, hprovenance⟩ := h.provenance
  refine ⟨fun rules => ⟨domain, version, language, filePatterns, excludePatterns, rules, provenance, source⟩, ?_⟩
  intro w items hw
  rw [← requiredText_eq_ok, ← requiredText_congr (hw.other _ (by decide))] at hdomain hversion
  rw [← optionalText_eq_ok, ← optionalText_congr (hw.other _ (by decide))] at hlanguage
  rw [← textList_eq_ok, ← textList_congr (hw.other _ (by decide))] at hfilePatterns
  rw [← textList_eq_ok_of_optional, ← textList_congr (hw.other _ (by decide))] at hexcludePatterns
  rw [← optionalObject_eq_ok, ← optionalObject_congr (hw.other _ (by decide))] at hprovenance
  unfold RuleSet.ofJson
  simp only [hdomain, hversion, hlanguage, hfilePatterns, hexcludePatterns, hprovenance, hw.rules,
    Except.mapError, bind, Except.bind, pure, Except.pure]
  cases rulesFrom [] 0 items <;> rfl

end

/-! ## Reading on -/

theorem rulesFrom_cons (seen : List String) (index : Nat) (v : Json) (r : List Json) :
    rulesFrom seen index (v :: r) = (ruleAt index v).bind fun rule =>
      if rule.id ∈ seen then .error (.rule index rule.id .duplicateId)
      else (rulesFrom (rule.id :: seen) (index + 1) r).map (rule :: ·) := by
  rw [rulesFrom]
  cases ruleAt index v with
  | error f => rfl
  | ok rule =>
    by_cases hseen : rule.id ∈ seen
    · simp [bind, Except.bind, hseen, throw, throwThe, MonadExceptOf.throw]
    · simp only [bind, Except.bind, pure, Except.pure, List.contains_eq_mem, decide_eq_true_eq, hseen, if_false]
      cases rulesFrom (rule.id :: seen) (index + 1) r <;> rfl

theorem rulesFrom_append (seen : List String) (index : Nat) (before rest : List Json) :
    rulesFrom seen index (before ++ rest) = (rulesFrom seen index before).bind fun rules =>
      (rulesFrom ((rules.map Rule.id).reverse ++ seen) (index + before.length) rest).map (rules ++ ·) := by
  induction before generalizing seen index with
  | nil =>
    have hid : ∀ x : Except DocumentFault (List Rule), x.map ([] ++ ·) = x := fun x => by cases x <;> rfl
    exact (hid _).symm
  | cons v before ih =>
    rw [List.cons_append, rulesFrom_cons, rulesFrom_cons]
    cases ruleAt index v with
    | error f => rfl
    | ok rule =>
      by_cases hseen : rule.id ∈ seen
      · simp [Except.bind, hseen]
      · have hindex : index + (v :: before).length = index + 1 + before.length := by
          rw [List.length_cons]
          omega
        simp only [Except.bind, hseen, if_false, ih, hindex]
        cases rulesFrom (rule.id :: seen) (index + 1) before with
        | error f => rfl
        | ok rules =>
          simp only [Except.map, List.map_cons, List.reverse_cons, List.append_assoc, List.singleton_append]
          cases rulesFrom ((rules.map Rule.id).reverse ++ rule.id :: seen) (index + 1 + before.length) rest <;>
            rfl

theorem rulesFrom_append_error {seen : List String} {index : Nat} {before : List Json} {f : DocumentFault}
    (h : rulesFrom seen index before = .error f) (rest : List Json) :
    rulesFrom seen index (before ++ rest) = .error f := by
  rw [rulesFrom_append, h]
  rfl

theorem rulesFrom_append_ok {before : List Json} {rules : List Rule} (h : rulesFrom [] 0 before = .ok rules)
    {rest : List Json} {f : DocumentFault} :
    rulesFrom [] 0 (before ++ rest) = .error f ↔
      rulesFrom (rules.map Rule.id).reverse before.length rest = .error f := by
  rw [rulesFrom_append, h]
  simp only [Except.bind, List.append_nil, Nat.zero_add]
  cases rulesFrom (rules.map Rule.id).reverse before.length rest <;> simp [Except.map]

/-- A rule is to blame for what is wrong with it or for the identifier of a rule before it. -/
theorem rulesFrom_singleton {seen : List String} {index : Nat} {item : Json} {f : DocumentFault} :
    rulesFrom seen index [item] = .error f ↔
      ruleAt index item = .error f ∨
        ∃ rule, IsRuleOf item rule ∧ rule.id ∈ seen ∧ f = .rule index rule.id .duplicateId := by
  have hread : ∀ rule, IsRuleOf item rule ↔ ruleAt index item = .ok rule := fun rule => ruleAt_eq_ok.symm
  simp only [rulesFrom_cons, hread]
  cases ruleAt index item with
  | error f' => simp [Except.bind]
  | ok rule =>
    by_cases hseen : rule.id ∈ seen
    · simp [Except.bind, hseen, eq_comm]
    · simp only [Except.bind, hseen, if_false, rulesFrom, Except.map]
      simp [hseen]

/-! ## What is said -/

/-- How the message about a rule begins: with its index and, if it has one, its identifier. -/
inductive Beginning (index : Nat) (item : Json) : String → Prop
  | known {id : String} (h : HoldsFilled item "id" id) :
      Beginning index item ("rules[" ++ toString index ++ "] (id=" ++ id ++ "): ")
  | unknown (h : ∀ id, ¬ HoldsFilled item "id" id) : Beginning index item ("rules[" ++ toString index ++ "]: ")

theorem append_ne_of_head {a b x : String} {c d : Char} (ha : a.toList.head? = some c)
    (hb : b.toList.head? = some d) (h : c ≠ d) : a ++ x ≠ b := by
  rintro rfl
  simp [ha] at hb
  exact h hb

theorem memberFault_message_ne (f : MemberFault) : f.message ≠ "duplicate rule id" := by
  cases f <;> simp only [MemberFault.message, inQuotes, String.append_assoc] <;>
    exact append_ne_of_head rfl rfl (by decide)

/-- Only a repeated identifier is called one. -/
theorem ruleFault_message_ne {f : RuleFault} (h : f ≠ .duplicateId) : f.message ≠ "duplicate rule id" := by
  unfold RuleFault.message
  cases f with
  | member f => exact memberFault_message_ne f
  | duplicateId => exact absurd rfl h
  | unknownSeverity given =>
    dsimp only
    rw [String.append_assoc]
    exact append_ne_of_head rfl rfl (by decide)
  | unknownType given =>
    dsimp only
    rw [String.append_assoc]
    exact append_ne_of_head rfl rfl (by decide)
  | badPattern pattern error => exact append_ne_of_head rfl rfl (by decide)
  | _ => decide

section
variable {v item : Json} {index : Nat} {f : DocumentFault}

theorem ruleCheck_ne_duplicateId {type query pattern : Option String} :
    ruleCheck v type query pattern ≠ .error .duplicateId := by
  intro h
  unfold ruleCheck at h
  split at h
  · unfold astCheck at h
    dsimp only at h
    split at h
    · cases h
    rcases bind_eq_error.mp h with h | ⟨language, _, h⟩
    · obtain ⟨_, _, h⟩ := mapError_eq_error.mp h
      cases h
    split at h
    · cases h
    · cases h
    split at h
    · cases h
    split at h <;> cases h
  · unfold grepCheck at h
    dsimp only at h
    split at h
    · cases h
    split at h
    · cases h
    · cases h
    rcases bind_eq_error.mp h with h | ⟨regex, _, h⟩
    · obtain ⟨_, _, h⟩ := mapError_eq_error.mp h
      cases h
    · cases h
  · cases h

theorem ruleOf_ne_duplicateId {id : String} : ruleOf id v ≠ .error .duplicateId := by
  have hmember : ∀ {α : Type} {x : Except MemberFault α}, x.mapError RuleFault.member ≠ .error .duplicateId := by
    intro α x h
    obtain ⟨_, _, h⟩ := mapError_eq_error.mp h
    cases h
  intro h
  unfold ruleOf at h
  rcases bind_eq_error.mp h with h | ⟨title, _, h⟩
  · exact hmember h
  rcases bind_eq_error.mp h with h | ⟨given, _, h⟩
  · exact hmember h
  dsimp only at h
  split at h
  case h_2 =>
    rcases bind_eq_error.mp h with h | ⟨severity, hs, _⟩
    · cases h
    · exact absurd hs throw_ne_ok
  rcases bind_eq_error.mp h with h | ⟨severity, _, h⟩
  · cases h
  rcases bind_eq_error.mp h with h | ⟨message, _, h⟩
  · exact hmember h
  rcases bind_eq_error.mp h with h | ⟨query, _, h⟩
  · exact hmember h
  rcases bind_eq_error.mp h with h | ⟨pattern, _, h⟩
  · exact hmember h
  rcases bind_eq_error.mp h with h | ⟨type, _, h⟩
  · exact hmember h
  rcases bind_eq_error.mp h with h | ⟨check, _, h⟩
  · exact ruleCheck_ne_duplicateId h
  rcases bind_eq_error.mp h with h | ⟨provenance, _, h⟩
  · exact hmember h
  · cases h

/-- What is wrong with a rule by itself is told with its place and is not that its identifier is repeated. -/
theorem message_of_ruleAt (h : ruleAt index item = .error f) :
    ∃ start rest, Beginning index item start ∧ f.message = start ++ rest ∧ rest ≠ "duplicate rule id" := by
  unfold ruleAt at h
  split at h
  · rename_i members
    split at h
    · rename_i fault hid
      obtain rfl := Except.error.inj h
      refine ⟨_, fault.message, .unknown ?_, ?_, memberFault_message_ne fault⟩
      · intro id hfilled
        rw [requiredText_eq_ok.mpr hfilled] at hid
        cases hid
      · unfold DocumentFault.message
        rfl
    · rename_i id hid
      obtain ⟨fault, hrule, rfl⟩ := mapError_eq_error.mp h
      refine ⟨_, fault.message, .known (requiredText_eq_ok.mp hid), ?_, ruleFault_message_ne ?_⟩
      · unfold DocumentFault.message
        rfl
      · rintro rfl
        exact ruleOf_ne_duplicateId hrule
  · rename_i hobject
    obtain rfl := Except.error.inj h
    refine ⟨_, "expected an object", .unknown ?_, ?_, by decide⟩
    · rintro id ⟨hget, _⟩
      cases item with
      | obj members => exact hobject members rfl
      | _ => cases hget
    · unfold DocumentFault.message
      rw [String.append_assoc]
      rfl

end

/-! ## The first fault -/

/-- A rule of a document would be refused if there were no other, or it has the identifier of a rule before. -/
inductive IsFaulty (source : FilePath) (v : Json) (items : List Json) (k : Nat) : Prop
  | refused {item : Json} {f : DocumentFault} (h : items[k]? = some item)
      (alone : RuleSet.ofJson source (v.withRules [item]) = .error f)
  | repeated {item earlier : Json} {j : Nat} {id : String} (h : items[k]? = some item) (hj : j < k)
      (hearlier : items[j]? = some earlier) (hid : item.get? "id" = some (.str id))
      (hid' : earlier.get? "id" = some (.str id))

section
variable {source : FilePath} {v item : Json} {items : List Json} {k : Nat}

theorem IsFaulty.exists_item (h : IsFaulty source v items k) : ∃ item, items[k]? = some item := by
  cases h with
  | refused h _ => exact ⟨_, h⟩
  | repeated h _ _ _ _ => exact ⟨_, h⟩

theorem isRule_iff_alone (source : FilePath) (hhead : HasHead v) :
    IsRule item ↔ ∃ s, RuleSet.ofJson source (v.withRules [item]) = .ok s := by
  obtain ⟨build, hbuild⟩ := hhead.exists_ofJson_eq source
  rw [hbuild _ _ (hasRules_withRules hhead.object [item]), isRule_iff]
  constructor
  · rintro ⟨rule, hrule⟩
    have hok : rulesFrom [] 0 [item] = .ok [rule] :=
      rulesFrom_eq_ok.mpr ⟨.cons hrule .nil, by simp, fun _ _ => List.not_mem_nil⟩
    exact ⟨build [rule], by rw [hok]; rfl⟩
  · rintro ⟨s, hs⟩
    cases hok : rulesFrom [] 0 [item] with
    | error f =>
      rw [hok] at hs
      cases hs
    | ok rules =>
      obtain ⟨hforall, _⟩ := rulesFrom_eq_ok.mp hok
      cases hforall with
      | cons hrule _ => exact ⟨_, hrule⟩

theorem isFaulty_iff (hhead : HasHead v) (hitem : items[k]? = some item) :
    IsFaulty source v items k ↔ ¬ IsRule item ∨
      ∃ j < k, ∃ earlier id, items[j]? = some earlier ∧ item.get? "id" = some (.str id) ∧
        earlier.get? "id" = some (.str id) := by
  rw [isRule_iff_alone source hhead]
  constructor
  · intro h
    cases h with
    | refused h alone =>
      obtain rfl := Option.some.inj (hitem.symm.trans h)
      refine .inl ?_
      rintro ⟨s, hs⟩
      rw [alone] at hs
      cases hs
    | repeated h hj hearlier hid hid' =>
      obtain rfl := Option.some.inj (hitem.symm.trans h)
      exact .inr ⟨_, hj, _, _, hearlier, hid, hid'⟩
  · rintro (h | ⟨j, hj, earlier, id, hearlier, hid, hid'⟩)
    · cases halone : RuleSet.ofJson source (v.withRules [item]) with
      | error f => exact .refused hitem halone
      | ok s => exact absurd ⟨s, halone⟩ h
    · exact .repeated hitem hj hearlier hid hid'

/-- Rules none of which is faulty are read. -/
theorem exists_rulesFrom_take (hhead : HasHead v) (h : ∀ j < k, ¬ IsFaulty source v items j) :
    ∃ rules, rulesFrom [] 0 (items.take k) = .ok rules := by
  have hfine : ∀ j (hj : j < (items.take k).length), IsRule (items.take k)[j] ∧
      ∀ i (hi : i < j), (items.take k)[i].get? "id" ≠ (items.take k)[j].get? "id" := by
    intro j hj
    obtain ⟨hjk, hjl⟩ : j < k ∧ j < items.length := by simpa [Nat.lt_min] using hj
    have hitem : items[j]? = some items[j] := List.getElem?_eq_getElem hjl
    have hnot := h j hjk
    rw [isFaulty_iff hhead hitem, not_or, not_not] at hnot
    obtain ⟨hrule, hnew⟩ := hnot
    simp only [List.getElem_take]
    refine ⟨hrule, fun i hi heq => hnew ?_⟩
    obtain ⟨id, hid⟩ := hrule.id
    exact ⟨i, hi, items[i], id, List.getElem?_eq_getElem (Nat.lt_trans hi hjl), hid.1, heq.trans hid.1⟩
  obtain ⟨rules, hrules⟩ := exists_rules fun item hitem => by
    obtain ⟨j, hj, rfl⟩ := List.mem_iff_getElem.mp hitem
    exact (hfine j hj).1
  refine ⟨rules, rulesFrom_eq_ok.mpr ⟨hrules, (nodup_ids_iff hrules).mpr ?_, fun _ _ => List.not_mem_nil⟩⟩
  rw [List.pairwise_iff_getElem]
  exact fun i j _ hj hij => (hfine j hj).2 i hij

/-- What is said of the first rule that is faulty. -/
theorem exists_fault (hhead : HasHead v) (hitem : items[k]? = some item)
    (hfaulty : IsFaulty source v items k) (hfirst : ∀ j < k, ¬ IsFaulty source v items j) :
    ∃ f start rest, rulesFrom [] 0 (items.take (k + 1)) = .error f ∧ Beginning k item start ∧
      f.message = start ++ rest ∧ (rest = "duplicate rule id" ↔ IsRule item) := by
  obtain ⟨rules, hrules⟩ := exists_rulesFrom_take hhead hfirst
  have hlength : (items.take k).length = k := by
    obtain ⟨hk, _⟩ := List.getElem?_eq_some_iff.mp hitem
    simp [Nat.le_of_lt hk]
  have htake : items.take (k + 1) = items.take k ++ [item] := by
    rw [List.take_add_one, hitem]
    rfl
  rw [htake]
  by_cases hrule : IsRule item
  · obtain ⟨rule, hof⟩ := isRule_iff.mp hrule
    -- the rule with its identifier is among those that have been read
    have hseen : rule.id ∈ (rules.map Rule.id).reverse := by
      rcases (isFaulty_iff hhead hitem).mp hfaulty with h | ⟨j, hj, earlier, id, hearlier, hid, hid'⟩
      · exact absurd hrule h
      · obtain ⟨hforall, _⟩ := rulesFrom_eq_ok.mp hrules
        have hmem : some (.str id) ∈ (items.take k).map (·.get? "id") :=
          List.mem_map.mpr ⟨earlier, List.mem_of_getElem? (by rw [List.getElem?_take_of_lt hj, hearlier]), hid'⟩
        rw [map_id_of_forall₂ hforall] at hmem
        obtain ⟨rule', hrule', heq⟩ := List.mem_map.mp hmem
        have hsame : rule'.id = rule.id := by
          rw [hof.id.1] at hid
          simpa using heq.trans hid.symm
        simpa using ⟨rule', hrule', hsame⟩
    refine ⟨.rule k rule.id .duplicateId, _, "duplicate rule id", ?_, .known hof.id, ?_, by simp [hrule]⟩
    · rw [rulesFrom_append_ok hrules, rulesFrom_singleton, hlength]
      exact .inr ⟨rule, hof, hseen, rfl⟩
    · unfold DocumentFault.message
      rfl
  · cases hat : ruleAt k item with
    | ok rule => exact absurd (isRule_iff.mpr ⟨rule, ruleAt_eq_ok.mp hat⟩) hrule
    | error f =>
      obtain ⟨start, rest, hstart, hmessage, hne⟩ := message_of_ruleAt hat
      refine ⟨f, start, rest, ?_, hstart, hmessage, iff_of_false hne hrule⟩
      rw [rulesFrom_append_ok hrules, rulesFrom_singleton, hlength]
      exact .inl hat

theorem parse_eq_ofJson {text : String} (hparse : Json.parse text = .ok v) (hv : ∃ members, v = .obj members) :
    RuleSet.parse source text = RuleSet.ofJson source v := by
  obtain ⟨members, rfl⟩ := hv
  rw [RuleSet.parse, hparse]

end

/-- A document that is fine but for its rules is refused exactly if one of the rules is faulty. The first of
these is to blame: the message begins with its place, says that its identifier is repeated exactly if it would
be accepted alone, and stays whatever rules follow. -/
theorem parse_blames {source : FilePath} {text : String} {v : Json} {items : List Json}
    (hparse : Json.parse text = .ok v) (hhead : HasHead v) (hitems : v.get? "rules" = some (.arr items)) :
    ((∃ f, RuleSet.parse source text = .error f) ↔ ∃ k, IsFaulty source v items k) ∧
    ∀ k item, items[k]? = some item → IsFaulty source v items k → (∀ j < k, ¬ IsFaulty source v items j) →
      ∃ f start rest, RuleSet.parse source text = .error f ∧
        Beginning k item start ∧ f.message = start ++ rest ∧
        (rest = "duplicate rule id" ↔ ∃ s, RuleSet.ofJson source (v.withRules [item]) = .ok s) ∧
        ∀ text' w more, Json.parse text' = .ok w → HasRules v w (items.take (k + 1) ++ more) →
          RuleSet.parse source text' = .error f := by
  obtain ⟨build, hbuild⟩ := hhead.exists_ofJson_eq source
  have hread : ∀ text' w items', Json.parse text' = .ok w → HasRules v w items' →
      RuleSet.parse source text' = (rulesFrom [] 0 items').map build := by
    intro text' w items' hparse' hw
    rw [parse_eq_ofJson hparse' hw.object, hbuild w items' hw]
  have hself := hread text v items hparse ⟨hhead.object, hitems, fun _ _ => rfl⟩
  have hrefused : ∀ k f, rulesFrom [] 0 (items.take k) = .error f → RuleSet.parse source text = .error f := by
    intro k f hf
    rw [hself, ← List.take_append_drop k items, rulesFrom_append_error hf]
    rfl
  refine ⟨⟨?_, ?_⟩, ?_⟩
  · rintro ⟨f, hf⟩
    by_contra hnone
    obtain ⟨rules, hrules⟩ :=
      exists_rulesFrom_take (k := items.length) hhead fun j _ hj => hnone ⟨j, hj⟩
    rw [hself, ← List.take_length (l := items), hrules] at hf
    cases hf
  · intro hsome
    classical
    have hfaulty := Nat.find_spec hsome
    obtain ⟨item, hitem⟩ := hfaulty.exists_item
    obtain ⟨f, _, _, hf, _⟩ := exists_fault hhead hitem hfaulty fun j hj => Nat.find_min hsome hj
    exact ⟨f, hrefused _ f hf⟩
  · intro k item hitem hfaulty hfirst
    obtain ⟨f, start, rest, hf, hstart, hmessage, hrest⟩ := exists_fault hhead hitem hfaulty hfirst
    refine ⟨f, start, rest, hrefused _ f hf, hstart, hmessage, hrest.trans (isRule_iff_alone source hhead), ?_⟩
    intro text' w more hparse' hw
    rw [hread text' w _ hparse' hw, rulesFrom_append_error hf]
    rfl

def untitledRules : List Json := [.obj [("id", .str "a")], .nat 7]

def untitledDocument : Json :=
  .obj [("domain", .str "d"), ("file_patterns", .arr []), ("rules", .arr untitledRules), ("version", .str "1")]

def untitledText : String :=
  "\x7b\"domain\":\"d\",\"version\":\"1\",\"file_patterns\":[],\"rules\":[\x7b\"id\":\"a\"\x7d,7]\x7d"

theorem parse_blames_untitled : Json.parse untitledText = .ok untitledDocument ∧ HasHead untitledDocument ∧
    untitledDocument.get? "rules" = some (.arr untitledRules) ∧
    ∃ f rest, RuleSet.parse ⟨"r"⟩ untitledText = .error f ∧ f.message = "rules[0] (id=a): " ++ rest ∧
      rest ≠ "duplicate rule id" := by
  have hparse : Json.parse untitledText = .ok untitledDocument := by cbv
  have hfilled : ∀ s ∈ ["d", "1", "a"], ∃ c ∈ s.toList, ¬ Text.isBlank c := by
    simp only [← isBlankText_eq_false]
    decide
  have hhead : HasHead untitledDocument :=
    ⟨⟨_, rfl⟩, ⟨"d", rfl, hfilled _ (by simp)⟩, ⟨"1", rfl, hfilled _ (by simp)⟩, ⟨none, .absent (.inl rfl)⟩,
      ⟨[], rfl⟩, ⟨[], .absent (.inl rfl)⟩, ⟨none, .absent (.inl rfl)⟩⟩
  have hrules : untitledDocument.get? "rules" = some (.arr untitledRules) := rfl
  have hrule : ¬ IsRule untitledRules[0] := by
    intro h
    obtain ⟨s, hs, -⟩ := h.title
    cases hs
  have hfaulty : IsFaulty ⟨"r"⟩ untitledDocument untitledRules 0 := (isFaulty_iff hhead rfl).mpr (.inl hrule)
  obtain ⟨-, hblame⟩ := @parse_blames ⟨"r"⟩ _ _ _ hparse hhead hrules
  obtain ⟨f, start, rest, hf, hstart, hmessage, hrest, -⟩ :=
    hblame 0 _ rfl hfaulty fun j hj => absurd hj (Nat.not_lt_zero j)
  have hne := mt (hrest.trans (isRule_iff_alone _ hhead).symm).mp hrule
  refine ⟨hparse, hhead, hrules, f, rest, hf, ?_, hne⟩
  cases hstart with
  | known hid =>
    obtain rfl := Json.str.inj (Option.some.inj hid.1)
    exact hmessage
  | unknown hno => exact absurd ⟨rfl, hfilled _ (by simp)⟩ (hno "a")

end RuleLint
