import Mathlib.Data.List.Sort
import RuleLint.Proofs.Linting.Alone

/-!
# What the cache of a run holds

Every detector that is kept is the one that compiling the query anew would give (`Sound`), so a request
is answered by the rule and the language alone (`request_spec`) and touches no other rule (`Touches`).
After some files have been visited the cache tells for every rule its language and its first error
(`Tracks`).
-/

namespace RuleLint

open Linting

namespace QueryCache

def Sound (r : Registry) (c : QueryCache) : Prop :=
  ∀ (i : Nat) (l : Language) (d : Detector), c.detectors[(i, l)]? = some d →
    ∀ rule name query, c.rules[i]? = some rule → rule.check = .ast name query →
      detectorOf r rule query l = .ok d

/-- `c'` is `c` but for an error of the rule at a place, which the first one stays. -/
structure Touches (c c' : QueryCache) (i : Nat) (e : Option RuleError) : Prop where
  rules : c'.rules = c.rules
  declared : ∀ j : Nat, c'.declared[j]? = c.declared[j]?
  self : c'.broken[i]? = c.broken[i]?.or e
  other : ∀ j : Nat, j ≠ i → c'.broken[j]? = c.broken[j]?

theorem touches_of_eq {c c' : QueryCache} (hr : c'.rules = c.rules) (hd : c'.declared = c.declared)
    (hb : c'.broken = c.broken) (i : Nat) : Touches c c' i none where
  rules := hr
  declared _ := by rw [hd]
  self := by simp [hb]
  other _ _ := by rw [hb]

theorem contains_broken (c : QueryCache) (i : Nat) : c.broken.contains i = c.broken[i]?.isSome :=
  Std.TreeMap.contains_eq_isSome_getElem?

/-! ## Operations -/

theorem getElem?_broken_fail (c : QueryCache) (i j : Nat) (rule : Rule) (e : LintError) :
    (c.fail i rule e).broken[j]? =
      if j = i then c.broken[i]?.or (some (rule.errorOf e)) else c.broken[j]? := by
  simp only [fail, Std.TreeMap.getElem?_insertIfNew, Nat.compare_eq_eq,
    Std.TreeMap.mem_iff_isSome_getElem?]
  by_cases h : j = i
  · subst h
    cases c.broken[j]? <;> simp [Rule.errorOf]
  · simp [h, Ne.symm h]

theorem touches_fail {c c' : QueryCache} {i : Nat} (h : Touches c c' i none) (rule : Rule)
    (e : LintError) : Touches c (c'.fail i rule e) i (some (rule.errorOf e)) where
  rules := h.rules
  declared := h.declared
  self := by rw [getElem?_broken_fail, if_pos rfl, h.self, Option.or_none]
  other j hj := by rw [getElem?_broken_fail, if_neg hj, h.other j hj]

theorem sound_fail {r : Registry} {c : QueryCache} (hs : Sound r c) (i : Nat) (rule : Rule)
    (e : LintError) : Sound r (c.fail i rule e) := hs

structure Answers (r : Registry) (c : QueryCache) (i : Nat) (rule : Rule)
    (answer : Except LintError Detector) (result : Option Detector × QueryCache) : Prop where
  value : result.1 = answer.toOption
  touches : Touches c result.2 i ((errorOf? answer).map rule.errorOf)
  sound : Sound r result.2

section
variable {r : Registry} {c : QueryCache} {i : Nat} {rule : Rule} {name query : String}

theorem sound_insert (hs : Sound r c) (hr : c.rules[i]? = some rule)
    (hc : rule.check = .ast name query) {l : Language} {d : Detector}
    (hd : detectorOf r rule query l = .ok d) :
    Sound r { c with detectors := c.detectors.insert (i, l) d } := by
  intro j m d' h rule' name' query' hr' hc'
  rw [Std.HashMap.getElem?_insert] at h
  by_cases heq : (i, l) = (j, m)
  · obtain ⟨rfl, rfl⟩ := Prod.mk.inj heq
    obtain rfl : d = d' := by simpa using h
    obtain rfl : rule = rule' := by simpa [hr] using hr'
    obtain ⟨rfl, rfl⟩ : name = name' ∧ query = query' := by simpa [hc] using hc'
    exact hd
  · rw [if_neg (by simpa using heq)] at h
    exact hs j m d' h rule' name' query' hr' hc'

theorem compile_spec (hs : Sound r c) (hr : c.rules[i]? = some rule) (hc : rule.check = .ast name query)
    (l : Language) : Answers r c i rule (detectorOf r rule query l) (c.compile r i rule query l) := by
  have hsame : ∀ compiled, Touches c { c with compiled } i none :=
    fun compiled => by apply touches_of_eq <;> rfl
  unfold compile
  cases hg : r.grammarOf l with
  | error e =>
    have hd : detectorOf r rule query l = .error e := by simp [detectorOf, hg, bind, Except.bind]
    rw [hd]
    exact ⟨rfl, touches_fail (hsame c.compiled) rule e, hs⟩
  | ok g =>
    have hd : detectorOf r rule query l = Detector.ofRule rule.id g query := by
      simp [detectorOf, hg, bind, Except.bind]
    dsimp only
    rw [← hd]
    cases h : detectorOf r rule query l with
    | error e => exact ⟨rfl, touches_fail (hsame _) rule e, hs⟩
    | ok d => exact ⟨rfl, by apply touches_of_eq <;> rfl, sound_insert hs hr hc h⟩

/-- A request for a rule that has not failed is answered as if nothing had been kept. -/
theorem request_spec (hs : Sound r c) (hr : c.rules[i]? = some rule) (hc : rule.check = .ast name query)
    (hb : c.broken[i]? = none) (l : Language) :
    Answers r c i rule (detectorOf r rule query l) (c.request r i l) := by
  unfold request
  rw [if_neg (by simp [contains_broken, hb])]
  cases hd : c.detectors[(i, l)]? with
  | none =>
    simp only [hr, hc]
    exact compile_spec hs hr hc l
  | some d =>
    rw [hs i l d hd rule name query hr hc]
    exact ⟨rfl, touches_of_eq rfl rfl rfl i, hs⟩

structure Prepares (r : Registry) (c c' : QueryCache) (i : Nat) (rule : Rule) : Prop where
  rules : c'.rules = c.rules
  declared : ∀ j : Nat, c'.declared[j]? =
    if j = i then (target? r rule).or c.declared[j]? else c.declared[j]?
  broken : ∀ j : Nat, c'.broken[j]? =
    if j = i then (startError? r rule).map rule.errorOf else c.broken[j]?
  sound : Sound r c'

theorem prepares_of_touches {c₁ c' : QueryCache} (h : Touches c₁ c' i ((startError? r rule).map rule.errorOf))
    (hs : Sound r c') (hr : c₁.rules = c.rules) (hb : c₁.broken = c.broken) (hi : c.broken[i]? = none)
    (hd : ∀ j : Nat, c₁.declared[j]? =
      if j = i then (target? r rule).or c.declared[j]? else c.declared[j]?) :
    Prepares r c c' i rule where
  rules := by rw [h.rules, hr]
  declared j := by rw [h.declared, hd]
  broken j := by
    by_cases hj : j = i
    · rw [if_pos hj, hj, h.self, hb, hi, Option.none_or]
    · rw [if_neg hj, h.other j hj, hb]
  sound := hs

theorem prepare_spec (hs : Sound r c) (hr : c.rules[i]? = some rule) (hb : c.broken[i]? = none) :
    Prepares r c (c.prepare r i rule) i rule := by
  have hidle (ht : target? r rule = none) (he : startError? r rule = none) : Prepares r c c i rule := by
    refine prepares_of_touches ?_ hs rfl rfl hb (by simp [ht])
    rw [he]
    exact touches_of_eq rfl rfl rfl i
  unfold prepare
  cases hc : rule.check with
  | grep pattern => exact hidle (by simp [target?, hc]) (by simp [startError?, hc])
  | ast name query =>
    dsimp only
    split
    · rename_i hq
      exact hidle (by simp [target?, hc, hq]) (by simp [startError?, hc, hq])
    · rename_i hq
      cases hl : r.languageNamed name with
      | error e =>
        have he : startError? r rule = some e := by
          simp [startError?, hc, hq, hl, bind, Except.bind, errorOf?]
        refine prepares_of_touches ?_ (sound_fail hs i rule e) rfl rfl hb ?_
        · rw [he]
          exact touches_fail (touches_of_eq rfl rfl rfl i) rule e
        · simp [target?, hc, hq, hl, Except.toOption]
      | ok l =>
        have he : startError? r rule = errorOf? (detectorOf r rule query l) := by
          simp [startError?, hc, hq, hl, bind, Except.bind]
        have h := request_spec (c := { c with declared := c.declared.insert i l }) hs hr hc hb l
        have htouches := h.touches
        rw [← he] at htouches
        refine prepares_of_touches htouches h.sound rfl rfl hb fun j => ?_
        have ht : target? r rule = some l := by simp [target?, hc, hq, hl, Except.toOption]
        rw [ht, Std.HashMap.getElem?_insert, Option.some_or]
        by_cases hj : j = i
        · simp [hj]
        · simp [hj, Ne.symm hj]

end

/-! ## The cache of a run -/

structure Tracks (r : Registry) (t : FileTree) (rules : List Rule) (visited : List FilePath)
    (c : QueryCache) : Prop where
  declared : ∀ j : Nat, c.declared[j]? = rules[j]?.bind (target? r)
  broken : ∀ j : Nat, c.broken[j]? = rules[j]?.bind fun rule =>
    (error? r t rule visited).map rule.errorOf
  sound : Sound r c

variable {r : Registry} {t : FileTree}

theorem tracks_prepare {rules : List Rule} {rule : Rule} {c : QueryCache} (h : Tracks r t rules [] c)
    (hr : c.rules[rules.length]? = some rule) :
    Tracks r t (rules ++ [rule]) [] (c.prepare r rules.length rule) := by
  have hb : c.broken[rules.length]? = none := by rw [h.broken]; simp
  have hp := prepare_spec h.sound hr hb
  have hget : ∀ j, (rules ++ [rule])[j]? = if j = rules.length then some rule else rules[j]? := by
    intro j
    grind
  refine ⟨fun j => ?_, fun j => ?_, hp.sound⟩
  · rw [hp.declared, hget, h.declared]
    split
    · simp_all
    · rfl
  · rw [hp.broken, hget, h.broken]
    split
    · simp [error?_nil]
    · rfl

theorem tracks_foldl {rules rest : List Rule} {c : QueryCache} (h : Tracks r t rules [] c)
    (hr : c.rules = rules ++ rest) :
    Tracks r t (rules ++ rest) []
        ((rest.zipIdx rules.length).foldl (fun c p => c.prepare r p.2 p.1) c) ∧
      ((rest.zipIdx rules.length).foldl (fun c p => c.prepare r p.2 p.1) c).rules = rules ++ rest := by
  induction rest generalizing rules c with
  | nil =>
    rw [List.append_nil] at hr ⊢
    exact ⟨h, hr⟩
  | cons rule rest ih =>
    have hat : c.rules[rules.length]? = some rule := by simp [hr]
    have hb : c.broken[rules.length]? = none := by rw [h.broken]; simp
    have hrules := (prepare_spec h.sound hat hb).rules
    rw [List.zipIdx_cons, List.foldl_cons]
    have := ih (tracks_prepare h hat) (by rw [hrules, hr]; simp)
    simpa using this

theorem tracks_start (rules : List Rule) : Tracks r t rules [] (start r rules) ∧ (start r rules).rules = rules := by
  have hfresh : Tracks r t [] [] (fresh rules) := by
    refine ⟨fun j => ?_, fun j => ?_, fun i l d h => ?_⟩
    · simp [fresh]
    · simp [fresh]
    · simp [fresh] at h
  simpa [start] using tracks_foldl hfresh rfl

/-! ## Errors in the order of the rules -/

def failures (r : Registry) (t : FileTree) (rules : List Rule) (visited : List FilePath) :
    List (Nat × RuleError) :=
  rules.zipIdx.filterMap fun p =>
    ((error? r t p.1 visited).map p.1.errorOf).map fun e => (p.2, e)

theorem map_snd_failures (rules : List Rule) (visited : List FilePath) :
    (failures r t rules visited).map Prod.snd =
      rules.filterMap fun rule => (error? r t rule visited).map rule.errorOf := by
  conv_rhs => rw [← List.zipIdx_map_fst 0 rules, List.filterMap_map]
  rw [failures, List.map_filterMap]
  congr 1
  funext p
  simp [Function.comp_def]

theorem mem_failures {rules : List Rule} {visited : List FilePath} {a : Nat × RuleError} :
    a ∈ failures r t rules visited ↔
      (rules[a.1]?.bind fun rule => (error? r t rule visited).map rule.errorOf) = some a.2 := by
  rw [failures, List.mem_filterMap, Option.bind_eq_some_iff]
  constructor
  · intro ⟨p, hp, ha⟩
    obtain ⟨e, he, rfl⟩ := Option.map_eq_some_iff.mp ha
    exact ⟨p.1, List.mem_zipIdx_iff_getElem?.mp hp, he⟩
  · intro ⟨rule, hr, he⟩
    exact ⟨(rule, a.1), List.mk_mem_zipIdx_iff_getElem?.mpr hr, by simp only [he, Option.map_some]⟩

def Earlier (a b : Nat × RuleError) : Prop := a.1 < b.1

instance : Std.Irrefl Earlier := ⟨fun a => Nat.lt_irrefl a.1⟩

instance : Std.Antisymm Earlier := ⟨fun _ _ hab hba => absurd hab (Nat.lt_asymm hba)⟩

theorem zipIdx_pairwise {α : Type} (l : List α) : l.zipIdx.Pairwise fun p q => p.2 < q.2 := by
  rw [← List.pairwise_map (f := Prod.snd), List.zipIdx_map_snd]
  exact List.pairwise_lt_range'

theorem failures_pairwise (rules : List Rule) (visited : List FilePath) :
    (failures r t rules visited).Pairwise Earlier := by
  rw [failures, List.pairwise_filterMap]
  refine (zipIdx_pairwise rules).imp fun {p q} hpq a ha b hb => ?_
  obtain ⟨_, _, rfl⟩ := Option.map_eq_some_iff.mp ha
  obtain ⟨_, _, rfl⟩ := Option.map_eq_some_iff.mp hb
  exact hpq

theorem errors_eq {rules : List Rule} {visited : List FilePath} {c : QueryCache}
    (h : Tracks r t rules visited c) :
    c.errors = rules.filterMap fun rule => (error? r t rule visited).map rule.errorOf := by
  have hbroken : c.broken.toList.Pairwise Earlier :=
    Std.TreeMap.ordered_keys_toList.imp fun hab => Nat.compare_eq_lt.mp hab
  have hlist : c.broken.toList = failures r t rules visited := by
    refine List.Pairwise.eq_of_mem_iff hbroken (failures_pairwise rules visited) fun a => ?_
    rw [Std.TreeMap.mem_toList_iff_getElem?_eq_some, h.broken, mem_failures]
  rw [errors, hlist, map_snd_failures]

end QueryCache

end RuleLint
