import RuleLint.Proofs.Linting.Source
import RuleLint.Proofs.Linting.VisitOrder

/-!
# Requests to the cache of a run

A cache can be asked for detectors in any order. What it answers and what it holds then can be told of the
requests alone (`Remembers`): a rule fails with its first error and is never asked again, and what has been
compiled is kept or has made its rule fail (`Logged`), so nothing is compiled a second time (`memo_sound`).
-/

namespace RuleLint

namespace Linting

/-! ## Requests without a cache -/

def refusal? (r : Registry) (rule : Rule) (language : Language) : Option LintError :=
  match rule.check with
  | .grep _ => none
  | .ast _ query => errorOf? (detectorOf r rule query language)

/-- The first error of the rule at a place, before the requests or at one of them. -/
def firstError? (r : Registry) (rule : Rule) (i : Nat) (requests : List (Nat × Language)) : Option LintError :=
  (startError? r rule).or (requests.findSome? fun q => if q.1 = i then refusal? r rule q.2 else none)

/-- When the query of the rule at a place is compiled for a language: before the requests if the rule is for that
language, or at a request before which the rule has not failed, if the registry has the language. -/
inductive CompiledFor (r : Registry) (rules : List Rule) (requests : List (Nat × Language)) (i : Nat)
    (l : Language) : Prop
  | start {rule : Rule} (hr : rules[i]? = some rule) (ht : target? r rule = some l)
  | request {rule : Rule} {name query : String} {g : Grammar} {before later : List (Nat × Language)}
      (hr : rules[i]? = some rule) (hc : rule.check = .ast name query) (hg : r.grammar? l = some g)
      (hq : requests = before ++ (i, l) :: later) (hf : firstError? r rule i before = none)

section
variable {r : Registry} {rule : Rule} {rules : List Rule} {i : Nat} {requests : List (Nat × Language)}

theorem detectorOf_eq_ok {query : String} {l : Language} {d : Detector} : detectorOf r rule query l = .ok d ↔
    ∃ g, r.grammar? l = some g ∧ Detector.ofRule rule.id g query = .ok d := by
  simp only [detectorOf, bind_eq_ok, Registry.grammarOf_eq_ok]

theorem firstError?_nil (r : Registry) (rule : Rule) (i : Nat) : firstError? r rule i [] = startError? r rule := by
  simp [firstError?]

theorem firstError?_concat (r : Registry) (rule : Rule) (i : Nat) (requests : List (Nat × Language))
    (q : Nat × Language) : firstError? r rule i (requests ++ [q]) =
      (firstError? r rule i requests).or (if q.1 = i then refusal? r rule q.2 else none) := by
  simp [firstError?, List.findSome?_append, Option.or_assoc]

theorem CompiledFor.exists_ast {l : Language} (h : CompiledFor r rules requests i l) :
    ∃ rule name query, rules[i]? = some rule ∧ rule.check = .ast name query := by
  rcases h with @⟨rule, hr, ht⟩ | ⟨hr, hc, _, _, _⟩
  · cases hc : rule.check with
    | grep pattern => simp [target?, hc] at ht
    | ast name query => exact ⟨rule, name, query, hr, hc⟩
  · exact ⟨_, _, _, hr, hc⟩

theorem compiledFor_nil {l : Language} :
    CompiledFor r rules [] i l ↔ ∃ rule, rules[i]? = some rule ∧ target? r rule = some l := by
  constructor
  · rintro (⟨hr, ht⟩ | ⟨_, _, _, hq, _⟩)
    · exact ⟨_, hr, ht⟩
    · simp at hq
  · rintro ⟨rule, hr, ht⟩
    exact .start hr ht

theorem compiledFor_concat {q : Nat × Language} {l : Language} :
    CompiledFor r rules (requests ++ [q]) i l ↔ CompiledFor r rules requests i l ∨
      q = (i, l) ∧ ∃ rule name query g, rules[i]? = some rule ∧ rule.check = .ast name query ∧
        r.grammar? l = some g ∧ firstError? r rule i requests = none := by
  constructor
  · rintro (⟨hr, ht⟩ | @⟨rule, name, query, g, before, later, hr, hc, hg, hq, hf⟩)
    · exact .inl (.start hr ht)
    · rcases List.eq_nil_or_concat later with rfl | ⟨rest, last, rfl⟩
      · obtain ⟨rfl, hlast⟩ := List.append_inj' hq rfl
        exact .inr ⟨List.singleton_inj.mp hlast, rule, name, query, g, hr, hc, hg, hf⟩
      · rw [List.concat_eq_append, ← List.cons_append, ← List.append_assoc] at hq
        exact .inl (.request hr hc hg (List.append_inj' hq rfl).1 hf)
  · rintro (h | ⟨rfl, rule, name, query, g, hr, hc, hg, hf⟩)
    · cases h with
      | start hr ht => exact .start hr ht
      | request hr hc hg hq hf => exact .request hr hc hg (by rw [hq, List.append_assoc, List.cons_append]) hf
    · exact .request hr hc hg rfl hf

end

end Linting

open Linting

namespace QueryCache

def after (r : Registry) (c : QueryCache) (requests : List (Nat × Language)) : QueryCache :=
  requests.foldl (fun c q => (c.request r q.1 q.2).2) c

/-! ## What has been compiled -/

/-- A query is compiled once, and what has been compiled is kept or has made its rule fail. -/
structure Logged (c : QueryCache) : Prop where
  once : c.compiled.Nodup
  settled : ∀ p ∈ c.compiled, c.detectors.contains p ∨ c.broken.contains p.1
  kept : ∀ p, c.detectors.contains p → p ∈ c.compiled

theorem logged_fresh (rules : List Rule) : Logged (fresh rules) := by
  refine ⟨List.nodup_nil, nofun, fun p hp => ?_⟩
  simp [fresh] at hp

section
variable {r : Registry} {c : QueryCache} {i : Nat} {l : Language}

theorem contains_broken_fail (c : QueryCache) (i j : Nat) (rule : Rule) (e : LintError) :
    (c.fail i rule e).broken.contains j = (j == i || c.broken.contains j) := by
  rw [contains_broken, contains_broken, getElem?_broken_fail]
  by_cases h : j = i
  · subst h
    cases c.broken[j]? <;> simp
  · simp [h]

theorem logged_fail (h : Logged c) (i : Nat) (rule : Rule) (e : LintError) : Logged (c.fail i rule e) where
  once := h.once
  settled p hp := by
    rcases h.settled p hp with hd | hb
    · exact .inl hd
    · exact .inr (by rw [contains_broken_fail, hb, Bool.or_true])
  kept := h.kept

/-- A query of a rule that has not failed is compiled for a language for which no detector is kept. -/
theorem Logged.not_mem (h : Logged c) (hb : c.broken.contains i = false) (hd : c.detectors[(i, l)]? = none) :
    (i, l) ∉ c.compiled := by
  intro hmem
  rcases h.settled _ hmem with hkept | hfailed
  · rw [Std.HashMap.contains_eq_isSome_getElem?, hd] at hkept
    cases hkept
  · rw [hb] at hfailed
    cases hfailed

theorem logged_compile (h : Logged c) (hb : c.broken.contains i = false) (hd : c.detectors[(i, l)]? = none)
    (rule : Rule) (query : String) : Logged (c.compile r i rule query l).2 := by
  unfold compile
  cases r.grammarOf l with
  | error e => exact logged_fail h i rule e
  | ok g =>
    have honce : ((i, l) :: c.compiled).Nodup := List.nodup_cons.mpr ⟨h.not_mem hb hd, h.once⟩
    dsimp only
    cases Detector.ofRule rule.id g query with
    | ok d =>
      refine ⟨honce, fun p hp => ?_, fun p hp => ?_⟩
      · rcases List.mem_cons.mp hp with rfl | hp
        · exact .inl (by simp)
        · rcases h.settled p hp with hkept | hfailed
          · exact .inl (by simp [hkept])
          · exact .inr hfailed
      · rw [Std.HashMap.contains_insert, Bool.or_eq_true, beq_iff_eq] at hp
        rcases hp with rfl | hp
        · exact List.mem_cons_self
        · exact List.mem_cons_of_mem _ (h.kept p hp)
    | error e =>
      refine ⟨honce, fun p hp => ?_, fun p hp => List.mem_cons_of_mem _ (h.kept p hp)⟩
      rw [contains_broken_fail]
      rcases List.mem_cons.mp hp with rfl | hp
      · exact .inr (by simp)
      · rcases h.settled p hp with hkept | hfailed
        · exact .inl hkept
        · exact .inr (by rw [hfailed, Bool.or_true])

theorem compiled_compile (c : QueryCache) (rule : Rule) (query : String) (p : Nat × Language) :
    p ∈ (c.compile r i rule query l).2.compiled ↔
      p ∈ c.compiled ∨ p = (i, l) ∧ ∃ g, r.grammar? l = some g := by
  unfold compile
  cases hg : r.grammarOf l with
  | error e =>
    have hnone : ∀ g, r.grammar? l ≠ some g := fun g h => by rw [Registry.grammarOf_eq_ok.mpr h] at hg; cases hg
    simp [fail, hnone]
  | ok g =>
    have hsome : ∃ g, r.grammar? l = some g := ⟨g, Registry.grammarOf_eq_ok.mp hg⟩
    dsimp only
    cases Detector.ofRule rule.id g query <;> simp [fail, hsome, or_comm]

/-- A request for a detector of a rule: the rule has failed, the detector is kept, the rule has no query, or its
query is compiled. -/
theorem request_cases (r : Registry) (c : QueryCache) (i : Nat) (l : Language) :
    (c.broken.contains i ∧ c.request r i l = (none, c)) ∨
    (∃ d, c.detectors[(i, l)]? = some d ∧ c.request r i l = (some d, c)) ∨
    ((∀ rule name query, c.rules[i]? = some rule → rule.check ≠ .ast name query) ∧
      c.request r i l = (none, c)) ∨
    ∃ rule name query, c.broken.contains i = false ∧ c.detectors[(i, l)]? = none ∧ c.rules[i]? = some rule ∧
      rule.check = .ast name query ∧ c.request r i l = c.compile r i rule query l := by
  by_cases hb : c.broken.contains i
  · exact .inl ⟨hb, by rw [request, if_pos hb]⟩
  cases hd : c.detectors[(i, l)]? with
  | some d => exact .inr (.inl ⟨d, rfl, by rw [request, if_neg hb, hd]⟩)
  | none =>
  cases hr : c.rules[i]? with
  | none =>
    refine .inr (.inr (.inl ⟨fun _ _ _ hrule => ?_, by rw [request, if_neg hb, hd, hr]⟩))
    cases hrule
  | some rule =>
  cases hc : rule.check with
  | grep pattern =>
    have hrequest : c.request r i l = (none, c) := by simp only [request, if_neg hb, hd, hr, hc]
    refine .inr (.inr (.inl ⟨fun _ name query hrule => ?_, hrequest⟩))
    obtain rfl := Option.some.inj hrule
    rw [hc]
    exact nofun
  | ast name query =>
    have hrequest : c.request r i l = c.compile r i rule query l := by simp only [request, if_neg hb, hd, hr, hc]
    exact .inr (.inr (.inr ⟨rule, name, query, Bool.eq_false_of_not_eq_true hb, rfl, rfl, hc, hrequest⟩))

theorem logged_request (h : Logged c) (i : Nat) (l : Language) : Logged (c.request r i l).2 := by
  rcases request_cases r c i l with
    ⟨_, hsame⟩ | ⟨_, _, hsame⟩ | ⟨_, hsame⟩ | ⟨rule, name, query, hb, hd, _, _, hcompile⟩
  · rwa [hsame]
  · rwa [hsame]
  · rwa [hsame]
  · rw [hcompile]
    exact logged_compile h hb hd rule query

theorem compiled_request (h : Logged c) (p : Nat × Language) :
    p ∈ (c.request r i l).2.compiled ↔ p ∈ c.compiled ∨ p = (i, l) ∧ c.broken[i]? = none ∧
      ∃ rule name query g, c.rules[i]? = some rule ∧ rule.check = .ast name query ∧ r.grammar? l = some g := by
  rcases request_cases r c i l with
    ⟨hbroken, hsame⟩ | ⟨d, hd, hsame⟩ | ⟨hother, hsame⟩ | ⟨rule, name, query, hb, _, hr, hc, hcompile⟩
  · rw [contains_broken] at hbroken
    rw [hsame]
    refine ⟨.inl, fun hp => hp.resolve_right fun ⟨_, hb, _⟩ => ?_⟩
    rw [hb] at hbroken
    cases hbroken
  · have hkept : (i, l) ∈ c.compiled := h.kept _ (by rw [Std.HashMap.contains_eq_isSome_getElem?, hd]; rfl)
    rw [hsame]
    exact ⟨.inl, fun hp => hp.elim id fun ⟨heq, _⟩ => heq ▸ hkept⟩
  · rw [hsame]
    refine ⟨.inl, fun hp => hp.resolve_right ?_⟩
    rintro ⟨_, _, rule, name, query, g, hr, hc, _⟩
    exact hother rule name query hr hc
  · have hnone : c.broken[i]? = none := by
      rwa [contains_broken, Option.isSome_eq_false_iff, Option.isNone_iff_eq_none] at hb
    rw [hcompile, compiled_compile]
    refine or_congr_right (and_congr_right fun _ => ⟨?_, ?_⟩)
    · rintro ⟨g, hg⟩
      exact ⟨hnone, rule, name, query, g, hr, hc, hg⟩
    · rintro ⟨_, _, _, _, g, _, _, hg⟩
      exact ⟨g, hg⟩

theorem logged_prepare (h : Logged c) (i : Nat) (rule : Rule) : Logged (c.prepare r i rule) := by
  unfold prepare
  cases rule.check with
  | grep pattern => exact h
  | ast name query =>
    dsimp only
    split
    · exact h
    · cases r.languageNamed name with
      | error e => exact logged_fail h i rule e
      | ok l => exact logged_request (c := { c with declared := c.declared.insert i l }) ⟨h.once, h.settled, h.kept⟩ i l

theorem compiled_prepare (h : Logged c) {rule : Rule} (hr : c.rules[i]? = some rule) (hb : c.broken[i]? = none)
    (p : Nat × Language) :
    p ∈ (c.prepare r i rule).compiled ↔ p ∈ c.compiled ∨ p.1 = i ∧ target? r rule = some p.2 := by
  unfold prepare
  cases hc : rule.check with
  | grep pattern => simp [target?, hc]
  | ast name query =>
    dsimp only
    split
    · rename_i hq
      simp [target?, hc, hq]
    · rename_i hq
      cases hl : r.languageNamed name with
      | error e => simp [fail, target?, hc, hq, hl, Except.toOption]
      | ok l =>
        have hg : ∃ g, r.grammar? l = some g := by
          obtain ⟨_, hsome⟩ := languageNamed_eq_ok.mp hl
          exact Option.isSome_iff_exists.mp hsome
        have hlogged : Logged { c with declared := c.declared.insert i l } := ⟨h.once, h.settled, h.kept⟩
        have ht : target? r rule = some l := by simp [target?, hc, hq, hl, Except.toOption]
        dsimp only
        rw [compiled_request hlogged, ht]
        refine or_congr_right ⟨?_, ?_⟩
        · rintro ⟨rfl, _⟩
          exact ⟨rfl, rfl⟩
        · rintro ⟨hi, hl⟩
          obtain ⟨g, hg⟩ := hg
          exact ⟨Prod.ext hi (Option.some.inj hl).symm, hb, rule, name, query, g, hr, hc, hg⟩

end

/-! ## What a cache remembers -/

structure Remembers (r : Registry) (rules : List Rule) (requests : List (Nat × Language)) (c : QueryCache) :
    Prop where
  sound : Sound r c
  logged : Logged c
  broken : ∀ j : Nat, c.broken[j]? = rules[j]?.bind fun rule =>
    (firstError? r rule j requests).map rule.errorOf
  compiled : ∀ j l, (j, l) ∈ c.compiled ↔ CompiledFor r rules requests j l

section
variable {r : Registry} {c : QueryCache} {rules : List Rule} {requests : List (Nat × Language)}

theorem Remembers.prepare {rule : Rule} (h : Remembers r rules [] c) (hr : c.rules[rules.length]? = some rule) :
    Remembers r (rules ++ [rule]) [] (c.prepare r rules.length rule) := by
  have hb : c.broken[rules.length]? = none := by rw [h.broken]; simp
  have hp := prepare_spec h.sound hr hb
  have hget : ∀ j, (rules ++ [rule])[j]? = if j = rules.length then some rule else rules[j]? := by
    intro j
    grind
  refine ⟨hp.sound, logged_prepare h.logged _ _, fun j => ?_, fun j l => ?_⟩
  · rw [hp.broken, hget, h.broken]
    split
    · simp [firstError?_nil]
    · rfl
  · rw [compiled_prepare h.logged hr hb, h.compiled, compiledFor_nil, compiledFor_nil, hget]
    by_cases hj : j = rules.length
    · subst hj
      simp
    · simp [hj]

theorem remembers_foldl {rest : List Rule} (h : Remembers r rules [] c) (hr : c.rules = rules ++ rest) :
    Remembers r (rules ++ rest) [] ((rest.zipIdx rules.length).foldl (fun c p => c.prepare r p.2 p.1) c) := by
  induction rest generalizing rules c with
  | nil =>
    rw [List.append_nil]
    exact h
  | cons rule rest ih =>
    have hat : c.rules[rules.length]? = some rule := by simp [hr]
    have hb : c.broken[rules.length]? = none := by rw [h.broken]; simp
    have hrules := (prepare_spec h.sound hat hb).rules
    rw [List.zipIdx_cons, List.foldl_cons]
    have := ih (h.prepare hat) (by rw [hrules, hr]; simp)
    simpa using this

theorem remembers_start (r : Registry) (rules : List Rule) : Remembers r rules [] (start r rules) := by
  have hfresh : Remembers r [] [] (fresh rules) := by
    refine ⟨fun i l d h => ?_, logged_fresh rules, fun j => ?_, fun j l => ?_⟩
    · simp [fresh] at h
    · simp [fresh]
    · simp [fresh, compiledFor_nil]
  simpa [start] using remembers_foldl hfresh rfl

/-- A request for a detector can make its rule fail, unless the rule has failed before. -/
theorem touches_request (hs : Sound r c) (i : Nat) (l : Language) :
    Touches c (c.request r i l).2 i (c.rules[i]?.bind fun rule => (refusal? r rule l).map rule.errorOf) ∧
      Sound r (c.request r i l).2 := by
  have hidle {e : Option RuleError} (h : (c.broken[i]?).isSome ∨ e = none) : Touches c c i e := by
    refine ⟨rfl, fun _ => rfl, ?_, fun _ _ => rfl⟩
    rcases h with h | rfl
    · rw [Option.or_of_isSome h]
    · rw [Option.or_none]
  rcases request_cases r c i l with
    ⟨hb, hsame⟩ | ⟨d, hd, hsame⟩ | ⟨hother, hsame⟩ | ⟨rule, name, query, _, _, hr, hc, hcompile⟩
  · rw [hsame]
    exact ⟨hidle (.inl (by rwa [← contains_broken])), hs⟩
  · rw [hsame]
    refine ⟨hidle (.inr ?_), hs⟩
    cases hr : c.rules[i]? with
    | none => rfl
    | some rule =>
    cases hc : rule.check with
    | grep pattern => simp [refusal?, hc]
    | ast name query =>
      have hok := hs i l d hd rule name query hr hc
      simp [refusal?, hc, hok, errorOf?]
  · rw [hsame]
    refine ⟨hidle (.inr ?_), hs⟩
    cases hr : c.rules[i]? with
    | none => rfl
    | some rule =>
    cases hc : rule.check with
    | grep pattern => simp [refusal?, hc]
    | ast name query => exact absurd hc (hother rule name query hr)
  · have h := compile_spec hs hr hc l
    have hrefusal : refusal? r rule l = errorOf? (detectorOf r rule query l) := by simp [refusal?, hc]
    rw [hcompile, hr, Option.bind_some, hrefusal]
    exact ⟨h.touches, h.sound⟩

theorem rules_request (hs : Sound r c) (i : Nat) (l : Language) : (c.request r i l).2.rules = c.rules :=
  (touches_request hs i l).1.rules

theorem broken_after (hs : Sound r c) {i : Nat} {e : RuleError} (h : c.broken[i]? = some e)
    (later : List (Nat × Language)) : (c.after r later).broken[i]? = some e := by
  induction later generalizing c with
  | nil => exact h
  | cons q later ih =>
    obtain ⟨htouches, hs'⟩ := touches_request hs q.1 q.2
    refine ih hs' ?_
    by_cases hq : i = q.1
    · subst hq
      rw [htouches.self, h, Option.some_or]
    · rw [htouches.other i hq, h]

theorem Remembers.request (h : Remembers r rules requests c) (hr : c.rules = rules) (i : Nat) (l : Language) :
    Remembers r rules (requests ++ [(i, l)]) (c.request r i l).2 := by
  obtain ⟨htouches, hs⟩ := touches_request h.sound i l
  refine ⟨hs, logged_request h.logged i l, fun j => ?_, fun j m => ?_⟩
  · simp only [firstError?_concat]
    by_cases hj : j = i
    · subst hj
      rw [htouches.self, h.broken, hr]
      cases rules[j]? with
      | none => rfl
      | some rule => simp [Option.map_or]
    · rw [htouches.other j hj, h.broken]
      simp [Ne.symm hj]
  · rw [compiled_request h.logged, h.compiled, compiledFor_concat, hr, h.broken]
    refine or_congr_right ⟨?_, ?_⟩
    · rintro ⟨heq, hb, rule, name, query, g, hrule, hc, hg⟩
      obtain ⟨rfl, rfl⟩ := Prod.mk.inj heq
      rw [hrule, Option.bind_some, Option.map_eq_none_iff] at hb
      exact ⟨rfl, rule, name, query, g, hrule, hc, hg, hb⟩
    · rintro ⟨heq, rule, name, query, g, hrule, hc, hg, hf⟩
      obtain ⟨rfl, rfl⟩ := Prod.mk.inj heq
      refine ⟨rfl, ?_, rule, name, query, g, hrule, hc, hg⟩
      rw [hrule, Option.bind_some, hf, Option.map_none]

theorem Remembers.after (h : Remembers r rules requests c) (hr : c.rules = rules) (later : List (Nat × Language)) :
    Remembers r rules (requests ++ later) (c.after r later) ∧ (c.after r later).rules = rules := by
  induction later generalizing c requests with
  | nil => exact ⟨by rwa [List.append_nil], hr⟩
  | cons q later ih =>
    have hstep := ih (h.request hr q.1 q.2) ((rules_request h.sound q.1 q.2).trans hr)
    rw [List.append_assoc] at hstep
    exact hstep

/-- What the cache of a run has come to after any requests. -/
theorem remembers_after (r : Registry) (rules : List Rule) (requests : List (Nat × Language)) :
    Remembers r rules requests ((start r rules).after r requests) ∧
      ((start r rules).after r requests).rules = rules := by
  have hrules : (start r rules).rules = rules := (tracks_start (t := ⟨.emptyDir, []⟩) rules).2
  simpa using (remembers_start r rules).after hrules requests

/-! ## Answers -/

/-- Only a rule with a query has a detector. -/
theorem Remembers.exists_ast (h : Remembers r rules requests c) (hr : c.rules = rules) {i : Nat} {l : Language}
    {d : Detector} (hd : (c.request r i l).1 = some d) :
    ∃ rule name query, rules[i]? = some rule ∧ rule.check = .ast name query := by
  rcases request_cases r c i l with
    ⟨_, hsame⟩ | ⟨_, hkept, _⟩ | ⟨_, hsame⟩ | ⟨rule, name, query, _, _, hrule, hc, _⟩
  · rw [hsame] at hd
    cases hd
  · have hmem := h.logged.kept (i, l) (by rw [Std.HashMap.contains_eq_isSome_getElem?, hkept]; rfl)
    exact ((h.compiled i l).mp hmem).exists_ast
  · rw [hsame] at hd
    cases hd
  · exact ⟨rule, name, query, hr ▸ hrule, hc⟩

theorem request_of_broken {i : Nat} (h : (c.broken[i]?).isSome) (l : Language) :
    c.request r i l = (none, c) := by
  rw [QueryCache.request, if_pos (by rwa [contains_broken])]

theorem Remembers.request_eq_some_iff (h : Remembers r rules requests c) (hr : c.rules = rules) {i : Nat}
    {l : Language} {d : Detector} : (c.request r i l).1 = some d ↔ c.broken[i]? = none ∧
      ∃ rule name query g, rules[i]? = some rule ∧ rule.check = .ast name query ∧ r.grammar? l = some g ∧
        Detector.ofRule rule.id g query = .ok d := by
  cases hb : c.broken[i]? with
  | some e => simp [request_of_broken, hb]
  | none =>
  constructor
  · intro hd
    obtain ⟨rule, name, query, hrule, hc⟩ := h.exists_ast hr hd
    have hanswer := (request_spec h.sound (hr ▸ hrule) hc hb l).value
    rw [hd] at hanswer
    cases hok : detectorOf r rule query l with
    | error e =>
      rw [hok] at hanswer
      cases hanswer
    | ok d' =>
      rw [hok] at hanswer
      obtain rfl := Option.some.inj hanswer
      obtain ⟨g, hg, hcompile⟩ := detectorOf_eq_ok.mp hok
      exact ⟨rfl, rule, name, query, g, hrule, hc, hg, hcompile⟩
  · rintro ⟨_, rule, name, query, g, hrule, hc, hg, hd⟩
    rw [(request_spec h.sound (hr ▸ hrule) hc hb l).value, detectorOf_eq_ok.mpr ⟨g, hg, hd⟩]
    rfl

end

/-- The cache of a run is asked for detectors in any order. A request is answered if its rule has a query and has
not failed and the registry has the language, by the detector that compiling the query anew would give. A query is
compiled for a language once, also in vain. A rule that has failed stays so with its first error, and no request
for it is answered. -/
theorem memo_sound (r : Registry) (rules : List Rule) (requests : List (Nat × Language)) :
    let c := (start r rules).after r requests
    (∀ i l d, (c.request r i l).1 = some d ↔ c.broken[i]? = none ∧ ∃ rule name query g, rules[i]? = some rule ∧
      rule.check = .ast name query ∧ r.grammar? l = some g ∧ Detector.ofRule rule.id g query = .ok d) ∧
    (c.compiled.Nodup ∧ ∀ i l, (i, l) ∈ c.compiled ↔ CompiledFor r rules requests i l) ∧
    (∀ i : Nat, c.broken[i]? = rules[i]?.bind fun rule => (firstError? r rule i requests).map rule.errorOf) ∧
    ∀ (i : Nat) e, c.broken[i]? = some e → ∀ later, (c.after r later).broken[i]? = some e ∧
      ∀ l, ((c.after r later).request r i l).1 = none := by
  intro c
  obtain ⟨h, hr⟩ := remembers_after r rules requests
  refine ⟨fun i l d => h.request_eq_some_iff hr, ⟨h.logged.once, h.compiled⟩, h.broken, fun i e he later => ?_⟩
  have hlater : (c.after r later).broken[i]? = some e := broken_after h.sound he later
  exact ⟨hlater, fun l => by rw [request_of_broken (by rw [hlater]; rfl)]⟩

def assertionRule : Rule := ⟨"A", "t", .must, .ast "typescript" "(type_assertion) @violation", "m", none⟩

theorem startError?_assertionRule : startError? withAssertions assertionRule = none := by
  have hc : assertionRule.check = .ast "typescript" "(type_assertion) @violation" := rfl
  have hname : Language.ofName? "typescript" = some .typescript := by decide
  rw [startError?_eq hc (by decide), hname]
  dsimp only
  rw [grammarOf_typescript]
  exact errorOf?_eq_none.mpr (exists_ofRule compile_assertion _)

theorem detectorOf_assertion_typescript :
    ∃ d, detectorOf withAssertions assertionRule "(type_assertion) @violation" .typescript = .ok d := by
  obtain ⟨d, hd⟩ := exists_ofRule compile_assertion assertionRule.id
  exact ⟨d, detectorOf_eq_ok.mpr ⟨_, Registry.grammarOf_eq_ok.mp grammarOf_typescript, hd⟩⟩

theorem refusal?_assertion_tsx : ∃ e, refusal? withAssertions assertionRule .tsx = some (.query "A" e) := by
  obtain ⟨e, he⟩ := not_compile_assertion
  refine ⟨e, errorOf?_eq_some.mpr ?_⟩
  simp [detectorOf, Registry.grammarOf_eq_ok.mpr grammar?_tsx, Detector.ofRule, he, bind, Except.bind,
    Except.mapError, assertionRule]

theorem memo_sound_assertionRule :
    let c := (start withAssertions [assertionRule]).after withAssertions [(0, .typescript), (0, .tsx)]
    ∃ e, c.broken[0]? = some (assertionRule.errorOf (.query "A" e)) ∧
      (c.after withAssertions [(0, .tsx)]).broken[0]? = some (assertionRule.errorOf (.query "A" e)) ∧
      ((c.after withAssertions [(0, .tsx)]).request withAssertions 0 .typescript).1 = none ∧
      (0, .tsx) ∈ c.compiled ∧ c.compiled.Nodup := by
  intro c
  obtain ⟨-, ⟨honce, hcompiled⟩, hbroken, hfailed⟩ :=
    memo_sound withAssertions [assertionRule] [(0, .typescript), (0, .tsx)]
  obtain ⟨d, hd⟩ := detectorOf_assertion_typescript
  obtain ⟨e, he⟩ := refusal?_assertion_tsx
  have hfirst : refusal? withAssertions assertionRule .typescript = none := errorOf?_eq_none.mpr ⟨d, hd⟩
  have hb : c.broken[0]? = some (assertionRule.errorOf (.query "A" e)) := by
    rw [hbroken 0]
    simp [firstError?, startError?_assertionRule, hfirst, he]
  obtain ⟨hstays, hnone⟩ := hfailed 0 _ hb [(0, .tsx)]
  have hlogged : (0, .tsx) ∈ c.compiled := by
    have hbefore : firstError? withAssertions assertionRule 0 [(0, .typescript)] = none := by
      simp [firstError?, startError?_assertionRule, hfirst]
    exact (hcompiled 0 .tsx).mpr (.request rfl rfl grammar?_tsx rfl hbefore)
  exact ⟨e, hb, hstays, hnone .typescript, hlogged, honce⟩

end QueryCache

end RuleLint
