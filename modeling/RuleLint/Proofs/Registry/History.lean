import RuleLint.Registry

/-!
# Runs of a registry

A registry is told of languages and asked for their grammars, by name, directly or to parse a text. What it
has become is determined by the calls so far: a language has the grammar that it was registered with last, and
this grammar has been fetched, once, if it was asked for since (`agreesWith_run`).

A call changes one slot at most (`slot?_after`). From this `Remembers` is kept by each call, and `AgreesWith`
reads it off.
-/

namespace RuleLint.Registry

inductive Call where
  | register (language : Language) (fetch : Unit → Grammar)
  | grammarNamed (name : String)
  | grammar (language : Language)
  | parse (language : Language) (text : String)

def after (r : Registry) : Call → Registry
  | .register l fetch => r.register l fetch
  | .grammarNamed name => (r.grammarNamed name).2
  | .grammar l => (r.grammar l).2
  | .parse l text => (r.parse l text).2

def run (r : Registry) (calls : List Call) : Registry := calls.foldl after r

def builtin : List Call := Language.all.map fun l => .register l fun _ => l.grammar

/-! ## Histories -/

inductive Call.AsksFor (l : Language) : Call → Prop
  | named : AsksFor l (.grammarNamed l.name)
  | grammar : AsksFor l (.grammar l)
  | parse (text : String) : AsksFor l (.parse l text)

def IsRegistered (calls : List Call) (l : Language) : Prop := ∃ fetch, .register l fetch ∈ calls

/-- Among the calls a language was registered last with `fetch`, and `since` are the calls after that one. -/
structure LastRegistered (calls : List Call) (l : Language) (fetch : Unit → Grammar) (since : List Call) :
    Prop where
  split : ∃ before, calls = before ++ .register l fetch :: since
  last : ¬ IsRegistered since l

section
variable {calls since since' : List Call} {l : Language} {fetch fetch' : Unit → Grammar} {c : Call}

theorem isRegistered_append {a b : List Call} :
    IsRegistered (a ++ b) l ↔ IsRegistered a l ∨ IsRegistered b l := by
  simp only [IsRegistered, List.mem_append, exists_or]

theorem isRegistered_concat : IsRegistered (calls ++ [c]) l ↔
    IsRegistered calls l ∨ ∃ fetch, c = .register l fetch := by
  rw [isRegistered_append]
  simp only [IsRegistered, List.mem_singleton, eq_comm]

theorem not_isRegistered_concat (h : ¬ IsRegistered calls l) (hc : ∀ fetch, c ≠ .register l fetch) :
    ¬ IsRegistered (calls ++ [c]) l := by
  rw [isRegistered_concat]
  rintro (hreg | ⟨fetch, hfetch⟩)
  · exact h hreg
  · exact hc fetch hfetch

theorem LastRegistered.isRegistered (h : LastRegistered calls l fetch since) : IsRegistered calls l := by
  obtain ⟨before, rfl⟩ := h.split
  exact ⟨fetch, by simp⟩

theorem lastRegistered_self : LastRegistered (calls ++ [.register l fetch]) l fetch [] :=
  ⟨⟨calls, rfl⟩, nofun⟩

theorem LastRegistered.concat (h : LastRegistered calls l fetch since)
    (hc : ∀ fetch', c ≠ .register l fetch') : LastRegistered (calls ++ [c]) l fetch (since ++ [c]) := by
  obtain ⟨before, rfl⟩ := h.split
  exact ⟨⟨before, by simp⟩, not_isRegistered_concat h.last hc⟩

theorem eq_nil_of_split {d : List Call} (h : ¬ IsRegistered since l)
    (heq : Call.register l fetch :: since = d ++ Call.register l fetch' :: since') : d = [] := by
  cases d with
  | nil => rfl
  | cons a d =>
    have hmem : Call.register l fetch' ∈ since := by
      rw [(List.cons.inj heq).2]
      simp
    exact absurd ⟨fetch', hmem⟩ h

/-- Neither of two last registrations is among the calls after the other. -/
theorem LastRegistered.unique (h : LastRegistered calls l fetch since)
    (h' : LastRegistered calls l fetch' since') : fetch = fetch' ∧ since = since' := by
  obtain ⟨before, hsplit⟩ := h.split
  obtain ⟨before', hsplit'⟩ := h'.split
  rcases List.append_eq_append_iff.mp (hsplit.symm.trans hsplit') with ⟨d, _, heq⟩ | ⟨d, _, heq⟩
  · obtain rfl := eq_nil_of_split h.last heq
    simpa using heq
  · obtain rfl := eq_nil_of_split h'.last heq
    simpa [eq_comm] using heq

end

/-! ## One call -/

section
variable {r : Registry} {l : Language} {c : Call}

theorem slot?_put (r : Registry) (language l : Language) (slot : Slot) :
    (r.put language slot).slot? l = if l = language then some slot else r.slot? l := rfl

theorem slot?_grammar (r : Registry) (language l : Language) :
    (r.grammar language).2.slot? l =
      if l = language then (r.slot? l).map fun s => s.take.2 else r.slot? l := by
  unfold grammar
  by_cases hl : l = language
  · subst hl
    cases hs : r.slot? l with
    | none => simp [hs]
    | some s => simp [slot?_put]
  · cases hs : r.slot? language with
    | none => simp [hl]
    | some s => simp [slot?_put, hl]

theorem ofName?_eq_some {name : String} : Language.ofName? name = some l ↔ name = l.name := by
  constructor
  · intro h
    have := List.find?_some h
    simpa [eq_comm] using this
  · rintro rfl
    exact Language.ofName?_name l

theorem grammarNamed_unknown {name : String} (h : ∀ l : Language, name ≠ l.name) :
    r.grammarNamed name = (.error (r.unsupported name), r) := by
  have hnone : Language.ofName? name = none :=
    Option.eq_none_iff_forall_ne_some.mpr fun l hl => h l (ofName?_eq_some.mp hl)
  simp [grammarNamed, hnone]

theorem grammarNamed_name (r : Registry) (l : Language) : r.grammarNamed l.name = r.grammar l := by
  simp [grammarNamed, Language.ofName?_name]

/-- What a call does to the slot of a language. -/
theorem slot?_after (r : Registry) (c : Call) (l : Language) :
    (∃ fetch, c = .register l fetch ∧ (r.after c).slot? l = some (.fresh fetch)) ∨
    (c.AsksFor l ∧ (r.after c).slot? l = (r.slot? l).map fun s => s.take.2) ∨
    ((∀ fetch, c ≠ .register l fetch) ∧ ¬ c.AsksFor l ∧ (r.after c).slot? l = r.slot? l) := by
  cases c with
  | register language fetch =>
    by_cases hl : l = language
    · subst hl
      exact .inl ⟨fetch, rfl, by simp [after, register, slot?_put]⟩
    · refine .inr (.inr ⟨?_, nofun, by simp [after, register, slot?_put, hl]⟩)
      intro fetch' heq
      exact hl (Call.register.inj heq).1.symm
  | grammarNamed name =>
    cases hname : Language.ofName? name with
    | none =>
      refine .inr (.inr ⟨nofun, ?_, by simp [after, grammarNamed, hname]⟩)
      intro hasks
      cases hasks
      simp [Language.ofName?_name] at hname
    | some language =>
      obtain rfl := ofName?_eq_some.mp hname
      by_cases hl : l = language
      · subst hl
        exact .inr (.inl ⟨.named, by simp [after, grammarNamed_name, slot?_grammar]⟩)
      · refine .inr (.inr ⟨nofun, ?_, by simp [after, grammarNamed_name, slot?_grammar, hl]⟩)
        intro hasks
        generalize hn : Call.grammarNamed language.name = c at hasks
        cases hasks with
        | named =>
          have hsome : some language = some l := by
            rw [← Language.ofName?_name language, ← Language.ofName?_name l, Call.grammarNamed.inj hn]
          exact hl (Option.some.inj hsome).symm
        | grammar => cases hn
        | parse text => cases hn
  | grammar language =>
    by_cases hl : l = language
    · subst hl
      exact .inr (.inl ⟨.grammar, by simp [after, slot?_grammar]⟩)
    · refine .inr (.inr ⟨nofun, ?_, by simp [after, slot?_grammar, hl]⟩)
      intro hasks
      cases hasks
      exact hl rfl
  | parse language text =>
    by_cases hl : l = language
    · subst hl
      exact .inr (.inl ⟨.parse text, by simp [after, parse, slot?_grammar]⟩)
    · refine .inr (.inr ⟨nofun, ?_, by simp [after, parse, slot?_grammar, hl]⟩)
      intro hasks
      cases hasks
      exact hl rfl

end

/-! ## Runs -/

inductive Remembers (calls : List Call) (r : Registry) (l : Language) : Prop
  | never (h : ¬ IsRegistered calls l) (hslot : r.slot? l = none)
  | fresh {fetch : Unit → Grammar} {since : List Call} (hlast : LastRegistered calls l fetch since)
      (h : ∀ c ∈ since, ¬ c.AsksFor l) (hslot : r.slot? l = some ⟨fetch, none, 0⟩)
  | fetched {fetch : Unit → Grammar} {since : List Call} (hlast : LastRegistered calls l fetch since)
      (h : ∃ c ∈ since, c.AsksFor l) (hslot : r.slot? l = some ⟨fetch, some (fetch ()), 1⟩)

section
variable {calls : List Call} {r : Registry} {l : Language}

theorem remembers_after (h : Remembers calls r l) (c : Call) : Remembers (calls ++ [c]) (r.after c) l := by
  rcases slot?_after r c l with ⟨fetch, rfl, hslot⟩ | ⟨hasks, hslot⟩ | ⟨hregister, hasks, hslot⟩
  · exact .fresh lastRegistered_self nofun hslot
  · have hregister : ∀ fetch, c ≠ .register l fetch := by
      rintro fetch rfl
      cases hasks
    cases h with
    | never h hnone => exact .never (not_isRegistered_concat h hregister) (by rw [hslot, hnone]; rfl)
    | fresh hlast h hs =>
      exact .fetched (hlast.concat hregister) ⟨c, by simp, hasks⟩ (by rw [hslot, hs]; rfl)
    | fetched hlast h hs =>
      obtain ⟨c', hc', hasks'⟩ := h
      exact .fetched (hlast.concat hregister) ⟨c', by simp [hc'], hasks'⟩ (by rw [hslot, hs]; rfl)
  · cases h with
    | never h hnone => exact .never (not_isRegistered_concat h hregister) (hslot.trans hnone)
    | fresh hlast h hs =>
      refine .fresh (hlast.concat hregister) ?_ (hslot.trans hs)
      intro c' hc'
      rcases List.mem_append.mp hc' with hc' | hc'
      · exact h c' hc'
      · exact List.mem_singleton.mp hc' ▸ hasks
    | fetched hlast h hs =>
      obtain ⟨c', hc', hasks'⟩ := h
      exact .fetched (hlast.concat hregister) ⟨c', by simp [hc'], hasks'⟩ (hslot.trans hs)

theorem remembers_run (h : Remembers calls r l) (more : List Call) :
    Remembers (calls ++ more) (r.run more) l := by
  induction more generalizing calls r with
  | nil => rwa [List.append_nil]
  | cons c more ih =>
    have := ih (remembers_after h c)
    rwa [List.append_assoc, List.singleton_append] at this

theorem remembers_empty (l : Language) : Remembers [] empty l := .never nofun rfl

theorem run_builtin : empty.run builtin = full := by
  simp only [run, builtin, List.foldl_map]
  rfl

end

/-- Each way to ask a registry for a language gives this grammar, or the tree of a text by it. -/
structure Gives (r : Registry) (l : Language) (g : Grammar) : Prop where
  grammar : (r.grammar l).1 = .ok g
  named : (r.grammarNamed l.name).1 = .ok g
  tree : ∀ text, (r.parse l text).1 = .ok (Syntax.parse g text.toList)

structure Refuses (r : Registry) (l : Language) (e : LintError) : Prop where
  grammar : r.grammar l = (.error e, r)
  named : r.grammarNamed l.name = (.error e, r)
  tree : ∀ text, r.parse l text = (.error e, r)

structure AgreesWith (calls : List Call) (r : Registry) : Prop where
  ordered : r.supported.Pairwise fun a b => a.ctorIdx < b.ctorIdx
  supported : ∀ l, l ∈ r.supported ↔ IsRegistered calls l
  loaded : ∀ l, r.isLoaded l ↔
    ∃ fetch since, LastRegistered calls l fetch since ∧ ∃ c ∈ since, c.AsksFor l
  gives : ∀ l, IsRegistered calls l → ∃ fetch since, LastRegistered calls l fetch since ∧
    r.Gives l (fetch ()) ∧ ∃ s, r.slot? l = some s ∧ s.fetches ≤ 1
  refuses : ∀ l, ¬ IsRegistered calls l →
    r.Refuses l (.unsupportedLanguage l.name (r.supported.map Language.name))
  unknown : ∀ name, (∀ l : Language, name ≠ l.name) →
    r.grammarNamed name = (.error (.unsupportedLanguage name (r.supported.map Language.name)), r)

section
variable {calls : List Call} {r : Registry} {l : Language}

theorem gives_of_slot? {s : Slot} (h : r.slot? l = some s) : r.Gives l s.take.1 := by
  have hgrammar : (r.grammar l).1 = .ok s.take.1 := by simp [grammar, h]
  refine ⟨hgrammar, by rw [grammarNamed_name, hgrammar], ?_⟩
  intro text
  simp [parse, hgrammar, Except.map]

theorem refuses_of_slot? (h : r.slot? l = none) : r.Refuses l (r.unsupported l.name) := by
  have hgrammar : r.grammar l = (.error (r.unsupported l.name), r) := by simp [grammar, h]
  refine ⟨hgrammar, by rw [grammarNamed_name, hgrammar], ?_⟩
  intro text
  simp [parse, hgrammar, Except.map]

theorem agreesWith_of_remembers (h : ∀ l, Remembers calls r l) : AgreesWith calls r where
  ordered := (show Language.all.Pairwise fun a b => a.ctorIdx < b.ctorIdx by decide).filter _
  supported l := by
    have hsupported : l ∈ r.supported ↔ (r.slot? l).isSome := by
      simp [Registry.supported, Language.mem_all]
    rw [hsupported]
    cases h l with
    | never h hslot => simp [hslot, h]
    | fresh hlast h hslot => simp [hslot, hlast.isRegistered]
    | fetched hlast h hslot => simp [hslot, hlast.isRegistered]
  loaded l := by
    unfold isLoaded
    cases h l with
    | never h hslot =>
      rw [hslot]
      simp only [Option.any_none, Bool.false_eq_true, false_iff]
      rintro ⟨fetch, since, hlast, _⟩
      exact h hlast.isRegistered
    | fresh hlast h hslot =>
      rw [hslot]
      simp only [Option.any_some, Option.isSome_none, Bool.false_eq_true, false_iff]
      rintro ⟨fetch', since', hlast', c, hc, hasks⟩
      obtain ⟨_, rfl⟩ := hlast.unique hlast'
      exact h c hc hasks
    | fetched hlast h hslot =>
      rw [hslot]
      simp only [Option.any_some, Option.isSome_some, true_iff]
      exact ⟨_, _, hlast, h⟩
  gives l hreg := by
    cases h l with
    | never h hslot => exact absurd hreg h
    | fresh hlast h hslot => exact ⟨_, _, hlast, gives_of_slot? hslot, _, hslot, Nat.zero_le 1⟩
    | fetched hlast h hslot => exact ⟨_, _, hlast, gives_of_slot? hslot, _, hslot, Nat.le_refl 1⟩
  refuses l hreg := by
    cases h l with
    | never h hslot => exact refuses_of_slot? hslot
    | fresh hlast h hslot => exact absurd hlast.isRegistered hreg
    | fetched hlast h hslot => exact absurd hlast.isRegistered hreg
  unknown _ hname := grammarNamed_unknown hname

end

/-- After any calls a registry agrees with them, whether it was empty at first or had all languages. -/
theorem agreesWith_run (calls : List Call) :
    AgreesWith calls (empty.run calls) ∧ AgreesWith (builtin ++ calls) (full.run calls) := by
  constructor
  · exact agreesWith_of_remembers fun l => remembers_run (remembers_empty l) calls
  · rw [← run_builtin]
    exact agreesWith_of_remembers fun l =>
      remembers_run (remembers_run (remembers_empty l) builtin) calls

end RuleLint.Registry
