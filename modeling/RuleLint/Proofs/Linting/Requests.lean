import RuleLint.Proofs.Linting.Source

/-!
# Rules and a registry that keeps grammars

Linting a text asks the registry for grammars, which it keeps from the first request on, and reads the text into
one tree (`Asking.source`). What is found can be told of the registry as it was before, for a request changes no
answer (`answers_source`), and of each rule alone; so two lists of rules can be run in one go or one after the
other (`source_append`).
-/

namespace RuleLint

namespace Registry

/-- Two registries have the same grammars, whichever of them they keep. -/
def Alike (r r' : Registry) : Prop := ∀ l, r.grammar? l = r'.grammar? l

section
variable {r r' r'' : Registry}

theorem Alike.trans (h : r.Alike r') (h' : r'.Alike r'') : r.Alike r'' := fun l => (h l).trans (h' l)

theorem Alike.unsupported (h : r.Alike r') : r.unsupported = r'.unsupported := by
  have hsome : ∀ l, (r.slot? l).isSome = (r'.slot? l).isSome := by
    intro l
    have := congrArg Option.isSome (h l)
    simpa [grammar?] using this
  funext name
  simp only [Registry.unsupported, supported, hsome]

theorem Alike.grammarOf (h : r.Alike r') : r.grammarOf = r'.grammarOf := by
  funext l
  rw [Registry.grammarOf, Registry.grammarOf, h l, h.unsupported]

theorem take_take (s : Slot) : s.take.2.take.1 = s.take.1 := by
  obtain ⟨fetch, kept, fetches⟩ := s
  cases kept <;> rfl

/-- Keeping a grammar changes no answer. -/
theorem alike_grammar (r : Registry) (l : Language) : (r.grammar l).2.Alike r := by
  intro m
  unfold grammar
  cases hs : r.slot? l with
  | none => rfl
  | some s =>
    unfold grammar? put
    by_cases hm : m = l
    · simp [hm, hs, take_take]
    · simp [hm]

theorem fst_grammar (r : Registry) (l : Language) : (r.grammar l).1 = r.grammarOf l := by
  unfold grammar Registry.grammarOf grammar?
  cases r.slot? l <;> rfl

end

end Registry

open Registry (Alike)

/-! ## Computations that ask -/

/-- A computation that asks a registry for grammars. It leaves the registry with those that it keeps then. -/
abbrev Asking (α : Type) := ExceptT LintError (StateM Registry) α

namespace Asking

/-- `x` gives what `f` says of the registry, and leaves the registry with the same grammars. -/
structure Answers {α : Type} (x : Asking α) (f : Registry → Except LintError α) : Prop where
  value : ∀ r, (x.run r).1 = f r
  alike : ∀ r, Alike (x.run r).2 r
  congr : ∀ r r', r.Alike r' → f r = f r'

section
variable {α β : Type}

theorem run_bind (x : Asking α) (y : α → Asking β) (r : Registry) : (x >>= y).run r =
    match x.run r with
    | (.ok a, r) => (y a).run r
    | (.error e, r) => (.error e, r) := by
  have hbind : (x >>= y).run r = ExceptT.bindCont y (x.run r).1 (x.run r).2 := rfl
  rw [hbind]
  rcases x.run r with ⟨_ | _, _⟩ <;> rfl

theorem Answers.bind {x : Asking α} {f : Registry → Except LintError α} {y : α → Asking β}
    {g : α → Registry → Except LintError β} (hx : Answers x f) (hy : ∀ a, Answers (y a) (g a)) :
    Answers (x >>= y) fun r => f r >>= fun a => g a r where
  value r := by
    have hvalue := hx.value r
    have halike := hx.alike r
    rw [run_bind]
    rcases hrun : x.run r with ⟨_ | a, r'⟩
    · rw [← hvalue, hrun]
      rfl
    · rw [hrun] at halike
      rw [← hvalue, hrun]
      exact ((hy a).value r').trans ((hy a).congr r' r halike)
  alike r := by
    have halike := hx.alike r
    rw [run_bind]
    rcases hrun : x.run r with ⟨_ | a, r'⟩
    · rwa [hrun] at halike
    · rw [hrun] at halike
      exact ((hy a).alike r').trans halike
  congr r r' h := by
    have hcongr : (fun a => g a r) = fun a => g a r' := funext fun a => (hy a).congr r r' h
    rw [hx.congr r r' h, hcongr]

theorem answers_pure (a : α) : Answers (pure a) fun _ => .ok a where
  value _ := rfl
  alike _ _ := rfl
  congr _ _ _ := rfl

theorem answers_lift (x : Except LintError α) : Answers (liftM x) fun _ => x := by
  cases x <;> exact ⟨fun _ => rfl, fun _ _ => rfl, fun _ _ _ => rfl⟩

theorem Answers.of_eq {x : Asking α} {f g : Registry → Except LintError α} (h : Answers x f)
    (heq : ∀ r, f r = g r) : Answers x g := funext heq ▸ h

end

/-! ## Requests -/

def grammar (l : Language) : Asking Grammar := ExceptT.mk fun r => r.grammar l

def tree (l : Language) (text : String) : Asking Tree := ExceptT.mk fun r => r.parse l text

def languageNamed (name : String) : Asking Language := do
  let some l := Language.ofName? name | throw ((← get).unsupported name)
  let _ ← grammar l
  return l

theorem answers_grammar (l : Language) : Answers (grammar l) fun r => r.grammarOf l where
  value r := r.fst_grammar l
  alike r := r.alike_grammar l
  congr r r' h := by rw [h.grammarOf]

theorem answers_tree (l : Language) (text : String) :
    Answers (tree l text) fun r => (r.grammarOf l).map fun g => Syntax.parse g text.toList where
  value r := congrArg (Except.map _) (r.fst_grammar l)
  alike r := r.alike_grammar l
  congr r r' h := by rw [h.grammarOf]

theorem answers_languageNamed (name : String) :
    Answers (languageNamed name) fun r => r.languageNamed name := by
  unfold languageNamed Registry.languageNamed
  cases Language.ofName? name with
  | none => exact ⟨fun _ => rfl, fun _ _ => rfl, fun r r' h => by rw [h.unsupported]⟩
  | some l => exact (answers_grammar l).bind fun _ => answers_pure l

/-! ## Rules -/

/-- `Linting.runQuery` with a registry that keeps what it is asked for. The text is read by a request too. -/
def runQuery (id language query : String) (file : Option Language) (text : String) (known : Option Tree) :
    Asking (List Match × Option Tree) := do
  let declared ← languageNamed language
  match file with
  | none => return ([], known)
  | some l =>
    if !declared.accepts l || Text.isBlankText query then return ([], known)
    let g ← grammar l
    let d ← Detector.ofRule id g query
    match known with
    | some t => return (d.run text t, some t)
    | none =>
      let t ← tree l text
      return (d.run text t, some t)

def runRule (rule : Rule) (file : Option Language) (text : String) (known : Option Tree) :
    Asking (List Match × Option Tree) :=
  match rule.check with
  | .grep pattern => return (pattern.matchesIn text, known)
  | .ast language query => runQuery rule.id language query file text known

def runRules (file : FilePath) (text : String) : Option Tree → List Rule → Asking (List Finding)
  | _, [] => return []
  | known, rule :: rules => do
    let (found, known) ← runRule rule (Language.ofPath? file) text known
    let rest ← runRules file text known rules
    return found.map (.ofMatch file rule) ++ rest

def source (rules : List Rule) (file : FilePath) (text : String) : Asking (List Finding) :=
  runRules file text none rules

theorem answers_runQuery (id language query : String) (file : Option Language) (text : String)
    (known : Option Tree) : Answers (runQuery id language query file text known) fun r =>
      Linting.runQuery r id language query file text known := by
  unfold runQuery Linting.runQuery
  refine (answers_languageNamed language).bind fun declared => ?_
  cases file with
  | none => exact answers_pure _
  | some l =>
    dsimp only
    split
    · exact answers_pure _
    · cases known with
      | some t =>
        exact (answers_grammar l).bind fun g => (answers_lift _).bind fun d => answers_pure _
      | none =>
        have hread := (answers_grammar l).bind fun g => (answers_lift (Detector.ofRule id g query)).bind fun d =>
          (answers_tree l text).bind fun t => answers_pure (d.run text t, some t)
        refine hread.of_eq fun r => ?_
        cases r.grammarOf l with
        | error e => rfl
        | ok g =>
          dsimp only [bind, Except.bind, Except.map]
          cases Detector.ofRule id g query <;> rfl

theorem answers_runRule (rule : Rule) (file : Option Language) (text : String) (known : Option Tree) :
    Answers (runRule rule file text known) fun r => Linting.runRule r rule file text known := by
  unfold runRule Linting.runRule
  cases rule.check with
  | grep pattern => exact answers_pure _
  | ast language query => exact answers_runQuery rule.id language query file text known

theorem answers_runRules (file : FilePath) (text : String) (known : Option Tree) (rules : List Rule) :
    Answers (runRules file text known rules) fun r => Linting.runRules r file text known rules := by
  induction rules generalizing known with
  | nil => exact answers_pure []
  | cons rule rules ih =>
    unfold runRules Linting.runRules
    exact (answers_runRule rule _ text known).bind fun found => (ih found.2).bind fun rest => answers_pure _

theorem answers_source (rules : List Rule) (file : FilePath) (text : String) :
    Answers (source rules file text) fun r => Linting.source r rules file text :=
  answers_runRules file text none rules

end Asking

namespace Linting

theorem source_append_eq (r : Registry) (file : FilePath) (text : String) (rs qs : List Rule) :
    source r (rs ++ qs) file text = match source r rs file text, source r qs file text with
      | .error e, _ => .error e
      | .ok _, .error e => .error e
      | .ok found, .ok more => .ok (found ++ more) := by
  rw [source_eq_mapM, source_eq_mapM r rs, source_eq_mapM r qs, List.mapM_append]
  cases rs.mapM fun rule => source r [rule] file text with
  | error e => rfl
  | ok found =>
    cases qs.mapM fun rule => source r [rule] file text with
    | error e => rfl
    | ok more => simp [bind, Except.bind, pure, Except.pure, Except.map]

/-- Linting a text with two lists of rules in one go is linting it with the one and with the other. So each rule
could read the text anew, and a text is refused for the first rule that refuses it alone. It makes no difference
what the registry has kept, and it goes on to have the same grammars. -/
theorem source_append (r : Registry) (file : FilePath) (text : String) (rs qs : List Rule) :
    (source r (rs ++ qs) file text = match source r rs file text, source r qs file text with
      | .error e, _ => .error e
      | .ok _, .error e => .error e
      | .ok found, .ok more => .ok (found ++ more)) ∧
    (∀ rules, source r rules file text =
      (rules.mapM fun rule => source r [rule] file text).map List.flatten) ∧
    (∀ rules e, source r rules file text = .error e ↔ ∃ before rule after, rules = before ++ rule :: after ∧
      (∀ b ∈ before, ∃ found, source r [b] file text = .ok found) ∧ source r [rule] file text = .error e) ∧
    ∀ r', Alike r' r → ∀ rules,
      ((Asking.source rules file text).run r').1 = source r rules file text ∧
      Alike ((Asking.source rules file text).run r').2 r' := by
  refine ⟨source_append_eq r file text rs qs, fun rules => source_eq_mapM r rules file text,
    fun _ _ => source_eq_error, fun r' h rules => ?_⟩
  have hanswers := Asking.answers_source rules file text
  exact ⟨(hanswers.value r').trans (hanswers.congr r' r h), hanswers.alike r'⟩

theorem source_append_unknownLanguage :
    Alike (Registry.full.grammar .python).2 .full ∧
    source .full ([anyNode] ++ [unknownLanguage]) ⟨"a.py"⟩ "x" = .error (Registry.full.unsupported "cobol") ∧
    ((Asking.source ([anyNode] ++ [unknownLanguage]) ⟨"a.py"⟩ "x").run (Registry.full.grammar .python).2).1 =
      .error (Registry.full.unsupported "cobol") := by
  have hkept : Alike (Registry.full.grammar .python).2 .full := Registry.full.alike_grammar .python
  have hfirst : source .full [anyNode] ⟨"a.py"⟩ "x" = .ok [] := by
    have hl : Registry.full.languageNamed "typescript" = .ok .typescript := by
      refine languageNamed_eq_ok.mpr ⟨by decide, ?_⟩
      simp [Registry.grammarOf_eq_ok.mp (Registry.grammarOf_full .typescript)]
    have hfile : Language.ofPath? ⟨"a.py"⟩ = some .python := by decide
    have hother : ∀ l, Language.ofPath? ⟨"a.py"⟩ = some l → ¬ Language.typescript.accepts l := by
      intro l hl
      obtain rfl := Option.some.inj (hfile.symm.trans hl)
      decide
    have hrun : runRule .full anyNode (Language.ofPath? ⟨"a.py"⟩) "x" none = .ok ([], none) :=
      runQuery_other hl hother
    rw [source_singleton, hrun]
    rfl
  have hsecond : source .full [unknownLanguage] ⟨"a.py"⟩ "x" = .error (Registry.full.unsupported "cobol") :=
    source_singleton_eq_error.mpr (.unknown rfl (by decide))
  obtain ⟨happend, -, -, hrequests⟩ := source_append .full ⟨"a.py"⟩ "x" [anyNode] [unknownLanguage]
  rw [hfirst, hsecond] at happend
  refine ⟨hkept, happend, ?_⟩
  rw [(hrequests _ hkept _).1, happend]

end Linting

end RuleLint
