import RuleLint.Linting.Files

/-!
# Rules on their own

What a rule does apart from all others and without anything being kept: on one file (`attempt`), and on a
file after others have been visited (`found`). The first error, before the run or in a file, is the one
that keeps the rule from running any more (`error?`).
-/

namespace RuleLint

def Rule.errorOf (rule : Rule) (e : LintError) : RuleError := ⟨rule.id, e.message⟩

namespace Linting

def errorOf? {α : Type} : Except LintError α → Option LintError
  | .error e => some e
  | .ok _ => none

def detectorOf (r : Registry) (rule : Rule) (query : String) (language : Language) :
    Except LintError Detector := do
  Detector.ofRule rule.id (← r.grammarOf language) query

def target? (r : Registry) (rule : Rule) : Option Language :=
  match rule.check with
  | .grep _ => none
  | .ast language query =>
    if Text.isBlankText query then none else (r.languageNamed language).toOption

def startError? (r : Registry) (rule : Rule) : Option LintError :=
  match rule.check with
  | .grep _ => none
  | .ast language query =>
    if Text.isBlankText query then none
    else errorOf? (r.languageNamed language >>= detectorOf r rule query)

/-- What a rule that has not failed before finds in a file, if it runs on it. It fails if the registry
has the language of the file and the query cannot be used for it. -/
def attempt (r : Registry) (t : FileTree) (rule : Rule) (file : FilePath) :
    Except LintError (Option (List Finding)) :=
  match t.readText file, rule.check with
  | .error _, _ => .ok none
  | .ok source, .grep pattern => .ok (some ((pattern.matchesIn source).map (.ofMatch file rule)))
  | .ok source, .ast _ query =>
    match target? r rule, Language.ofPath? file with
    | some declared, some language =>
      if !declared.accepts language then .ok none
      else match r.grammarOf language with
        | .error _ => .ok none
        | .ok g => (Detector.ofRule rule.id g query).map fun d =>
          some ((d.run source (Syntax.parse g source.toList)).map (.ofMatch file rule))
    | _, _ => .ok none

def matchesIn (r : Registry) (t : FileTree) (rule : Rule) (file : FilePath) : List Finding :=
  (attempt r t rule file).toOption.join.getD []

def error? (r : Registry) (t : FileTree) (rule : Rule) (visited : List FilePath) : Option LintError :=
  (startError? r rule).or (visited.findSome? fun file => errorOf? (attempt r t rule file))

def found (r : Registry) (t : FileTree) (rule : Rule) (visited : List FilePath) (file : FilePath) :
    Option (List Finding) :=
  if (error? r t rule visited).isSome then none else (attempt r t rule file).toOption.join

def outcome (r : Registry) (t : FileTree) (rules : List Rule) (visited : List FilePath)
    (file : FilePath) : FileResult where
  ran := rules.any fun rule => (found r t rule visited file).isSome
  findings := rules.flatMap fun rule => (found r t rule visited file).getD []

def visitsFrom (visited : List FilePath) : List FilePath → List (List FilePath × FilePath)
  | [] => []
  | file :: files => (visited, file) :: visitsFrom (visited ++ [file]) files

def visits (files : List FilePath) : List (List FilePath × FilePath) := visitsFrom [] files

/-! ## Errors -/

theorem error?_nil (r : Registry) (t : FileTree) (rule : Rule) :
    error? r t rule [] = startError? r rule := by
  simp [error?]

theorem error?_concat (r : Registry) (t : FileTree) (rule : Rule) (visited : List FilePath)
    (file : FilePath) :
    error? r t rule (visited ++ [file]) =
      (error? r t rule visited).or (errorOf? (attempt r t rule file)) := by
  simp [error?, List.findSome?_append, Option.or_assoc]

theorem errorOf?_eq_none {α : Type} {x : Except LintError α} : errorOf? x = none ↔ ∃ a, x = .ok a := by
  cases x <;> simp [errorOf?]

theorem errorOf?_eq_some {α : Type} {x : Except LintError α} {e : LintError} :
    errorOf? x = some e ↔ x = .error e := by
  cases x <;> simp [errorOf?]

theorem error?_eq_none {r : Registry} {t : FileTree} {rule : Rule} {visited : List FilePath} :
    error? r t rule visited = none ↔
      startError? r rule = none ∧ ∀ file ∈ visited, ∃ o, attempt r t rule file = .ok o := by
  simp [error?, errorOf?_eq_none]

theorem attempt_unreadable (r : Registry) {t : FileTree} (rule : Rule) {file : FilePath} {e : FileError}
    (h : t.readText file = .error e) : attempt r t rule file = .ok none := by
  simp [attempt, h]

/-! ## Findings -/

section
variable {r : Registry} {t : FileTree} {rule : Rule} {file : FilePath}

theorem attempt_eq {name query text : String} {declared l : Language} {g : Grammar}
    (hc : rule.check = .ast name query) (ht : target? r rule = some declared)
    (htext : t.readText file = .ok text) (hl : Language.ofPath? file = some l)
    (hacc : declared.accepts l) (hg : r.grammarOf l = .ok g) :
    attempt r t rule file = (Detector.ofRule rule.id g query).map fun d =>
      some ((d.run text (Syntax.parse g text.toList)).map (.ofMatch file rule)) := by
  simp [attempt, htext, hc, ht, hl, hacc, hg]

theorem attempt_other {name query : String} {declared : Language} (hc : rule.check = .ast name query)
    (ht : target? r rule = some declared)
    (hn : ∀ l, Language.ofPath? file = some l → ¬ declared.accepts l) :
    attempt r t rule file = .ok none := by
  cases htext : t.readText file with
  | error e => exact attempt_unreadable r rule htext
  | ok text =>
  cases hl : Language.ofPath? file with
  | none => simp [attempt, htext, hc, ht, hl]
  | some l => simp [attempt, htext, hc, ht, hl, hn l hl]

/-- All that can come of trying a rule in a file. -/
theorem attempt_cases (r : Registry) (t : FileTree) (rule : Rule) (file : FilePath) :
    attempt r t rule file = .ok none ∨
    (∃ pattern text, rule.check = .grep pattern ∧ t.readText file = .ok text ∧
      attempt r t rule file = .ok (some ((pattern.matchesIn text).map (.ofMatch file rule)))) ∨
    ∃ name query text declared l g, rule.check = .ast name query ∧ target? r rule = some declared ∧
      t.readText file = .ok text ∧ Language.ofPath? file = some l ∧ declared.accepts l ∧
      r.grammarOf l = .ok g := by
  cases htext : t.readText file with
  | error e => exact .inl (attempt_unreadable r rule htext)
  | ok text =>
  cases hc : rule.check with
  | grep pattern => exact .inr (.inl ⟨pattern, text, rfl, rfl, by simp [attempt, htext, hc]⟩)
  | ast name query =>
  cases ht : target? r rule with
  | none => exact .inl (by simp [attempt, htext, hc, ht])
  | some declared =>
  by_cases h : ∃ l, Language.ofPath? file = some l ∧ declared.accepts l
  · obtain ⟨l, hl, hacc⟩ := h
    cases hg : r.grammarOf l with
    | error e => exact .inl (by simp [attempt, htext, hc, ht, hl, hacc, hg])
    | ok g => exact .inr (.inr ⟨name, query, text, declared, l, g, rfl, rfl, rfl, hl, hacc, hg⟩)
  · exact .inl (attempt_other hc ht fun l hl hacc => h ⟨l, hl, hacc⟩)

theorem matches_of_attempt {l : List Finding} (h : attempt r t rule file = .ok (some l)) :
    ∃ ms : List Match, l = ms.map (.ofMatch file rule) := by
  rcases attempt_cases r t rule file with
    ha | ⟨_, _, _, _, ha⟩ | ⟨_, query, _, _, _, g, hc, ht, htext, hl, hacc, hg⟩
  · rw [ha] at h
    cases h
  · rw [ha] at h
    exact ⟨_, (Option.some.inj (Except.ok.inj h)).symm⟩
  · rw [attempt_eq hc ht htext hl hacc hg] at h
    cases hd : Detector.ofRule rule.id g query with
    | error e => simp [hd, Except.map] at h
    | ok d =>
      simp only [hd, Except.map, Except.ok.injEq, Option.some.injEq] at h
      exact ⟨_, h.symm⟩

end

theorem matches_of_found (r : Registry) (t : FileTree) (rule : Rule) (visited : List FilePath)
    (file : FilePath) :
    ∃ ms : List Match, (found r t rule visited file).getD [] = ms.map (.ofMatch file rule) := by
  unfold found
  split
  · exact ⟨[], rfl⟩
  · rcases ha : attempt r t rule file with e | _ | l
    · exact ⟨[], rfl⟩
    · exact ⟨[], rfl⟩
    · exact matches_of_attempt ha

section
variable {r : Registry} {t : FileTree} {rule : Rule} {paths visited : List FilePath} {file : FilePath}

theorem file_of_mem_outcome {rules : List Rule} {x : Finding}
    (hx : x ∈ (outcome r t rules visited file).findings) : x.file = file := by
  obtain ⟨rule, _, hx⟩ := List.mem_flatMap.mp hx
  obtain ⟨ms, hms⟩ := matches_of_found r t rule visited file
  rw [hms] at hx
  obtain ⟨m, _, rfl⟩ := List.mem_map.mp hx
  rfl

theorem error?_mono (hv : ∀ file ∈ visited, file ∈ paths)
    (h : error? r t rule paths = none) : error? r t rule visited = none := by
  rw [error?_eq_none] at h ⊢
  exact ⟨h.1, fun file hfile => h.2 file (hv file hfile)⟩

theorem found_of_no_error (h : error? r t rule visited = none) :
    found r t rule visited file = (attempt r t rule file).toOption.join := by
  rw [found, h]
  rfl

theorem found_of_error {e : LintError} (h : error? r t rule visited = some e) :
    found r t rule visited file = none := by
  rw [found, h]
  rfl

theorem found_eq_some_iff {l : List Finding} :
    found r t rule visited file = some l ↔
      error? r t rule visited = none ∧ attempt r t rule file = .ok (some l) := by
  cases h : error? r t rule visited with
  | some e => simp [found_of_error h]
  | none =>
    rw [found_of_no_error h]
    rcases attempt r t rule file with e | _ | l' <;> simp [Except.toOption]

theorem found_mono {l : List Finding} (hv : ∀ f ∈ visited, f ∈ paths)
    (h : found r t rule paths file = some l) : found r t rule visited file = some l := by
  obtain ⟨he, ha⟩ := found_eq_some_iff.mp h
  exact found_eq_some_iff.mpr ⟨error?_mono hv he, ha⟩

end

/-! ## Visits -/

theorem visitsFrom_eq (visited files : List FilePath) :
    visitsFrom visited files = (visits files).map fun v => (visited ++ v.1, v.2) := by
  unfold visits
  suffices ∀ a b, visitsFrom (a ++ b) files = (visitsFrom b files).map fun v => (a ++ v.1, v.2) by
    simpa using this visited []
  intro a b
  induction files generalizing b with
  | nil => rfl
  | cons file files ih => simp [visitsFrom, ih]

theorem visits_cons (file : FilePath) (files : List FilePath) :
    visits (file :: files) = ([], file) :: (visits files).map fun v => (file :: v.1, v.2) := by
  rw [visits, visitsFrom, visitsFrom_eq]
  rfl

theorem map_snd_visits (files : List FilePath) : (visits files).map Prod.snd = files := by
  induction files with
  | nil => rfl
  | cons file files ih => rw [visits_cons, List.map_cons, List.map_map]; exact congrArg _ ih

theorem mem_visits {files visited : List FilePath} {file : FilePath} :
    (visited, file) ∈ visits files ↔ ∃ rest, files = visited ++ file :: rest := by
  induction files generalizing visited with
  | nil => simp [visits, visitsFrom]
  | cons first files ih =>
    rw [visits_cons, List.mem_cons, List.mem_map]
    cases visited with
    | nil => simp [eq_comm]
    | cons a visited =>
      constructor
      · rintro (h | ⟨⟨visited', file'⟩, hv, h⟩)
        · simp at h
        · simp only [Prod.mk.injEq, List.cons.injEq] at h
          obtain ⟨⟨rfl, rfl⟩, rfl⟩ := h
          obtain ⟨rest, rfl⟩ := ih.mp hv
          exact ⟨rest, rfl⟩
      · intro ⟨rest, h⟩
        obtain ⟨rfl, hfiles⟩ := List.cons.inj h
        exact .inr ⟨(visited, file), ih.mpr ⟨rest, hfiles⟩, rfl⟩

theorem mem_of_mem_visits {paths : List FilePath} {v : List FilePath × FilePath} (h : v ∈ visits paths) :
    (∀ f ∈ v.1, f ∈ paths) ∧ v.2 ∈ paths := by
  obtain ⟨rest, rfl⟩ := mem_visits.mp h
  exact ⟨fun f hf => List.mem_append_left _ hf, by simp⟩

theorem map_visits {β : Type} (f : FilePath → β) (paths : List FilePath) :
    (visits paths).map (fun v => f v.2) = paths.map f := by
  have h := congrArg (List.map f) (map_snd_visits paths)
  rwa [List.map_map] at h

theorem flatMap_visits {β : Type} (f : FilePath → List β) (paths : List FilePath) :
    (visits paths).flatMap (fun v => f v.2) = paths.flatMap f := by
  have h := congrArg (List.flatMap f) (map_snd_visits paths)
  rwa [List.flatMap_map] at h

theorem countP_visits (f : FilePath → Bool) (paths : List FilePath) :
    (visits paths).countP (fun v => f v.2) = paths.countP f := by
  have h := congrArg (List.countP f) (map_snd_visits paths)
  rwa [List.countP_map] at h

theorem visits_append (a b : List FilePath) :
    visits (a ++ b) = visits a ++ (visits b).map fun v => (a ++ v.1, v.2) := by
  induction a with
  | nil => simp [visits, visitsFrom]
  | cons file a ih => simp [visits_cons, ih]

end Linting

end RuleLint
