import RuleLint.Proofs.Linting.Failure
import RuleLint.Proofs.Linting.Independence

/-!
# Errors of a run

A run reports each rule that fails once, with its first error and in the order of the rules. A rule finds
in the files that it `Reaches` what it finds there on its own: in none if it cannot start, and otherwise
in those before the first one in which it is rejected.
-/

namespace RuleLint

namespace Linting

inductive Reaches (r : Registry) (t : FileTree) (rule : Rule) : List FilePath → List FilePath → Prop where
  | nothing {paths : List FilePath} {e : LintError} (start : CannotStart r rule e) : Reaches r t rule paths []
  | all {paths : List FilePath} (start : ∀ e, ¬ CannotStart r rule e)
    (accepted : ∀ file ∈ paths, ∀ e, ¬ RejectedIn r t rule file e) : Reaches r t rule paths paths
  | before {before after : List FilePath} {file : FilePath} {e : LintError}
    (start : ∀ e, ¬ CannotStart r rule e) (accepted : ∀ file ∈ before, ∀ e, ¬ RejectedIn r t rule file e)
    (rejected : RejectedIn r t rule file e) : Reaches r t rule (before ++ file :: after) before

def goesOn (r : Registry) (t : FileTree) (rule : Rule) (file : FilePath) : Bool :=
  (errorOf? (attempt r t rule file)).isNone

def reached (r : Registry) (t : FileTree) (rule : Rule) (paths : List FilePath) : List FilePath :=
  if (startError? r rule).isSome then [] else paths.takeWhile (goesOn r t rule)

section
variable {r : Registry} {t : FileTree} {domain : String} {rules : List Rule} {rule : Rule}
  {paths visited : List FilePath} {file : FilePath} {e : LintError}

theorem startError?_eq_none_iff : startError? r rule = none ↔ ∀ e, ¬ CannotStart r rule e := by
  simp only [Option.eq_none_iff_forall_ne_some, ne_eq, startError?_eq_some_iff]

theorem error?_iff : error? r t rule paths = some e ↔ CannotStart r rule e ∨
    (∀ e, ¬ CannotStart r rule e) ∧ ∃ file ∈ paths, RejectedIn r t rule file e := by
  rw [← startError?_eq_some_iff, ← startError?_eq_none_iff]
  cases hs : startError? r rule with
  | some e' => simp [error?, hs]
  | none => simp [error?_eq_some_iff hs]

/-! ## The files that a rule reaches -/

theorem Reaches.eq_nil {l : List FilePath} (h : Reaches r t rule paths l) (start : CannotStart r rule e) :
    l = [] := by
  cases h with
  | nothing _ => rfl
  | all hstart _ => exact absurd start (hstart e)
  | before hstart _ _ => exact absurd start (hstart e)

theorem Reaches.eq_self {l : List FilePath} (h : Reaches r t rule paths l)
    (hnone : error? r t rule paths = none) : l = paths := by
  have herror := fun e he => Option.ne_none_iff_exists'.mpr ⟨e, error?_iff.mpr he⟩ hnone
  cases h with
  | nothing start => exact (herror _ (.inl start)).elim
  | all _ _ => rfl
  | before hstart _ rejected => exact (herror _ (.inr ⟨hstart, _, by simp, rejected⟩)).elim

theorem goesOn_iff (hs : startError? r rule = none) :
    goesOn r t rule file ↔ ∀ e, ¬ RejectedIn r t rule file e := by
  simp only [goesOn, ← attempt_eq_error_iff hs, ← errorOf?_eq_some, Option.isNone_iff_eq_none,
    Option.eq_none_iff_forall_ne_some, ne_eq]

theorem reaches_takeWhile (hs : startError? r rule = none) (paths : List FilePath) :
    Reaches r t rule paths (paths.takeWhile (goesOn r t rule)) := by
  have hstart := startError?_eq_none_iff.mp hs
  induction paths with
  | nil => exact .all hstart (List.forall_mem_nil _)
  | cons file paths ih =>
    by_cases h : goesOn r t rule file
    · rw [List.takeWhile_cons_of_pos h]
      have hfile := (goesOn_iff hs).mp h
      generalize paths.takeWhile (goesOn r t rule) = l at ih
      cases ih with
      | nothing start => exact absurd start (hstart _)
      | all _ accepted => exact .all hstart (List.forall_mem_cons.mpr ⟨hfile, accepted⟩)
      | before _ accepted rejected =>
        exact .before hstart (List.forall_mem_cons.mpr ⟨hfile, accepted⟩) rejected
    · rw [List.takeWhile_cons_of_neg h]
      rw [goesOn_iff hs] at h
      simp only [not_forall, not_not] at h
      obtain ⟨e, he⟩ := h
      exact .before hstart (List.forall_mem_nil _) he

theorem reaches_reached (r : Registry) (t : FileTree) (rule : Rule) (paths : List FilePath) :
    Reaches r t rule paths (reached r t rule paths) := by
  unfold reached
  cases hs : startError? r rule with
  | some e => exact .nothing (startError?_eq_some_iff.mp hs)
  | none => exact reaches_takeWhile hs paths

theorem forall_mem_take_iff {α : Type} {p : α → Bool} {l : List α} {k : Nat} (hk : k ≤ l.length) :
    (∀ a ∈ l.take k, p a) ↔ k ≤ (l.takeWhile p).length := by
  induction l generalizing k with
  | nil => simp_all
  | cons a l ih =>
    cases k with
    | zero => simp
    | succ k =>
      rw [List.take_succ_cons, List.forall_mem_cons, ih (by simpa using hk)]
      by_cases ha : p a
      · simp [ha]
      · simp [ha]

theorem error?_take_eq_none_iff {k : Nat} (hk : k < paths.length) :
    error? r t rule (paths.take (k + 1)) = none ↔ k < (reached r t rule paths).length := by
  unfold reached
  cases hs : startError? r rule with
  | some e => simp [error?, hs]
  | none =>
    rw [if_neg (by simp), ← Nat.succ_le_iff, ← forall_mem_take_iff hk, error?_eq_none]
    simp [hs, goesOn, errorOf?_eq_none]

theorem found_getD : (found r t rule visited file).getD [] =
    if error? r t rule (visited ++ [file]) = none then matchesIn r t rule file else [] := by
  rw [error?_concat, matchesIn]
  cases h : error? r t rule visited with
  | some e => simp [found_of_error h]
  | none =>
    rw [found_of_no_error h]
    cases ha : attempt r t rule file <;> simp [errorOf?, Except.toOption]

theorem visits_eq_zipIdx (paths : List FilePath) :
    visits paths = paths.zipIdx.map fun p => (paths.take p.2, p.1) := by
  induction paths with
  | nil => rfl
  | cons file paths ih =>
    rw [visits_cons, ih, List.zipIdx_cons, List.zipIdx_succ]
    simp

theorem found_take {p : FilePath × Nat} (hp : p ∈ paths.zipIdx) :
    (found r t rule (paths.take p.2) p.1).getD [] =
      if p.2 < (reached r t rule paths).length then matchesIn r t rule p.1 else [] := by
  have hfile : paths[p.2]? = some p.1 := List.mem_zipIdx_iff_getElem?.mp hp
  obtain ⟨hlt, _⟩ := List.getElem?_eq_some_iff.mp hfile
  have htake : paths.take p.2 ++ [p.1] = paths.take (p.2 + 1) := by
    rw [List.take_add_one, hfile, Option.toList_some]
  rw [found_getD, htake]
  simp only [error?_take_eq_none_iff hlt]

theorem findings_eq (domain : String) : (files r t domain rules paths).1.findings =
    sortByFile (paths.zipIdx.flatMap fun p => rules.flatMap fun rule =>
      if p.2 < (reached r t rule paths).length then matchesIn r t rule p.1 else []) := by
  rw [files_eq, visits_eq_zipIdx]
  dsimp only
  rw [List.flatMap_map]
  refine congrArg sortByFile (List.flatMap_congr fun p hp => ?_)
  exact List.flatMap_congr fun rule _ => found_take hp

theorem flatMap_zipIdx {α β : Type} (f : α → List β) (l : List α) (n : Nat) :
    (l.zipIdx.flatMap fun p => if p.2 < n then f p.1 else []) = (l.take n).flatMap f := by
  induction l generalizing n with
  | nil => simp
  | cons a l ih =>
    rw [List.zipIdx_cons, List.zipIdx_succ, List.flatMap_cons, List.flatMap_map]
    cases n with
    | zero => simp
    | succ n => simpa using ih n

theorem take_length_reached : paths.take (reached r t rule paths).length = reached r t rule paths := by
  unfold reached
  split
  · rfl
  · exact (List.prefix_iff_eq_take.mp (List.takeWhile_prefix _)).symm

theorem findings_alone_eq (domain : String) : (files r t domain [rule] paths).1.findings =
    sortByFile ((reached r t rule paths).flatMap (matchesIn r t rule)) := by
  rw [findings_eq]
  simp only [List.flatMap_cons, List.flatMap_nil, List.append_nil]
  rw [flatMap_zipIdx, take_length_reached]

end

/-- A run reports a rule if it cannot start or is rejected in one of the files, once, in the order of the
rules and with the error of the start if there is one. The rule finds in the files that it reaches what it
finds there on its own. -/
theorem errors_and_findings (r : Registry) (t : FileTree) (domain : String) (rules : List Rule)
    (paths : List FilePath) :
    ∃ (cause : Rule → Option LintError) (reach : Rule → List FilePath),
      (∀ rule e, cause rule = some e ↔ CannotStart r rule e ∨
        (∀ e, ¬ CannotStart r rule e) ∧ ∃ file ∈ paths, RejectedIn r t rule file e) ∧
      (∀ rule, Reaches r t rule paths (reach rule)) ∧
      (files r t domain rules paths).1.errors =
        rules.filterMap (fun rule => (cause rule).map rule.errorOf) ∧
      (files r t domain rules paths).1.findings =
        sortByFile (paths.zipIdx.flatMap fun p => rules.flatMap fun rule =>
          if p.2 < (reach rule).length then matchesIn r t rule p.1 else []) ∧
      ((rules.map Rule.id).Nodup → ∀ rule ∈ rules,
        (files r t domain rules paths).1.findings.filter (fun f => f.ruleId = rule.id) =
          sortByFile ((reach rule).flatMap (matchesIn r t rule))) := by
  refine ⟨fun rule => error? r t rule paths, fun rule => reached r t rule paths, ?_, ?_, ?_, ?_, ?_⟩
  · exact fun _ _ => error?_iff
  · exact fun rule => reaches_reached r t rule paths
  · rw [files_eq]
  · exact findings_eq domain
  · intro hnd rule hrule
    rw [findings_of_rule hnd hrule, findings_alone_eq]

theorem errors_and_findings_unknownLanguage :
    ([unknownLanguage, anyNode].map Rule.id).Nodup ∧
    let t : FileTree := ⟨.dir [("a.tsx", .file (.text "<a/>")), ("b.ts", .file (.text "f()"))], []⟩
    let paths : List FilePath := [⟨"b.ts"⟩, ⟨"a.tsx"⟩]
    let summary := (files .full t "d" [unknownLanguage, anyNode] paths).1
    summary.errors = [unknownLanguage.errorOf (Registry.full.unsupported "cobol")] ∧
      summary.findings.filter (fun f => f.ruleId = "B") = [] ∧
      summary.findings.filter (fun f => f.ruleId = "A") =
        sortByFile (paths.flatMap (matchesIn .full t anyNode)) := by
  have hnd : ([unknownLanguage, anyNode].map Rule.id).Nodup := by decide
  refine ⟨hnd, ?_⟩
  intro t paths summary
  obtain ⟨cause, reach, hcause, hreach, herrors, _, hrules⟩ :=
    errors_and_findings .full t "d" [unknownLanguage, anyNode] paths
  have hunknown : CannotStart .full unknownLanguage (Registry.full.unsupported "cobol") :=
    .unknown rfl (by decide) (by decide)
  have hany : error? .full t anyNode paths = none := by
    refine error?_full_eq_none (fun name query hc => ?_) _
    obtain ⟨rfl, rfl⟩ := RuleCheck.ast.inj hc
    exact ⟨by decide, compile_anyNode⟩
  have hanyCause : cause anyNode = none := by
    refine Option.eq_none_iff_forall_ne_some.mpr fun e he => ?_
    rw [hcause, ← error?_iff, hany] at he
    cases he
  refine ⟨?_, ?_, ?_⟩
  · rw [herrors]
    simp [(hcause unknownLanguage _).mpr (.inl hunknown), hanyCause]
  · have h := hrules hnd unknownLanguage (by simp)
    rw [(hreach unknownLanguage).eq_nil hunknown] at h
    exact h.trans (by simp [sortByFile])
  · have h := hrules hnd anyNode (by simp)
    rwa [(hreach anyNode).eq_self hany] at h

end Linting

end RuleLint
