import RuleLint.Command.Program
import RuleLint.Proofs.FileTree.Write
import RuleLint.Proofs.Linting.Setup
import RuleLint.Proofs.Linting.Verdict

/-!
# Lint commands

A lint command is not started (`NotStarted`), and then it prints nothing on standard output and changes
nothing. Otherwise there is a report, which it prints or writes to one file (`Delivers`). The exit code
tells of an error, of findings that block or of neither (`execute_lint`).
-/

namespace RuleLint.Command

open Linting

def givenFloor (o : Options) : Option Severity := (o.value? "severity").bind Severity.ofText?

/-- The configuration and the rule sets of a lint command. A floor that is given plays no part in them. -/
def Sets (t : FileTree) (o : Options) (operands : List String) (c : Config) (sets : List RuleSet) : Prop :=
  Loads t (o.run lintSpec operands none) c sets

inductive NotStarted (t : FileTree) (o : Options) (operands : List String) : Prop
  | format (h : ReportFormat.ofText? (o.value lintSpec "format") = none)
  | severity {s : String} (given : o.value? "severity" = some s) (h : Severity.ofText? s = none)
  | load (h : CannotLoad t (o.run lintSpec operands none))

inductive EndsInError (t : FileTree) (o : Options) (operands : List String) : Prop
  | notStarted (h : NotStarted t o operands)
  | output {out : String} (given : o.value? "output" = some out) (h : ¬ t.CanWrite ⟨out⟩)
  | rule {c : Config} {sets : List RuleSet} {s : RuleSet} (loads : Sets t o operands c sets) (hs : s ∈ sets)
      (h : HasRuleError t c ⟨o.value lintSpec "base"⟩ s)

/-- A rule set of a lint command finds something that blocks. The floor that is given goes before that of
the configuration. -/
def IsBlocked (t : FileTree) (o : Options) (operands : List String) : Prop :=
  ∃ c sets s, Sets t o operands c sets ∧ s ∈ sets ∧
    HasBlocking t c ⟨o.value lintSpec "base"⟩ ((givenFloor o).getD c.policy.floor) s

/-- Where a report goes: to standard output, to the file that is to hold it, or nowhere if this cannot be
written. -/
inductive Delivers (env : Environment) (t : FileTree) (o : Options) (format : ReportFormat) (r : Report)
    (done : Outcome) : Prop
  | printed (output : o.value? "output" = none)
      (stdout : done.stdout = r.render format env.guid (env.color && !o.flag "no-color"))
      (tree : done.tree = t) (changes : done.changes = [])
  | written {out : String} {names : List String} (output : o.value? "output" = some out)
      (room : t.CanWrite ⟨out⟩) (stdout : done.stdout = "")
      (tree : FileTree.Written t done.tree ⟨out⟩ (r.render format env.guid false) names)
      (holds : done.tree.readText ⟨out⟩ = .ok (r.render format env.guid false))
      (changes : done.changes = [.write ⟨out⟩ (r.render format env.guid false)])
  | refused {out : String} (output : o.value? "output" = some out) (noRoom : ¬ t.CanWrite ⟨out⟩)
      (stdout : done.stdout = "") (tree : done.tree = t) (changes : done.changes = [])

section
variable {env : Environment} {t : FileTree} {o : Options} {operands : List String} {format : ReportFormat}
  {r : Report}

/-! ## Reports -/

theorem deliver_printed (h : o.value? "output" = none) :
    deliver env t o format r =
      ⟨r.exitCode, r.render format env.guid (env.color && !o.flag "no-color"), ruleErrorsText r, t, [], []⟩ := by
  unfold deliver
  rw [h]
  rfl

theorem deliver_written {out : String} {t' : FileTree} (h : o.value? "output" = some out)
    (hw : t.write ⟨out⟩ (r.render format env.guid false) = .ok t') :
    deliver env t o format r =
      ⟨r.exitCode, "", ruleErrorsText r, t', [.write ⟨out⟩ (r.render format env.guid false)], []⟩ := by
  unfold deliver
  simp only [h, FileTree.apply, hw]

theorem deliver_refused {out : String} {e : FileError} (h : o.value? "output" = some out)
    (hw : t.write ⟨out⟩ (r.render format env.guid false) = .error e) :
    deliver env t o format r = .refused t (ruleErrorsText r ++ errorText (.file e)) := by
  unfold deliver
  simp only [h, FileTree.apply, hw]

theorem delivers (env : Environment) (t : FileTree) (o : Options) (format : ReportFormat) (r : Report) :
    Delivers env t o format r (deliver env t o format r) := by
  cases h : o.value? "output" with
  | none =>
    rw [deliver_printed h]
    exact .printed h rfl rfl rfl
  | some out =>
    by_cases hcan : t.CanWrite ⟨out⟩
    · obtain ⟨t', hw⟩ := FileTree.exists_write_iff.mpr hcan
      obtain ⟨names, hwritten⟩ := FileTree.written_of_write hw
      rw [deliver_written h hw]
      exact .written h hcan rfl hwritten hwritten.readText rfl
    · obtain ⟨e, hw⟩ := FileTree.exists_write_error hcan (r.render format env.guid false)
      rw [deliver_refused h hw]
      exact .refused h hcan rfl rfl rfl

theorem exitCode_deliver_refused {out : String} (h : o.value? "output" = some out)
    (hno : ¬ t.CanWrite ⟨out⟩) : (deliver env t o format r).exitCode = 2 := by
  obtain ⟨e, hw⟩ := FileTree.exists_write_error hno (r.render format env.guid false)
  rw [deliver_refused h hw]
  rfl

theorem exitCode_deliver (h : ∀ out, o.value? "output" = some out → t.CanWrite ⟨out⟩) :
    (deliver env t o format r).exitCode = r.exitCode := by
  cases hout : o.value? "output" with
  | none => rw [deliver_printed hout]
  | some out =>
    obtain ⟨t', hw⟩ := FileTree.exists_write_iff.mpr (h out hout)
    rw [deliver_written hout hw]

/-! ## Starting -/

theorem formatOf_eq_error (h : ReportFormat.ofText? (o.value lintSpec "format") = none) :
    ∃ e, formatOf o = .error e := by
  unfold formatOf
  simp only [h]
  exact ⟨_, rfl⟩

theorem formatOf_eq_ok (h : ReportFormat.ofText? (o.value lintSpec "format") = some format) :
    formatOf o = .ok format := by
  unfold formatOf
  simp only [h]

theorem floorOf_eq_error {s : String} (given : o.value? "severity" = some s)
    (h : Severity.ofText? s = none) : ∃ e, floorOf o = .error e := by
  unfold floorOf
  simp only [given, h]
  exact ⟨_, rfl⟩

theorem floorOf_eq_ok (h : ∀ s, o.value? "severity" = some s → Severity.ofText? s ≠ none) :
    floorOf o = .ok (givenFloor o) := by
  unfold floorOf givenFloor
  cases hs : o.value? "severity" with
  | none => rfl
  | some s =>
    obtain ⟨v, hv⟩ := Option.ne_none_iff_exists'.mp (h s hs)
    simp only [hv, Option.bind_some]

structure Started (t : FileTree) (o : Options) (operands : List String) (format : ReportFormat)
    (c : Config) (sets : List RuleSet) : Prop where
  format : ReportFormat.ofText? (o.value lintSpec "format") = some format
  severity : ∀ s, o.value? "severity" = some s → Severity.ofText? s ≠ none
  loads : Sets t o operands c sets

def reportFor (t : FileTree) (o : Options) (c : Config) (sets : List RuleSet) : Report :=
  (reportOn .full t (withFloor c (givenFloor o)) ⟨o.value lintSpec "base"⟩ sets).1

theorem cannotLoad_run {floor : Option Severity} :
    CannotLoad t (o.run lintSpec operands floor) ↔ ¬ ∃ c sets, Sets t o operands c sets :=
  cannotLoad_iff

theorem exists_started (h : ¬ NotStarted t o operands) :
    ∃ format c sets, Started t o operands format c sets := by
  cases hformat : ReportFormat.ofText? (o.value lintSpec "format") with
  | none => exact absurd (.format hformat) h
  | some format =>
    rcases exists_loads_or t (o.run lintSpec operands none) with ⟨c, sets, hloads⟩ | hload
    · exact ⟨format, c, sets, hformat, fun s given hs => h (.severity given hs), hloads⟩
    · exact absurd (.load hload) h

theorem Started.not_notStarted {c : Config} {sets : List RuleSet}
    (h : Started t o operands format c sets) : ¬ NotStarted t o operands := by
  intro hn
  cases hn with
  | format hno =>
    rw [h.format] at hno
    cases hno
  | severity given hno => exact h.severity _ given hno
  | load hno => exact cannotLoad_run.mp hno ⟨c, sets, h.loads⟩

theorem lint_notStarted (env : Environment) (h : NotStarted t o operands) :
    (lint env t o operands).exitCode = 2 ∧ (lint env t o operands).stdout = "" ∧
      (lint env t o operands).tree = t ∧ (lint env t o operands).changes = [] := by
  unfold lint
  cases hformat : formatOf o with
  | error e => exact ⟨rfl, rfl, rfl, rfl⟩
  | ok format =>
    cases hfloor : floorOf o with
    | error e => exact ⟨rfl, rfl, rfl, rfl⟩
    | ok floor =>
      -- the words are fine, so it is the loading that fails
      have hload : CannotLoad t (o.run lintSpec operands floor) := by
        cases h with
        | format h =>
          obtain ⟨e, he⟩ := formatOf_eq_error h
          rw [he] at hformat
          cases hformat
        | severity given h =>
          obtain ⟨e, he⟩ := floorOf_eq_error given h
          rw [he] at hfloor
          cases hfloor
        | load h => exact cannotLoad_run.mpr (cannotLoad_run.mp h)
      dsimp only [bind, Except.bind, pure, Except.pure]
      cases hrun : (run t env.today (o.run lintSpec operands floor)).1 with
      | ok r => exact absurd (exists_run_iff.mp ⟨r, hrun⟩) (cannotLoad_iff.mp hload)
      | error e => exact ⟨rfl, rfl, rfl, rfl⟩

theorem run_started {c : Config} {sets : List RuleSet} (h : Started t o operands format c sets) :
    (run t env.today (o.run lintSpec operands (givenFloor o))).1 = .ok (reportFor t o c sets) :=
  run_eq_ok.mpr ⟨c, sets, h.loads, rfl⟩

theorem lint_started (env : Environment) {c : Config} {sets : List RuleSet}
    (h : Started t o operands format c sets) :
    (lint env t o operands).exitCode = (deliver env t o format (reportFor t o c sets)).exitCode ∧
      Delivers env t o format (reportFor t o c sets) (lint env t o operands) := by
  unfold lint
  rw [formatOf_eq_ok h.format, floorOf_eq_ok h.severity]
  dsimp only [bind, Except.bind, pure, Except.pure]
  rw [run_started h]
  refine ⟨rfl, ?_⟩
  cases delivers env t o format (reportFor t o c sets) with
  | printed output stdout tree changes => exact .printed output stdout tree changes
  | written output room stdout tree holds changes => exact .written output room stdout tree holds changes
  | refused output noRoom stdout tree changes => exact .refused output noRoom stdout tree changes

/-! ## Exit codes -/

theorem endsInError_iff {c : Config} {sets : List RuleSet} (h : Started t o operands format c sets)
    (hout : ∀ out, o.value? "output" = some out → t.CanWrite ⟨out⟩) :
    EndsInError t o operands ↔ (reportFor t o c sets).exitCode = 2 := by
  unfold reportFor
  rw [exitCode_reportOn]
  constructor
  · intro herror
    cases herror with
    | notStarted hn => exact absurd hn h.not_notStarted
    | output given h => exact absurd (hout _ given) h
    | rule loads hs h' =>
      obtain ⟨rfl, rfl⟩ := h.loads.unique loads
      exact ⟨_, hs, h'⟩
  · rintro ⟨s, hs, h'⟩
    exact .rule h.loads hs h'

theorem isBlocked_iff {c : Config} {sets : List RuleSet} (h : Started t o operands format c sets) :
    IsBlocked t o operands ↔ (reportFor t o c sets).verdict.pass = false := by
  unfold reportFor
  rw [pass_reportOn]
  simp only [hasBlocking_withFloor]
  constructor
  · rintro ⟨c', sets', s, loads, hs, h'⟩
    obtain ⟨rfl, rfl⟩ := h.loads.unique loads
    exact ⟨s, hs, h'⟩
  · rintro ⟨s, hs, h'⟩
    exact ⟨c, sets, s, h.loads, hs, h'⟩

end

/-- What a lint command does. Its exit code is 2 for an error, else 1 for findings that block, else 0. If it
is not started it has no effect; otherwise it delivers a report. -/
theorem execute_lint (env : Environment) (t : FileTree) {words : List String} {o : Options}
    {operands : List String} (h : programSpec.request words = .command lintSpec o operands) :
    ((execute env t words).exitCode = 2 ↔ EndsInError t o operands) ∧
    ((execute env t words).exitCode = 1 ↔ ¬ EndsInError t o operands ∧ IsBlocked t o operands) ∧
    ((execute env t words).exitCode = 0 ↔ ¬ EndsInError t o operands ∧ ¬ IsBlocked t o operands) ∧
    (NotStarted t o operands → (execute env t words).stdout = "" ∧ (execute env t words).tree = t ∧
      (execute env t words).changes = []) ∧
    (¬ NotStarted t o operands → ∃ format r,
      ReportFormat.ofText? (o.value lintSpec "format") = some format ∧
      (run t env.today (o.run lintSpec operands (givenFloor o))).1 = .ok r ∧
      Delivers env t o format r (execute env t words)) := by
  have hexecute : execute env t words = lint env t o operands := by
    unfold execute
    rw [h]
    rfl
  rw [hexecute]
  by_cases hn : NotStarted t o operands
  · obtain ⟨hcode, heffect⟩ := lint_notStarted env hn
    have herror : EndsInError t o operands := .notStarted hn
    rw [hcode]
    refine and_assoc.mp (and_assoc.mp ⟨?_, fun _ => heffect, fun h => absurd hn h⟩)
    simp [herror]
  · obtain ⟨format, c, sets, hs⟩ := exists_started hn
    obtain ⟨hcode, hdelivers⟩ := lint_started env hs
    rw [hcode]
    refine and_assoc.mp (and_assoc.mp ⟨?_, fun h => absurd h hn, fun _ => ?_⟩)
    · by_cases hout : ∀ out, o.value? "output" = some out → t.CanWrite ⟨out⟩
      · rw [exitCode_deliver hout, endsInError_iff hs hout, isBlocked_iff hs, Bool.not_eq_false]
        exact ⟨⟨Iff.rfl, Report.exitCode_eq_one⟩, Report.exitCode_eq_zero⟩
      · simp only [not_forall] at hout
        obtain ⟨out, given, hno⟩ := hout
        have herror : EndsInError t o operands := .output given hno
        rw [exitCode_deliver_refused given hno]
        simp [herror]
    · exact ⟨format, _, hs.format, run_started hs, hdelivers⟩

theorem execute_lint_twoDocuments :
    programSpec.request ["lint", "r", "-c", "c", "-b", "/", "-o", "o"] =
      .command lintSpec [("config", "c"), ("base", "/"), ("output", "o")] ["r"] ∧
    let done := execute ⟨⟨2024, 1, 1⟩, "", false⟩ twoDocuments ["lint", "r", "-c", "c", "-b", "/", "-o", "o"]
    done.exitCode = 1 ∧ done.stdout = "" ∧ ∃ text, done.tree.readText ⟨"o"⟩ = .ok text := by
  have hrequest : programSpec.request ["lint", "r", "-c", "c", "-b", "/", "-o", "o"] =
      .command lintSpec [("config", "c"), ("base", "/"), ("output", "o")] ["r"] := by cbv
  refine ⟨hrequest, ?_⟩
  intro done
  obtain ⟨s, hread, hreport⟩ := report_pattern
  have hs : Started twoDocuments [("config", "c"), ("base", "/"), ("output", "o")] ["r"] .text
      Config.default [s] := by
    refine ⟨by cbv, fun v given => ?_, loads_plainOptions (by cbv) hread⟩
    cases given
  have hout : twoDocuments.CanWrite ⟨"o"⟩ := ⟨by cbv, .inr ⟨[], "o", by cbv⟩⟩
  have hcan : ∀ out, Options.value? [("config", "c"), ("base", "/"), ("output", "o")] "output" = some out →
      twoDocuments.CanWrite ⟨out⟩ := by
    intro out given
    obtain rfl : "o" = out := Option.some.inj given
    exact hout
  have hreportFor : reportFor twoDocuments [("config", "c"), ("base", "/"), ("output", "o")] Config.default
      [s] = ⟨[s], [patternSummary], ⟨false, 1, 1, some .must, .guidance⟩⟩ := hreport
  obtain ⟨-, hone, -, -, heffect⟩ := execute_lint ⟨⟨2024, 1, 1⟩, "", false⟩ twoDocuments hrequest
  refine ⟨hone.mpr ⟨?_, ?_⟩, ?_⟩
  · rw [endsInError_iff hs hcan, hreportFor]
    simp [Report.exitCode, patternSummary]
  · rw [isBlocked_iff hs, hreportFor]
  · obtain ⟨format, r, -, -, hdelivers⟩ := heffect hs.not_notStarted
    cases hdelivers with
    | printed output => cases output
    | written output _ stdout _ holds =>
      obtain rfl : "o" = _ := Option.some.inj output
      exact ⟨stdout, _, holds⟩
    | refused output noRoom =>
      obtain rfl : "o" = _ := Option.some.inj output
      exact absurd hout noRoom

end RuleLint.Command
