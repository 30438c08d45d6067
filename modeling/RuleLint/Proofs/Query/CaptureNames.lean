import Mathlib
import RuleLint.Proofs.Except
import RuleLint.Query.Basic

/-!
# Names of captures

A capture is known by the number of its name. Reading a query gives a number to a name when the name is met for
the first time and never gives a second one: each reader keeps the names of a draft apart (`KeepsNames`). So the
captures that a detector reports are those of the name `violation` (`Detector.named_iff`).
-/

set_option mvcgen.warning false

namespace RuleLint.Query

open Std.Do

/-- A reader that gives a value does not leave a name with two numbers if there was none. -/
abbrev KeepsNames {α : Type} (x : Reader α) : Prop :=
  ⦃fun d => ⌜d.captures.Nodup⌝⦄ x ⦃⇓? _ d => ⌜d.captures.Nodup⌝⦄

theorem KeepsNames.nodup {α : Type} {x : Reader α} (h : KeepsNames x) {d d' : Draft} {a : α}
    (hx : x.run d = .ok (a, d')) (hd : d.captures.Nodup) : d'.captures.Nodup := by
  have hpost : (wp⟦(x.run d : Except Refusal (α × Draft))⟧ (⇓? r => ⌜r.2.captures.Nodup⌝)).down := h d hd
  rw [hx] at hpost
  exact hpost

/-! ## Words and steps -/

section
variable (g : Grammar) (s : String) (cs : List Char)

@[spec] theorem keepsNames_refuse {α : Type} (cause : Cause) : KeepsNames (refuse cause cs : Reader α) := by
  intro d hd
  trivial

@[spec] theorem keepsNames_textIn : KeepsNames (textIn cs) := by mvcgen [textIn]

@[spec] theorem keepsNames_push (step : Step) : KeepsNames (push step) := by mvcgen [push]

@[spec] theorem keepsNames_stepCount : KeepsNames stepCount := by mvcgen [stepCount]

@[spec] theorem keepsNames_notePlace : KeepsNames (notePlace cs) := by
  mvcgen [notePlace]
  grind

/-- A name is added only if it has no number yet. -/
@[spec] theorem keepsNames_captureIndex : KeepsNames (captureIndex s) := by
  mvcgen [captureIndex]
  rename_i d hd hnew
  simp only [List.findIdx?_eq_none_iff, decide_eq_false_iff_not] at hnew
  exact List.nodup_append.mpr ⟨hd, List.nodup_singleton s, by simpa using hnew⟩

@[spec] theorem keepsNames_kindOf : KeepsNames (kindOf g s cs) := by mvcgen [kindOf]

@[spec] theorem keepsNames_memberKind : KeepsNames (memberKind g s cs) := by mvcgen [memberKind]

@[spec] theorem keepsNames_absentField : KeepsNames (absentField g cs) := by mvcgen [absentField]

@[spec] theorem keepsNames_nodeStep (depth : Nat) (immediate : Bool) :
    KeepsNames (nodeStep g depth immediate cs) := by mvcgen [nodeStep]

/-! ## Conditions and what follows a pattern -/

@[spec] theorem keepsNames_arguments (n : Nat) (args : List Argument) :
    KeepsNames (arguments n args cs) := by
  induction n generalizing args cs with
  | zero => mvcgen [arguments]
  | succ n ih => mvcgen [arguments, ih]

@[spec] theorem keepsNames_condition : KeepsNames (condition cs) := by mvcgen [condition]

@[spec] theorem keepsNames_suffixes (start depth n : Nat) : KeepsNames (suffixes start depth n cs) := by
  induction n generalizing cs with
  | zero => mvcgen [suffixes]
  | succ n ih => mvcgen [suffixes, ih]

end

/-! ## Patterns -/

structure PatternsKeepNames (g : Grammar) (n : Nat) : Prop where
  pattern : ∀ depth immediate cs, KeepsNames (pattern g n depth immediate cs)
  body : ∀ depth immediate start cs, KeepsNames (body g n depth immediate start cs)
  branches : ∀ depth immediate starts cs, KeepsNames (branches g n depth immediate starts cs)
  sequence : ∀ depth immediate cs, KeepsNames (sequence g n depth immediate cs)
  parts : ∀ depth owner before absent cs, KeepsNames (parts g n depth owner before absent cs)

theorem patternsKeepNames (g : Grammar) (n : Nat) : PatternsKeepNames g n := by
  induction n with
  | zero => constructor <;> intros <;> mvcgen [pattern, body, branches, sequence, parts]
  | succ n ih =>
    obtain ⟨hpattern, hbody, hbranches, hsequence, hparts⟩ := ih
    constructor
    case pattern =>
      intro depth immediate cs
      unfold pattern
      mvcgen [hbody]
    case body =>
      intro depth immediate start cs
      unfold body
      mvcgen [hbranches, hsequence, hparts, hpattern]
    case branches =>
      intro depth immediate starts cs
      unfold branches
      mvcgen [hpattern, hbranches]
    case sequence =>
      intro depth immediate cs
      unfold sequence
      mvcgen [hpattern, hsequence]
    case parts =>
      intro depth owner before absent cs
      unfold parts
      mvcgen [hpattern, hparts]

theorem keepsNames_patterns (g : Grammar) (size n : Nat) (cs : List Char) :
    KeepsNames (patterns g size n cs) := by
  induction n generalizing cs with
  | zero => mvcgen [patterns]
  | succ n ih =>
    have hpattern := fun fuel => (patternsKeepNames g fuel).pattern
    cases cs with
    | nil => mvcgen [patterns]
    | cons c cs => mvcgen [patterns, ih, hpattern]

/-! ## Queries -/

section
variable {g : Grammar} {text : String}

theorem nodup_of_outline {o : Outline} (h : outline g text = .ok o) : o.captures.Nodup := by
  unfold outline at h
  dsimp only at h
  split at h
  · cases h
  · rename_i ps d hrun
    obtain rfl := Except.ok.inj h
    exact KeepsNames.nodup (keepsNames_patterns g _ _ _) hrun List.nodup_nil

theorem nodup_of_compile {q : Query} (h : Query.compile g text = .ok q) : q.captures.Nodup := by
  obtain ⟨o, ho, h⟩ := bind_eq_ok.mp h
  obtain ⟨steps, -, h⟩ := bind_eq_ok.mp h
  obtain ⟨tests, -, h⟩ := bind_eq_ok.mp h
  obtain rfl := Except.ok.inj h
  exact nodup_of_outline ho

end

end RuleLint.Query

namespace RuleLint.Detector

def Named (d : Detector) (c : Query.Capture) : Prop := d.query.captures[c.index]? = some violationCapture

instance (d : Detector) (c : Query.Capture) : Decidable (d.Named c) := by
  unfold Named
  infer_instance

theorem named_iff {g : Grammar} {text : String} {d : Detector} (h : Detector.compile g text = .ok d)
    (c : Query.Capture) : d.Named c ↔ c.index = d.capture := by
  obtain ⟨q, hq, h⟩ := bind_eq_ok.mp h
  have hnodup := Query.nodup_of_compile (mapError_eq_ok.mp hq)
  split at h
  · rename_i capture hcapture
    obtain rfl := Except.ok.inj h
    obtain ⟨hlt, hname, -⟩ := List.findIdx?_eq_some_iff_getElem.mp hcapture
    have hcaptures : q.captures[capture]? = some violationCapture := by
      rw [List.getElem?_eq_getElem hlt, of_decide_eq_true hname]
    constructor
    · intro hc
      exact ((List.getElem?_inj hlt hnodup).mp (hcaptures.trans hc.symm)).symm
    · rintro rfl
      exact hcaptures
  · cases h

end RuleLint.Detector
