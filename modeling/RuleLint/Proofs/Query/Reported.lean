import RuleLint.Proofs.Location
import RuleLint.Proofs.Query.CaptureNames
import RuleLint.Syntax.Grammars

/-!
# What a detector reports

A detector keeps the first of all stretches that have one range (`mem_map_firsts`, `pairwise_firsts`), and the
stretches are those of the captures of one name. So a range is reported exactly if it is captured under that
name, once, in the order of its first capture (`reports_violations`).
-/

namespace RuleLint

namespace Query

def TextSpan.range (s : TextSpan) : Nat × Nat := (s.start, s.stop)

/-! ## First stretches -/

section
variable {seen l : List TextSpan} {s : TextSpan} {r : Nat × Nat}

theorem firsts_cons (seen : List TextSpan) (s : TextSpan) (l : List TextSpan) : firsts seen (s :: l) =
    if s.range ∈ seen.map TextSpan.range then firsts seen l else s :: firsts (s :: seen) l := by
  have hany : (seen.any fun t => t.start = s.start ∧ t.stop = s.stop) = true ↔
      s.range ∈ seen.map TextSpan.range := by
    simp [TextSpan.range, List.mem_map, Prod.ext_iff]
  rw [firsts]
  by_cases hs : s.range ∈ seen.map TextSpan.range
  · rw [if_pos hs, if_pos (hany.mpr hs)]
  · rw [if_neg hs, if_neg (mt hany.mp hs)]

theorem mem_of_mem_firsts (h : s ∈ firsts seen l) : s ∈ l := by
  induction l generalizing seen with
  | nil => cases h
  | cons t l ih =>
    rw [firsts_cons] at h
    split at h
    · exact List.mem_cons_of_mem _ (ih h)
    · cases h with
      | head => exact List.mem_cons_self
      | tail _ h => exact List.mem_cons_of_mem _ (ih h)

theorem mem_map_firsts : r ∈ (firsts seen l).map TextSpan.range ↔
    r ∈ l.map TextSpan.range ∧ r ∉ seen.map TextSpan.range := by
  induction l generalizing seen with
  | nil => simp [firsts]
  | cons s l ih =>
    rw [firsts_cons]
    split
    · rename_i hs
      rw [ih, List.map_cons, List.mem_cons]
      constructor
      · rintro ⟨hl, hseen⟩
        exact ⟨.inr hl, hseen⟩
      · rintro ⟨rfl | hl, hseen⟩
        · exact absurd hs hseen
        · exact ⟨hl, hseen⟩
    · rename_i hs
      rw [List.map_cons, List.mem_cons, ih, List.map_cons, List.map_cons, List.mem_cons, List.mem_cons]
      constructor
      · rintro (rfl | ⟨hl, hseen⟩)
        · exact ⟨.inl rfl, hs⟩
        · exact ⟨.inr hl, fun h => hseen (.inr h)⟩
      · rintro ⟨hl, hseen⟩
        by_cases hr : r = s.range
        · exact .inl hr
        · refine .inr ⟨hl.resolve_left hr, ?_⟩
          rintro (h | h)
          · exact hr h
          · exact hseen h

/-- Ranges that are kept are in the order in which they come first. -/
theorem pairwise_firsts (seen l : List TextSpan) : ((firsts seen l).map TextSpan.range).Pairwise fun r r' =>
    (l.map TextSpan.range).idxOf r < (l.map TextSpan.range).idxOf r' := by
  induction l generalizing seen with
  | nil => exact .nil
  | cons s l ih =>
    -- ranges other than that of `s` are met one place later behind `s`
    have hlater : ∀ seen, s.range ∈ seen.map TextSpan.range →
        ((firsts seen l).map TextSpan.range).Pairwise fun r r' =>
          (s.range :: l.map TextSpan.range).idxOf r < (s.range :: l.map TextSpan.range).idxOf r' := by
      intro seen hs
      refine (ih seen).imp_of_mem ?_
      intro r r' hr hr' hlt
      have hne := ne_of_mem_of_not_mem hs (mem_map_firsts.mp hr).2
      have hne' := ne_of_mem_of_not_mem hs (mem_map_firsts.mp hr').2
      rw [List.idxOf_cons_ne _ hne, List.idxOf_cons_ne _ hne']
      omega
    rw [firsts_cons, List.map_cons]
    split
    · rename_i hs
      exact hlater seen hs
    · rw [List.map_cons, List.pairwise_cons]
      refine ⟨?_, hlater (s :: seen) List.mem_cons_self⟩
      intro r hr
      have hne := ne_of_mem_of_not_mem (List.mem_cons_self (a := s.range)) (mem_map_firsts.mp hr).2
      rw [List.idxOf_cons_self, List.idxOf_cons_ne _ hne]
      omega

end

end Query

/-! ## Captures that report -/

namespace Detector

open Query (QueryMatch TextSpan firsts held report)

def violations (d : Detector) (found : List QueryMatch) : List Query.Capture :=
  found.flatMap fun m => m.captures.filter d.Named

def violationRanges (d : Detector) (source : List Char) (found : List QueryMatch) : List (Nat × Nat) :=
  (d.violations found).map fun c => (TextSpan.ofNode source c.node).range

structure Reports (d : Detector) (source : List Char) (found : List QueryMatch) (ranges : List (Nat × Nat))
    (reported : List Match) : Prop where
  shown : List.Forall₂ (fun r m => m.IsAt source r.1 r.2) ranges reported
  captured : ∀ r, r ∈ ranges ↔
    ∃ m ∈ found, ∃ c ∈ m.captures, d.Named c ∧ (TextSpan.ofNode source c.node).range = r
  once : ranges.Nodup
  ordered : ranges.Pairwise fun r r' =>
    (d.violationRanges source found).idxOf r < (d.violationRanges source found).idxOf r'
  apart : reported.Nodup

section
variable {g : Grammar} {text : String} {d : Detector}

theorem mem_violations {found : List QueryMatch} {c : Query.Capture} :
    c ∈ d.violations found ↔ ∃ m ∈ found, c ∈ m.captures ∧ d.Named c := by
  simp [violations]

theorem held_eq (h : Detector.compile g text = .ok d) (found : List QueryMatch) :
    held d.capture found = (d.violations found).map (·.node) := by
  rw [held, violations, List.map_flatMap]
  congr 1
  funext m
  congr 2
  funext c
  exact decide_eq_decide.mpr (named_iff h c).symm

theorem report_eq (h : Detector.compile g text = .ok d) (source : List Char) (found : List QueryMatch) :
    report d.capture source found =
      (firsts [] ((d.violations found).map fun c => .ofNode source c.node)).map (·.toMatch source) := by
  rw [report, held_eq h, List.map_map]
  rfl

/-- What is reported for a list of stretches shows the ranges of the first ones. -/
theorem isAt_of_mem_firsts {source : List Char} {found : List QueryMatch} {s : TextSpan}
    (h : s ∈ firsts [] ((d.violations found).map fun c => .ofNode source c.node)) :
    (s.toMatch source).IsAt source s.start s.stop := by
  obtain ⟨c, -, rfl⟩ := List.mem_map.mp (Query.mem_of_mem_firsts h)
  exact (Query.isIn_ofNode source c.node).isAt_toMatch

theorem exists_reports (h : Detector.compile g text = .ok d) (source : List Char)
    (found : List QueryMatch) : ∃ ranges, d.Reports source found ranges (report d.capture source found) := by
  have hordered := Query.pairwise_firsts [] ((d.violations found).map fun c => .ofNode source c.node)
  rw [List.map_map] at hordered
  have honce : ((firsts [] ((d.violations found).map fun c => .ofNode source c.node)).map
      TextSpan.range).Nodup := by
    refine hordered.imp ?_
    rintro r r' hlt rfl
    omega
  rw [report_eq h]
  refine ⟨_, ?_, ?_, honce, hordered, ?_⟩
  · rw [List.forall₂_map_left_iff, List.forall₂_map_right_iff, List.forall₂_same]
    exact fun s hs => isAt_of_mem_firsts hs
  · intro r
    rw [Query.mem_map_firsts, List.map_map]
    constructor
    · rintro ⟨hr, -⟩
      obtain ⟨c, hc, rfl⟩ := List.mem_map.mp hr
      obtain ⟨m, hm, hc, hnamed⟩ := mem_violations.mp hc
      exact ⟨m, hm, c, hc, hnamed, rfl⟩
    · rintro ⟨m, hm, c, hc, hnamed, rfl⟩
      exact ⟨List.mem_map_of_mem (mem_violations.mpr ⟨m, hm, hc, hnamed⟩), nofun⟩
  · refine List.pairwise_map.mpr ((List.pairwise_map.mp honce).imp_of_mem ?_)
    intro s s' hs hs' hne heq
    have hat := isAt_of_mem_firsts hs
    rw [heq] at hat
    exact hne (Prod.ext_iff.mpr (hat.unique (isAt_of_mem_firsts hs')))

end

/-- A detector reports exactly the ranges that are captured under the name `violation`, each once and in the order
of its first capture, so that no two reported matches are equal. Captures of other names do not matter. -/
theorem reports_violations {g : Grammar} {text : String} {d : Detector}
    (h : Detector.compile g text = .ok d) (source : String) :
    (∀ found, ∃ ranges, d.Reports source.toList found ranges (report d.capture source.toList found)) ∧
    (∀ found found', d.violations found = d.violations found' →
      report d.capture source.toList found = report d.capture source.toList found') ∧
    ∀ t, ∃ ranges, d.Reports source.toList (d.query.matchesIn source.toList t) ranges (d.run source t) := by
  refine ⟨exists_reports h source.toList, ?_, fun t => exists_reports h source.toList _⟩
  intro found found' hsame
  rw [report_eq h, report_eq h, hsame]

theorem compile_part (g : Grammar) : (Detector.compile g "(_) @part @violation").toOption.map
    (fun d => (d.capture, d.query.captures)) = some (1, ["part", "violation"]) := by cbv

/-- Two matches hold one node and different parts of it. -/
def twoParts : List QueryMatch :=
  [⟨0, [⟨1, ⟨0, 0, 3⟩⟩, ⟨0, ⟨1, 0, 1⟩⟩]⟩, ⟨0, [⟨1, ⟨0, 0, 3⟩⟩, ⟨0, ⟨2, 2, 3⟩⟩]⟩]

theorem reports_violations_twoParts : ∃ d,
    Detector.compile (Language.grammar .c) "(_) @part @violation" = .ok d ∧
    (∃ ranges, d.Reports "é,b".toList twoParts ranges (report d.capture "é,b".toList twoParts)) ∧
    report d.capture "é,b".toList twoParts = [⟨1, 1, "é,b"⟩] := by
  obtain ⟨d, hd, hcaptures⟩ := exists_ok_of_toOption_map (compile_part (Language.grammar .c))
  obtain ⟨hcapture, -⟩ := Prod.mk.inj hcaptures
  obtain ⟨hreports, -, -⟩ := reports_violations hd "é,b"
  refine ⟨d, hd, hreports twoParts, ?_⟩
  rw [hcapture]
  decide +kernel

end Detector

end RuleLint
