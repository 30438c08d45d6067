import RuleLint.Proofs.Location
import RuleLint.Proofs.Regex.Scan

/-!
# Matches of a pattern

Each stretch that a pattern finds is shown by one match, so the order of the stretches and the room between them
are those of the matches, and a match can be found again in the source (`matchesIn_recoverable`).
-/

namespace RuleLint.Regex

open Text (LineIndex byteSize slice?)

/-! ## Stretches in bytes -/

namespace Program

section
variable {p : Program} {source : List Char} {f g : Found} {m m' : Match}

/-- The bytes before the end of a match are those before it and its own. -/
theorem IsMatch.byteSize_take_stop (h : p.IsMatch source f) :
    byteSize (source.take f.stop) = f.offset source + byteSize f.chars := by
  obtain ⟨before, after, rfl, hstart, -⟩ := h
  have htake : (before ++ (f.chars ++ after)).take f.stop = before ++ f.chars := by
    rw [← List.append_assoc, Found.stop, ← hstart, ← List.length_append, List.take_left]
  have hbefore : (before ++ (f.chars ++ after)).take f.start = before := by
    rw [← hstart, List.take_left]
  rw [htake, Text.byteSize_append, Found.offset, hbefore]

theorem IsMatch.isAt (h : p.IsMatch source f) (hm : Match.ofFound (.ofText source) f = some m) :
    m.IsAt source (f.offset source) (f.offset source + byteSize f.chars) := by
  obtain ⟨m', hm', htext, hposition⟩ := Match.exists_ofFound source f
  obtain rfl := Option.some.inj (hm.symm.trans hm')
  refine ⟨hposition, Text.slice?_eq_some.mpr ?_⟩
  obtain ⟨before, after, rfl, hstart, -⟩ := h
  rw [htext]
  refine ⟨before, after, List.append_assoc .., ?_, rfl⟩
  rw [Found.offset, ← hstart, List.take_left]

/-- Every match found is shown. -/
theorem forall₂_filterMap {fs : List Found} (h : ∀ f ∈ fs, p.IsMatch source f) :
    List.Forall₂ (fun f m => m.IsAt source (f.offset source) (f.offset source + byteSize f.chars)) fs
      (fs.filterMap (Match.ofFound (.ofText source))) := by
  induction fs with
  | nil => exact .nil
  | cons f fs ih =>
    rw [List.forall_mem_cons] at h
    obtain ⟨m, hm, -, -⟩ := Match.exists_ofFound source f
    rw [List.filterMap_cons, hm]
    exact .cons (h.1.isAt hm) (ih h.2)

theorem offset_lt (hg : p.IsMatch source g) (hlt : f.start < g.start) :
    f.offset source < g.offset source :=
  Text.byteSize_take_lt hlt (Nat.le_of_add_right_le hg.matchesAt.le_length)

theorem stop_le_of_not_blocks (hlt : f.start < g.start) (h : ¬ f.Blocks g.start g.chars.length) :
    f.stop ≤ g.start := by
  by_contra hgt
  exact h ⟨Nat.le_of_lt hlt, .inl (by omega)⟩

/-- The bytes of a match come before the next match. -/
theorem offset_add_le (hf : p.IsMatch source f) (hle : f.stop ≤ g.start) :
    f.offset source + byteSize f.chars ≤ g.offset source := by
  rw [← hf.byteSize_take_stop]
  exact Text.byteSize_take_le source hle

end

end Program

/-! ## Matches -/

section
variable {pattern : Regex} {source : String}

theorem isMatch_of_mem {f : Program.Found} (h : f ∈ pattern.findAll source.toList) :
    pattern.program.IsMatch source.toList f :=
  (Program.isScan_matches ..).matched f h

/-- What holds of all stretches and those after them holds of their matches. -/
theorem pairwise_matchesIn {R : Match → Match → Prop}
    (h : ∀ f g m m', pattern.program.IsMatch source.toList f → pattern.program.IsMatch source.toList g →
      f.start < g.start → f.stop ≤ g.start →
      m.IsAt source.toList (f.offset source.toList) (f.offset source.toList + byteSize f.chars) →
      m'.IsAt source.toList (g.offset source.toList) (g.offset source.toList + byteSize g.chars) → R m m') :
    (pattern.matchesIn source).Pairwise R := by
  have hscan : pattern.program.IsScan source.toList (pattern.findAll source.toList) :=
    Program.isScan_matches ..
  refine List.pairwise_filterMap.mpr (hscan.apart.imp_of_mem ?_)
  rintro f g hf hg ⟨hlt, hfree⟩ m hm m' hm'
  have hf := hscan.matched f hf
  have hg := hscan.matched g hg
  exact h f g m m' hf hg hlt (Program.stop_le_of_not_blocks hlt hfree) (hf.isAt hm) (hg.isAt hm')

theorem text_eq_of_isAt {f : Program.Found} {m : Match}
    (h : m.IsAt source.toList (f.offset source.toList) (f.offset source.toList + byteSize f.chars)) :
    byteSize m.text.toList = byteSize f.chars := by
  have := h.stop_eq
  omega

end

/-- What a pattern finds is the one scan of the source, each stretch shown by a match. Matches are in the order
of their positions. The position of a match belongs to one offset, from which its text can be read back and
behind whose end the later matches are. -/
theorem matchesIn_recoverable (pattern : Regex) (source : String) :
    (∀ found, pattern.program.IsScan source.toList found ↔ found = pattern.findAll source.toList) ∧
    List.Forall₂ (fun f m => m.IsAt source.toList (f.offset source.toList)
      (f.offset source.toList + byteSize f.chars)) (pattern.findAll source.toList)
      (pattern.matchesIn source) ∧
    (pattern.matchesIn source).Pairwise (fun m m' => m.position < m'.position) ∧
    (∀ m ∈ pattern.matchesIn source, ∃ offset,
      (∀ i, (LineIndex.ofText source.toList).position? i = some m.position ↔ i = offset) ∧
      slice? source.toList offset (offset + byteSize m.text.toList) = some m.text.toList) ∧
    (pattern.matchesIn source).Pairwise fun m m' => ∀ i j,
      (LineIndex.ofText source.toList).position? i = some m.position →
      (LineIndex.ofText source.toList).position? j = some m'.position →
      i + byteSize m.text.toList ≤ j := by
  refine ⟨fun found => Program.isScan_iff, Program.forall₂_filterMap fun f => isMatch_of_mem, ?_, ?_, ?_⟩
  · refine pairwise_matchesIn fun f g m m' _ hg hlt _ hm hm' => ?_
    exact LineIndex.position_lt hm.position hm'.position (Program.offset_lt hg hlt)
  · intro m hm
    obtain ⟨f, hf, hm⟩ := List.mem_filterMap.mp hm
    have hat := (isMatch_of_mem hf).isAt hm
    refine ⟨f.offset source.toList, fun i => ⟨fun hi => LineIndex.position_inj hi hat.position, ?_⟩, ?_⟩
    · rintro rfl
      exact hat.position
    · rw [text_eq_of_isAt hat]
      exact hat.text
  · refine pairwise_matchesIn fun f g m m' hf _ _ hle hm hm' i j hi hj => ?_
    rw [LineIndex.position_inj hi hm.position, LineIndex.position_inj hj hm'.position, text_eq_of_isAt hm]
    exact Program.offset_add_le hf hle

/-- An empty match at the end of another one is left out. -/
example : ((Regex.compile "x*").toOption.map fun r => r.matchesIn "éxx\na") =
    some [⟨1, 1, ""⟩, ⟨1, 2, "xx"⟩, ⟨2, 1, ""⟩, ⟨2, 2, ""⟩] := by cbv

end RuleLint.Regex
