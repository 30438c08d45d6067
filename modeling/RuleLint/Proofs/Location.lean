import RuleLint.Grep
import RuleLint.Proofs.Text.Position
import RuleLint.Query.Basic

/-!
# Places of matches

A match gives the position of its first character and its text, and these tell its stretch of the source
(`Match.IsAt.unique`). What a pattern finds is located by its offset among the starts of lines. A node brings
its line and the bytes before it in that line, which are counted again as characters. Both ways lead to the
position of the offset (`located_alike`).
-/

namespace RuleLint

open Text (LineIndex Position byteSize slice? lastLine)

/-! ## Matches -/

def Match.position (m : Match) : Position := ⟨m.line, m.column⟩

/-- A match shows a stretch of a source, given in bytes. -/
structure Match.IsAt (source : List Char) (start stop : Nat) (m : Match) : Prop where
  position : (LineIndex.ofText source).position? start = some m.position
  text : slice? source start stop = some m.text.toList

section
variable {source : List Char} {m m' : Match} {i j i' j' : Nat}

theorem Match.IsAt.stop_eq (h : m.IsAt source i j) : i + byteSize m.text.toList = j := by
  obtain ⟨_, _, _, _, hstop⟩ := Text.slice?_eq_some.mp h.text
  exact hstop

/-- A match shows one stretch only. -/
theorem Match.IsAt.unique (h : m.IsAt source i j) (h' : m.IsAt source i' j') : i = i' ∧ j = j' := by
  obtain rfl := LineIndex.position_inj h.position h'.position
  exact ⟨rfl, h.stop_eq.symm.trans h'.stop_eq⟩

end

/-! ## Matches of patterns -/

section
variable {source : List Char}

def Regex.Program.Found.offset (source : List Char) (found : Regex.Program.Found) : Nat :=
  byteSize (source.take found.start)

theorem Match.exists_ofFound (source : List Char) (found : Regex.Program.Found) :
    ∃ m, Match.ofFound (.ofText source) found = some m ∧ m.text.toList = found.chars ∧
      (LineIndex.ofText source).position? (found.offset source) = some m.position := by
  have hposition := LineIndex.position?_append (source.take found.start) (source.drop found.start)
  rw [List.take_append_drop] at hposition
  refine ⟨⟨_, _, String.ofList found.chars⟩, ?_, String.toList_ofList, hposition⟩
  rw [Match.ofFound, LineIndex.ofText]
  change Option.map _ ((LineIndex.ofText source).position? _) = _
  rw [hposition]
  rfl

end

/-! ## Nodes -/

namespace Query

/-- A stretch starts and ends between characters of a source, and its line and column are those of its start,
the column in bytes. -/
structure TextSpan.IsIn (source : List Char) (s : TextSpan) : Prop where
  start : ∃ before after, before ++ after = source ∧ byteSize before = s.start ∧
    s.line = before.count '\n' ∧ s.column = byteSize (lastLine before)
  stop : ∃ before after, before ++ after = source ∧ byteSize before = s.stop
  ordered : s.start ≤ s.stop

section
variable {source : List Char} {s : TextSpan}

theorem isIn_ofNode (source : List Char) (n : NodeRef) : (TextSpan.ofNode source n).IsIn source where
  start := ⟨source.take n.start, source.drop n.start, List.take_append_drop .., rfl, rfl, rfl⟩
  stop := by
    refine ⟨source.take n.start ++ (source.drop n.start).take (n.stop - n.start),
      (source.drop n.start).drop (n.stop - n.start), ?_, ?_⟩
    · rw [List.append_assoc, List.take_append_drop, List.take_append_drop]
    · rw [Text.byteSize_append, TextSpan.ofNode, List.drop_take]
  ordered := Nat.le_add_right ..

/-- The bytes before a stretch in its line can be read as characters. -/
theorem TextSpan.IsIn.exists_before (h : s.IsIn source) : ∃ before, s.column ≤ s.start ∧
    slice? source (s.start - s.column) s.start = some before ∧
    (LineIndex.ofText source).position? s.start = some ⟨s.line + 1, before.length + 1⟩ := by
  obtain ⟨before, after, rfl, hstart, hline, hcolumn⟩ := h.start
  obtain ⟨head, happend, -, -⟩ := Text.exists_lastLine before
  have hsize : byteSize head + s.column = s.start := by
    rw [hcolumn, ← Text.byteSize_append, happend, hstart]
  refine ⟨lastLine before, by omega, Text.slice?_eq_some.mpr ⟨head, after, ?_, ?_, ?_⟩, ?_⟩
  · rw [happend]
  · omega
  · omega
  · rw [← hstart, hline]
    exact LineIndex.position?_append before after

theorem TextSpan.IsIn.exists_text (h : s.IsIn source) :
    ∃ text, slice? source s.start s.stop = some text := by
  obtain ⟨before, after, htext, hstart, -, -⟩ := h.start
  obtain ⟨before', after', htext', hstop⟩ := h.stop
  have hordered := h.ordered
  rcases List.append_eq_append_iff.mp (htext.trans htext'.symm) with ⟨text, rfl, -⟩ | ⟨text, rfl, -⟩
  · rw [Text.byteSize_append] at hstop
    exact ⟨text, Text.slice?_eq_some.mpr ⟨before, after', htext', hstart, by omega⟩⟩
  · -- the stretch is empty, so that what seems to follow its end has no characters
    rw [Text.byteSize_append] at hstart
    exact ⟨[], Text.slice?_eq_some.mpr ⟨before' ++ text, after, by simpa using htext,
      by rw [Text.byteSize_append, hstart], by simp [byteSize]; omega⟩⟩

theorem TextSpan.IsIn.isAt_toMatch (h : s.IsIn source) :
    (s.toMatch source).IsAt source s.start s.stop := by
  obtain ⟨before, -, hbefore, hposition⟩ := h.exists_before
  obtain ⟨text, htext⟩ := h.exists_text
  constructor
  · rw [hposition, TextSpan.toMatch, hbefore]
    rfl
  · rw [htext, TextSpan.toMatch, htext, Option.getD_some, String.toList_ofList]

end

/-- A node that lies in a source does not start in a later column than it can, its column is counted in
characters, and it is reported at the position of its start with the text between its ends. A match of a pattern
that starts there has the same position. -/
theorem located_alike {source : String} {s : TextSpan} (h : s.IsIn source.toList) :
    s.column ≤ s.start ∧
    (∃ before, slice? source.toList (s.start - s.column) s.start = some before ∧
      (s.toMatch source.toList).column = before.length + 1) ∧
    (LineIndex.ofText source.toList).position? s.start = some (s.toMatch source.toList).position ∧
    slice? source.toList s.start s.stop = some (s.toMatch source.toList).text.toList ∧
    ∀ pattern : Regex, ∀ found ∈ pattern.findAll source.toList, found.offset source.toList = s.start →
      ∃ m ∈ pattern.matchesIn source, Match.ofFound (.ofText source.toList) found = some m ∧
        m.line = (s.toMatch source.toList).line ∧ m.column = (s.toMatch source.toList).column := by
  obtain ⟨before, hle, hbefore, -⟩ := h.exists_before
  have hat := h.isAt_toMatch
  refine ⟨hle, ⟨before, hbefore, by rw [TextSpan.toMatch, hbefore]⟩, hat.position, hat.text, ?_⟩
  intro pattern found hfound hoffset
  obtain ⟨m, hm, -, hposition⟩ := Match.exists_ofFound source.toList found
  rw [hoffset, hat.position] at hposition
  obtain ⟨hline, hcolumn⟩ := Position.mk.inj (Option.some.inj hposition)
  exact ⟨m, List.mem_filterMap.mpr ⟨found, hfound, hm⟩, hm, hline.symm, hcolumn.symm⟩

/-- The second character of the second line starts behind two characters of two bytes. -/
theorem located_alike_accents :
    (TextSpan.ofNode "é\nλx".toList ⟨0, 3, 4⟩).IsIn "é\nλx".toList ∧
    (LineIndex.ofText "é\nλx".toList).position? 5 = some ⟨2, 2⟩ ∧
    slice? "é\nλx".toList 5 6 = some ['x'] := by
  have h := isIn_ofNode "é\nλx".toList ⟨0, 3, 4⟩
  obtain ⟨-, -, hposition, htext, -⟩ := located_alike h
  exact ⟨h, hposition, htext⟩

end Query

end RuleLint
