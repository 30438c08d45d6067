import Mathlib.Data.List.TakeWhile
import RuleLint.Text.Position

/-!
# Positions in a text

An offset between two characters cuts a text in two (`cutAt?_eq_some`). A line that starts in the first part
starts at or before the offset and one that starts in the second part after it, so the search for the offset
ends at the last line of the first part (`position?_append`). No other offset has a position, and a longer
first part has a later one (`positions_exact`).
-/

namespace RuleLint.Text

instance : LT Position := ⟨fun p q => p.line < q.line ∨ p.line = q.line ∧ p.column < q.column⟩

theorem Position.lt_iff {p q : Position} :
    p < q ↔ p.line < q.line ∨ p.line = q.line ∧ p.column < q.column := Iff.rfl

theorem Position.lt_irrefl (p : Position) : ¬ p < p := by
  rw [lt_iff]
  omega

theorem Position.lt_asymm {p q : Position} (h : p < q) : ¬ q < p := by
  rw [lt_iff] at h ⊢
  omega

/-! ## Sizes -/

@[simp] theorem byteSize_append (a b : List Char) : byteSize (a ++ b) = byteSize a + byteSize b := by
  induction a with
  | nil => simp [byteSize]
  | cons c a ih => simp [byteSize, ih, Nat.add_assoc]

section
variable {cs a b m : List Char} {n i j : Nat}

theorem byteSize_pos (h : cs ≠ []) : 0 < byteSize cs := by
  cases cs with
  | nil => exact absurd rfl h
  | cons c cs => exact Nat.add_pos_left c.utf8Size_pos _

theorem byteSize_toList (s : String) : byteSize s.toList = s.utf8ByteSize := by
  have hsize : ∀ cs, byteSize cs = (String.ofList cs).utf8ByteSize := by
    intro cs
    induction cs with
    | nil => simp [byteSize]
    | cons c cs ih =>
      rw [byteSize, ih, ← List.singleton_append, String.ofList_append, String.utf8ByteSize_append]
      simp
  rw [hsize, String.ofList_toList]

theorem byteSize_take_le (cs : List Char) (h : i ≤ j) : byteSize (cs.take i) ≤ byteSize (cs.take j) := by
  obtain ⟨rest, hrest⟩ := List.take_prefix_take_left (l := cs) h
  rw [← hrest, byteSize_append]
  exact Nat.le_add_right ..

theorem byteSize_take_lt (h : i < j) (hlength : j ≤ cs.length) :
    byteSize (cs.take i) < byteSize (cs.take j) := by
  obtain ⟨rest, hrest⟩ := List.take_prefix_take_left (l := cs) (Nat.le_of_lt h)
  rw [← hrest, byteSize_append]
  refine Nat.lt_add_of_pos_right (byteSize_pos ?_)
  rintro rfl
  have := congrArg List.length hrest
  simp at this
  omega

/-! ## Cutting a text -/

theorem cutAt?_append (a b : List Char) : cutAt? (a ++ b) (byteSize a) = some (a, b) := by
  induction a with
  | nil => cases b <;> rfl
  | cons c a ih =>
    obtain ⟨k, hk⟩ : ∃ k, byteSize (c :: a) = k + 1 :=
      Nat.exists_eq_add_one.mpr (byteSize_pos (List.cons_ne_nil c a))
    have hrest : k + 1 - c.utf8Size = byteSize a := by
      rw [← hk, byteSize, Nat.add_sub_cancel_left]
    have hfits : c.utf8Size ≤ k + 1 := by
      rw [← hk, byteSize]
      omega
    simp [hk, cutAt?, hfits, hrest, ih]

theorem of_cutAt? (h : cutAt? cs n = some (a, b)) : a ++ b = cs ∧ byteSize a = n := by
  induction cs generalizing n a with
  | nil =>
    cases n with
    | zero =>
      cases h
      exact ⟨rfl, rfl⟩
    | succ n => cases h
  | cons c cs ih =>
    cases n with
    | zero =>
      cases h
      exact ⟨rfl, rfl⟩
    | succ n =>
      rw [cutAt?] at h
      split at h
      · rename_i hfits
        obtain ⟨p, hp, hcons⟩ := Option.map_eq_some_iff.mp h
        obtain ⟨rfl, rfl⟩ := Prod.mk.inj hcons
        obtain ⟨htext, hsize⟩ := ih hp
        refine ⟨by rw [List.cons_append, htext], ?_⟩
        rw [byteSize, hsize]
        omega
      · cases h

theorem cutAt?_eq_some : cutAt? cs n = some (a, b) ↔ a ++ b = cs ∧ byteSize a = n := by
  refine ⟨of_cutAt?, ?_⟩
  rintro ⟨rfl, rfl⟩
  exact cutAt?_append a b

theorem slice?_eq_some : slice? cs i j = some m ↔
    ∃ a b, a ++ m ++ b = cs ∧ byteSize a = i ∧ i + byteSize m = j := by
  unfold slice?
  constructor
  · intro h
    split at h
    · rename_i hle
      obtain ⟨⟨a, rest⟩, ha, h⟩ := Option.bind_eq_some_iff.mp h
      obtain ⟨⟨m', b⟩, hm, rfl⟩ := Option.map_eq_some_iff.mp h
      obtain ⟨rfl, rfl⟩ := cutAt?_eq_some.mp ha
      obtain ⟨rfl, hsize⟩ := cutAt?_eq_some.mp hm
      refine ⟨a, b, List.append_assoc .., rfl, ?_⟩
      rw [hsize]
      omega
    · cases h
  · rintro ⟨a, b, rfl, rfl, rfl⟩
    rw [if_pos (Nat.le_add_right ..), List.append_assoc, cutAt?_append, Option.bind_some,
      Nat.add_sub_cancel_left, cutAt?_append]
    rfl

/-! ## Lines -/

theorem lineStartsFrom_append (n : Nat) (a b : List Char) :
    lineStartsFrom n (a ++ b) = lineStartsFrom n a ++ lineStartsFrom (n + byteSize a) b := by
  induction a generalizing n with
  | nil => rfl
  | cons c a ih =>
    rw [List.cons_append, lineStartsFrom, lineStartsFrom, byteSize, ← Nat.add_assoc]
    by_cases hc : c = '\n' <;> simp [hc, ih]

theorem length_lineStartsFrom (n : Nat) (cs : List Char) :
    (lineStartsFrom n cs).length = cs.count '\n' := by
  induction cs generalizing n with
  | nil => rfl
  | cons c cs ih => by_cases hc : c = '\n' <;> simp [lineStartsFrom, hc, ih]

theorem mem_lineStartsFrom (h : i ∈ lineStartsFrom n cs) : n < i ∧ i ≤ n + byteSize cs := by
  induction cs generalizing n with
  | nil => cases h
  | cons c cs ih =>
    have hpos := c.utf8Size_pos
    have hlater : i ∈ lineStartsFrom (n + c.utf8Size) cs → n < i ∧ i ≤ n + byteSize (c :: cs) := by
      intro hi
      have := ih hi
      rw [byteSize]
      omega
    rw [lineStartsFrom] at h
    by_cases hc : c = '\n'
    · rw [if_pos hc] at h
      cases h with
      | head => exact ⟨by omega, by rw [byteSize]; omega⟩
      | tail _ h => exact hlater h
    · rw [if_neg hc] at h
      exact hlater h

/-- The lines before the last one are empty or end in a line end. -/
theorem exists_lastLine (cs : List Char) : ∃ head, head ++ lastLine cs = cs ∧ '\n' ∉ lastLine cs ∧
    (head = [] ∨ ∃ r, head = r ++ ['\n']) := by
  refine ⟨(cs.reverse.dropWhile (· ≠ '\n')).reverse, ?_, ?_, ?_⟩
  · rw [lastLine, ← List.reverse_append, List.takeWhile_append_dropWhile, List.reverse_reverse]
  · intro hmem
    simpa using List.mem_takeWhile_imp (List.mem_reverse.mp hmem)
  · cases hdrop : cs.reverse.dropWhile (· ≠ '\n') with
    | nil => exact .inl rfl
    | cons c r =>
      have hc : c = '\n' := by
        have := List.head?_dropWhile_not (· ≠ '\n') cs.reverse
        rw [hdrop] at this
        simpa using this
      exact .inr ⟨r.reverse, by rw [List.reverse_cons, hc]⟩

theorem lastLine_append (h : '\n' ∉ b) (a : List Char) : lastLine (a ++ b) = lastLine a ++ b := by
  have hall : ∀ c ∈ b.reverse, decide (c ≠ '\n') = true := by
    intro c hc
    exact decide_eq_true (ne_of_mem_of_not_mem (List.mem_reverse.mp hc) h)
  rw [lastLine, List.reverse_append, List.takeWhile_append_of_pos hall, List.reverse_append,
    List.reverse_reverse, lastLine]

/-- The lines that start in a text end with the one that starts behind its last line end. -/
theorem exists_starts (head : List Char) (h : head = [] ∨ ∃ r, head = r ++ ['\n']) :
    ∃ before, 0 :: lineStartsFrom 0 head = before ++ [byteSize head] ∧
      before.length = head.count '\n' ∧ ∀ i ∈ before, i < byteSize head := by
  rcases h with rfl | ⟨r, rfl⟩
  · exact ⟨[], rfl, rfl, nofun⟩
  · refine ⟨0 :: lineStartsFrom 0 r, ?_, ?_, ?_⟩
    · simp [lineStartsFrom_append, lineStartsFrom, byteSize]
    · simp [length_lineStartsFrom]
    · intro i hi
      have hlt : byteSize r < byteSize (r ++ ['\n']) := by simp [byteSize_pos]
      cases hi with
      | head => omega
      | tail _ hi =>
        have := mem_lineStartsFrom hi
        omega

/-! ## The search -/

theorem search_found {before after : List Nat} (hbefore : ∀ i ∈ before, i < n) :
    search (before ++ n :: after) n = .found before.length := by
  have htake : (before ++ n :: after).takeWhile (· < n) = before := by
    rw [List.takeWhile_append_of_pos (by simpa using hbefore)]
    simp
  rw [search, htake]
  simp

theorem search_missing {before after : List Nat} (hbefore : ∀ i ∈ before, i < n)
    (hafter : ∀ i ∈ after, n < i) : search (before ++ after) n = .missing before.length := by
  have htake : (before ++ after).takeWhile (· < n) = before := by
    rw [List.takeWhile_append_of_pos (by simpa using hbefore), List.takeWhile_eq_nil_iff.mpr,
      List.append_nil]
    intro hpos
    have := hafter _ (List.getElem_mem hpos)
    simp
    omega
  have hnext : (before ++ after)[before.length]? ≠ some n := by
    rw [List.getElem?_append_right (Nat.le_refl _)]
    intro heq
    exact Nat.lt_irrefl n (hafter n (List.mem_of_getElem? heq))
  rw [search, htake]
  exact if_neg hnext

namespace LineIndex

/-- The search ends at the last line that starts at or before the offset. -/
theorem line?_of_starts {index : LineIndex} {before after : List Nat} {start : Nat}
    (hstarts : index.starts = before ++ start :: after) (hbefore : ∀ i ∈ before, i < start)
    (hstart : start ≤ n) (hafter : ∀ i ∈ after, n < i) : index.line? n = some before.length := by
  rcases Nat.eq_or_lt_of_le hstart with rfl | hlt
  · rw [line?, hstarts, search_found hbefore]
  · have hupTo : ∀ i ∈ before ++ [start], i < n := by
      intro i hi
      rcases List.mem_append.mp hi with hi | hi
      · exact Nat.lt_trans (hbefore i hi) hlt
      · rwa [List.mem_singleton.mp hi]
    have hsplit : before ++ start :: after = before ++ [start] ++ after := by simp
    rw [line?, hstarts, hsplit, search_missing hupTo hafter, List.length_append]
    rfl

/-! ## Positions -/

theorem position?_append (a b : List Char) :
    (ofText (a ++ b)).position? (byteSize a) =
      some ⟨a.count '\n' + 1, (lastLine a).length + 1⟩ := by
  obtain ⟨head, happend, hline, hhead⟩ := exists_lastLine a
  obtain ⟨before, hbefore, hlength, hlt⟩ := exists_starts head hhead
  have hsize : byteSize head + byteSize (lastLine a) = byteSize a := by
    rw [← byteSize_append, happend]
  have hcount : head.count '\n' = a.count '\n' := by
    rw [← happend, List.count_append, List.count_eq_zero_of_not_mem hline, Nat.add_zero]
  have hnone : lineStartsFrom (byteSize head) (lastLine a) = [] := by
    rw [← List.length_eq_zero_iff, length_lineStartsFrom, List.count_eq_zero_of_not_mem hline]
  have hstarts : (ofText (a ++ b)).starts =
      before ++ byteSize head :: lineStartsFrom (byteSize a) b := by
    have hfirst : 0 :: lineStartsFrom 0 a = before ++ [byteSize head] := by
      rw [← hbefore, ← happend, lineStartsFrom_append, Nat.zero_add, hnone, List.append_nil]
    rw [ofText, lineStartsFrom_append, Nat.zero_add, ← List.cons_append, hfirst, List.append_assoc,
      List.singleton_append]
  have hlineNo : (ofText (a ++ b)).line? (byteSize a) = some before.length :=
    line?_of_starts hstarts hlt (by omega) fun i hi => (mem_lineStartsFrom hi).1
  have hstart : (ofText (a ++ b)).starts[before.length]? = some (byteSize head) := by
    rw [hstarts]
    simp
  have hslice : slice? (ofText (a ++ b)).source (byteSize head) (byteSize a) = some (lastLine a) :=
    slice?_eq_some.mpr ⟨head, b, by rw [happend, ofText], rfl, hsize⟩
  rw [position?, hlineNo, Option.bind_eq_bind, Option.bind_some, hstart, Option.bind_eq_bind,
    Option.bind_some, hslice, hlength, hcount]
  rfl

/-- Only an offset between two characters has a position. -/
theorem exists_cut_of_position? {p : Position} (h : (ofText cs).position? n = some p) :
    ∃ a b, a ++ b = cs ∧ byteSize a = n := by
  rw [position?] at h
  obtain ⟨line, -, h⟩ := Option.bind_eq_some_iff.mp h
  obtain ⟨start, -, h⟩ := Option.bind_eq_some_iff.mp h
  obtain ⟨before, hbefore, -⟩ := Option.bind_eq_some_iff.mp h
  obtain ⟨a, b, htext, ha, hsize⟩ := slice?_eq_some.mp hbefore
  exact ⟨a ++ before, b, htext, by rw [byteSize_append, ha, hsize]⟩

theorem position?_eq_some {p : Position} : (ofText cs).position? n = some p ↔
    ∃ a b, a ++ b = cs ∧ byteSize a = n ∧ p = ⟨a.count '\n' + 1, (lastLine a).length + 1⟩ := by
  constructor
  · intro h
    obtain ⟨a, b, rfl, rfl⟩ := exists_cut_of_position? h
    rw [position?_append] at h
    exact ⟨a, b, rfl, rfl, (Option.some.inj h).symm⟩
  · rintro ⟨a, b, rfl, rfl, rfl⟩
    exact position?_append a b

theorem position_lt_append (a : List Char) (h : m ≠ []) :
    (⟨a.count '\n' + 1, (lastLine a).length + 1⟩ : Position) <
      ⟨(a ++ m).count '\n' + 1, (lastLine (a ++ m)).length + 1⟩ := by
  rw [Position.lt_iff, List.count_append]
  by_cases hm : '\n' ∈ m
  · have := List.count_pos_iff.mpr hm
    exact .inl (by simp; omega)
  · have := List.length_pos_iff.mpr h
    exact .inr ⟨by simp [List.count_eq_zero_of_not_mem hm], by rw [lastLine_append hm]; simp; omega⟩

theorem position_lt {p q : Position} (hp : (ofText cs).position? i = some p)
    (hq : (ofText cs).position? j = some q) (hlt : i < j) : p < q := by
  obtain ⟨a, b, rfl, rfl, rfl⟩ := position?_eq_some.mp hp
  obtain ⟨a', b', htext, rfl, rfl⟩ := position?_eq_some.mp hq
  rcases List.append_eq_append_iff.mp htext with ⟨m, rfl, -⟩ | ⟨m, rfl, -⟩
  · rw [byteSize_append] at hlt
    omega
  · refine position_lt_append a ?_
    rintro rfl
    simp at hlt

theorem position_lt_iff {p q : Position} (hp : (ofText cs).position? i = some p)
    (hq : (ofText cs).position? j = some q) : p < q ↔ i < j := by
  refine ⟨fun hpq => ?_, position_lt hp hq⟩
  rcases Nat.lt_trichotomy i j with hlt | rfl | hgt
  · exact hlt
  · obtain rfl := Option.some.inj (hp.symm.trans hq)
    exact absurd hpq p.lt_irrefl
  · exact absurd (position_lt hq hp hgt) (Position.lt_asymm hpq)

/-- Two offsets with one position are the same. -/
theorem position_inj {p : Position} (hi : (ofText cs).position? i = some p)
    (hj : (ofText cs).position? j = some p) : i = j := by
  rcases Nat.lt_trichotomy i j with hlt | heq | hgt
  · exact absurd (position_lt hi hj hlt) p.lt_irrefl
  · exact heq
  · exact absurd (position_lt hj hi hgt) p.lt_irrefl

theorem isSome_position?_iff (source : String) (offset : Nat) :
    ((ofText source.toList).position? offset).isSome ↔ String.Pos.Raw.IsValid source ⟨offset⟩ := by
  rw [Option.isSome_iff_exists, String.Pos.Raw.isValid_iff_exists_append]
  constructor
  · rintro ⟨p, hp⟩
    obtain ⟨a, b, htext, rfl⟩ := exists_cut_of_position? hp
    refine ⟨String.ofList a, String.ofList b, ?_, ?_⟩
    · rw [← String.ofList_append, htext, String.ofList_toList]
    · rw [String.Pos.Raw.ext_iff, String.byteIdx_rawEndPos, ← byteSize_toList, String.toList_ofList]
  · rintro ⟨before, after, rfl, hoffset⟩
    obtain rfl : offset = byteSize before.toList := by
      rw [byteSize_toList]
      exact congrArg String.Pos.Raw.byteIdx hoffset
    rw [String.toList_append]
    exact ⟨_, position?_append before.toList after.toList⟩

end LineIndex

end

/-- Exactly the offsets between characters have a position: it counts the line ends before the offset and the
characters since the last of them. Positions are in the order of their offsets, so no two offsets share one. -/
theorem LineIndex.positions_exact (source : String) :
    (∀ offset, ((ofText source.toList).position? offset).isSome ↔
      String.Pos.Raw.IsValid source ⟨offset⟩) ∧
    (∀ before after : String, before ++ after = source →
      (ofText source.toList).position? before.utf8ByteSize =
        some ⟨before.toList.count '\n' + 1, (lastLine before.toList).length + 1⟩) ∧
    ∀ i j p q, (ofText source.toList).position? i = some p → (ofText source.toList).position? j = some q →
      (p < q ↔ i < j) ∧ (p = q ↔ i = j) := by
  refine ⟨isSome_position?_iff source, ?_, ?_⟩
  · rintro before after rfl
    rw [String.toList_append, ← byteSize_toList]
    exact position?_append before.toList after.toList
  · intro i j p q hp hq
    refine ⟨position_lt_iff hp hq, ?_, ?_⟩
    · rintro rfl
      exact position_inj hp hq
    · rintro rfl
      exact Option.some.inj (hp.symm.trans hq)

/-- The text has a character of two bytes, a line end and a last line without one. -/
theorem LineIndex.positions_exact_accent :
    (ofText "é\nb".toList).position? "é".utf8ByteSize = some ⟨1, 2⟩ ∧
    (ofText "é\nb".toList).position? "é\nb".utf8ByteSize = some ⟨2, 2⟩ ∧
    ((⟨1, 2⟩ : Position) < ⟨2, 2⟩ ↔ "é".utf8ByteSize < "é\nb".utf8ByteSize) := by
  obtain ⟨-, hvalue, horder⟩ := positions_exact "é\nb"
  have hfirst := hvalue "é" "\nb" rfl
  have hlast := hvalue "é\nb" "" rfl
  exact ⟨hfirst, hlast, (horder _ _ _ _ hfirst hlast).1⟩

end RuleLint.Text
