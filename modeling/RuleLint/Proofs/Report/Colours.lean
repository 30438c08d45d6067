import RuleLint.Report.Console

/-!
# Colours in the report for people

A terminal takes a text apart into characters, which it draws, and escape sequences, which set the pen that it
draws with (`pieces`). Without its escape sequences a report with colours is the report without them, and each
span is drawn with the pen of its style, which is put back after it (`colours_erased`).
-/

namespace RuleLint

/-! ## Escape sequences -/

def escape : Char := '\x1b'

/-- The numbers of an escape sequence, the first of which has begun with `n`, and the text after the sequence. -/
def numbers? (n : Nat) : List Char → Option (List Nat × List Char)
  | [] => none
  | c :: r =>
    if c = 'm' then some ([n], r)
    else if c = ';' then (numbers? 0 r).map fun p => (n :: p.1, p.2)
    else if c.isDigit then numbers? (10 * n + (c.toNat - '0'.toNat)) r
    else none

def sequence? : List Char → Option (List Nat × List Char)
  | c :: '[' :: r => if c = escape then numbers? 0 r else none
  | _ => none

theorem length_of_numbers? {n : Nat} {cs rest : List Char} {codes : List Nat}
    (h : numbers? n cs = some (codes, rest)) : rest.length < cs.length := by
  induction cs generalizing n codes with
  | nil => cases h
  | cons c cs ih =>
    unfold numbers? at h
    split at h
    · cases h
      exact Nat.lt_succ_self _
    · split at h
      · obtain ⟨⟨more, rest'⟩, hmore, heq⟩ := Option.map_eq_some_iff.mp h
        obtain ⟨_, rfl⟩ := Prod.mk.inj heq
        exact Nat.lt_succ_of_lt (ih hmore)
      · split at h
        · exact Nat.lt_succ_of_lt (ih h)
        · cases h

theorem length_of_sequence? {cs rest : List Char} {codes : List Nat} (h : sequence? cs = some (codes, rest)) :
    rest.length < cs.length := by
  unfold sequence? at h
  split at h
  · split at h
    · exact Nat.lt_succ_of_lt (Nat.lt_succ_of_lt (length_of_numbers? h))
    · cases h
  · cases h

inductive Piece where
  | char (c : Char)
  | sequence (codes : List Nat)
  deriving DecidableEq, Repr

def pieces : List Char → List Piece
  | [] => []
  | c :: r =>
    match h : sequence? (c :: r) with
    | some (codes, rest) =>
      have := length_of_sequence? h
      .sequence codes :: pieces rest
    | none => .char c :: pieces r
termination_by cs => cs.length
decreasing_by
  · exact this
  · exact Nat.lt_succ_self r.length

def Piece.char? : Piece → Option Char
  | char c => some c
  | sequence _ => none

def withoutSequences (s : String) : String := String.ofList ((pieces s.toList).filterMap Piece.char?)

example : withoutSequences "\x1b[1;31ma\x1b[39m\x1b[0m b\x1b[2J" = "a b\x1b[2J" := by cbv

section
variable {cs rest : List Char} {codes : List Nat}

theorem pieces_of_some (h : sequence? cs = some (codes, rest)) : pieces cs = .sequence codes :: pieces rest := by
  cases cs with
  | nil => cases h
  | cons c cs =>
    rw [pieces]
    split
    · rename_i heq
      obtain ⟨rfl, rfl⟩ := Prod.mk.inj (Option.some.inj (heq.symm.trans h))
      rfl
    · rename_i heq
      cases heq.symm.trans h

theorem pieces_of_none {c : Char} (h : sequence? (c :: cs) = none) : pieces (c :: cs) = .char c :: pieces cs := by
  rw [pieces]
  split
  · rename_i heq
    cases heq.symm.trans h
  · rfl

theorem sequence?_of_ne {c : Char} (h : c ≠ escape) : sequence? (c :: cs) = none := by
  unfold sequence?
  split
  · rename_i heq
    rw [if_neg ((List.cons.inj heq).1 ▸ h)]
  · rfl

theorem pieces_append (h : escape ∉ cs) : pieces (cs ++ rest) = cs.map .char ++ pieces rest := by
  induction cs with
  | nil => rfl
  | cons c cs ih =>
    have hc : c ≠ escape := fun hc => h (hc ▸ List.mem_cons_self)
    rw [List.cons_append, pieces_of_none (sequence?_of_ne hc), ih fun hcs => h (List.mem_cons_of_mem c hcs)]
    rfl

theorem numbers?_digits (h : ∀ c ∈ cs, c.isDigit) (n : Nat) :
    numbers? n (cs ++ 'm' :: rest) = some ([Nat.ofDigitChars 10 cs n], rest) := by
  induction cs generalizing n with
  | nil => rfl
  | cons c cs ih =>
    obtain ⟨hc, hcs⟩ := List.forall_mem_cons.mp h
    have hend : c ≠ 'm' := by rintro rfl; cases hc
    have hnext : c ≠ ';' := by rintro rfl; cases hc
    rw [List.cons_append, numbers?, if_neg hend, if_neg hnext, if_pos hc, ih hcs]
    rfl

def codeOf (code : String) : Nat := Nat.ofDigitChars 10 code.toList 0

theorem pieces_escapeSequence {code : String} (h : ∀ c ∈ code.toList, c.isDigit) :
    pieces ((escapeSequence code).toList ++ rest) = .sequence [codeOf code] :: pieces rest := by
  have hseq : (escapeSequence code).toList ++ rest = escape :: '[' :: (code.toList ++ 'm' :: rest) := by
    simp [escapeSequence, escape]
  rw [hseq]
  refine pieces_of_some ?_
  rw [sequence?, if_pos rfl, numbers?_digits h]
  rfl

theorem pieces_join {codes : List String} (h : ∀ code ∈ codes, ∀ c ∈ code.toList, c.isDigit) :
    pieces ((String.join (codes.map escapeSequence)).toList ++ rest) =
      codes.map (fun code => .sequence [codeOf code]) ++ pieces rest := by
  induction codes with
  | nil => rfl
  | cons code codes ih =>
    obtain ⟨hcode, hcodes⟩ := List.forall_mem_cons.mp h
    rw [List.map_cons, String.join_cons, String.toList_append, List.append_assoc, pieces_escapeSequence hcode,
      ih hcodes]
    rfl

end

/-! ## Spans -/

def Span.pieces (s : Span) : List Piece :=
  s.style.codes.1.map (fun code => .sequence [codeOf code]) ++ s.text.toList.map .char ++
    s.style.codes.2.map fun code => .sequence [codeOf code]

theorem isDigit_codes (style : Style) : (∀ code ∈ style.codes.1, ∀ c ∈ code.toList, c.isDigit) ∧
    ∀ code ∈ style.codes.2, ∀ c ∈ code.toList, c.isDigit := by
  have hall : (style.codes.1.all fun code => code.toList.all Char.isDigit) ∧
      style.codes.2.all fun code => code.toList.all Char.isDigit := by
    cases style with
    | mark level => cases level <;> exact ⟨rfl, rfl⟩
    | _ => exact ⟨rfl, rfl⟩
  simpa only [List.all_eq_true] using hall

theorem pieces_render {s : Span} (h : escape ∉ s.text.toList) (rest : List Char) :
    pieces ((s.render true).toList ++ rest) = s.pieces ++ pieces rest := by
  obtain ⟨hopening, hclosing⟩ := isDigit_codes s.style
  unfold Span.render Span.pieces
  rw [if_pos rfl]
  dsimp only
  rw [String.toList_append, String.toList_append, List.append_assoc, List.append_assoc, pieces_join hopening,
    pieces_append h, pieces_join hclosing, List.append_assoc, List.append_assoc]

theorem pieces_renderSpans {l : List Span} (h : ∀ s ∈ l, escape ∉ s.text.toList) :
    pieces (renderSpans true l).toList = l.flatMap Span.pieces := by
  induction l with
  | nil => simp [renderSpans, pieces]
  | cons s l ih =>
    obtain ⟨hs, hl⟩ := List.forall_mem_cons.mp h
    have hcons : renderSpans true (s :: l) = s.render true ++ renderSpans true l := by
      rw [renderSpans, List.map_cons, String.join_cons]
      rfl
    rw [hcons, String.toList_append, pieces_render hs, ih hl, List.flatMap_cons]

/-! ## Terminals -/

structure Pen where
  bold : Bool
  faint : Bool
  /-- The number of the colour, unless it is that of the terminal. -/
  colour : Option Nat
  deriving DecidableEq, Repr

namespace Pen

def plain : Pen := ⟨false, false, none⟩

def set (pen : Pen) (code : Nat) : Pen :=
  if code = 0 then plain
  else if code = 1 then { pen with bold := true }
  else if code = 2 then { pen with faint := true }
  else if code = 22 then { pen with bold := false, faint := false }
  else if 30 ≤ code ∧ code ≤ 37 then { pen with colour := some (code - 30) }
  else if code = 39 then { pen with colour := none }
  else pen

end Pen

/-- What a terminal draws, each character with a pen, and the pen then. -/
def draw (pen : Pen) : List Piece → List (Char × Pen) × Pen
  | [] => ([], pen)
  | .char c :: r => ((c, pen) :: (draw pen r).1, (draw pen r).2)
  | .sequence codes :: r => draw (codes.foldl Pen.set pen) r

def drawn (s : String) : List (Char × Pen) × Pen := draw .plain (pieces s.toList)

def Style.pen : Style → Pen
  | plain => .plain
  | strong => { Pen.plain with bold := true }
  | faint => { Pen.plain with faint := true }
  | mark .error => ⟨true, false, some 1⟩
  | mark .warning => ⟨true, false, some 3⟩
  | mark .note => { Pen.plain with colour := some 4 }

def Span.drawn (s : Span) : List (Char × Pen) := s.text.toList.map fun c => (c, s.style.pen)

theorem draw_append (pen : Pen) (a b : List Piece) : draw pen (a ++ b) =
    ((draw pen a).1 ++ (draw (draw pen a).2 b).1, (draw (draw pen a).2 b).2) := by
  induction a generalizing pen with
  | nil => rfl
  | cons piece a ih =>
    cases piece with
    | char c => simp only [List.cons_append, draw, ih]
    | sequence codes => simp only [List.cons_append, draw, ih]

theorem draw_chars (pen : Pen) (cs : List Char) : draw pen (cs.map .char) = (cs.map fun c => (c, pen), pen) := by
  induction cs with
  | nil => rfl
  | cons c cs ih => simp only [List.map_cons, draw, ih]

theorem draw_codes (pen : Pen) (codes : List String) :
    draw pen (codes.map fun code => .sequence [codeOf code]) = ([], (codes.map codeOf).foldl Pen.set pen) := by
  induction codes generalizing pen with
  | nil => rfl
  | cons code codes ih => exact ih (pen.set (codeOf code))

theorem pen_codes (style : Style) : (style.codes.1.map codeOf).foldl Pen.set .plain = style.pen ∧
    (style.codes.2.map codeOf).foldl Pen.set style.pen = .plain := by
  cases style with
  | mark level => cases level <;> decide
  | _ => decide

/-- The style of a span is set before its text and put back after it. -/
theorem draw_pieces (s : Span) : draw .plain s.pieces = (s.drawn, .plain) := by
  obtain ⟨hopening, hclosing⟩ := pen_codes s.style
  unfold Span.pieces Span.drawn
  rw [draw_append, draw_append, draw_codes, draw_chars, draw_codes]
  dsimp only
  rw [hopening, hclosing, List.nil_append, List.append_nil]

theorem draw_spans (l : List Span) : draw .plain (l.flatMap Span.pieces) = (l.flatMap Span.drawn, .plain) := by
  induction l with
  | nil => rfl
  | cons s l ih => rw [List.flatMap_cons, draw_append, draw_pieces, ih, List.flatMap_cons]

theorem chars_pieces (s : Span) : s.pieces.filterMap Piece.char? = s.text.toList := by
  have hcodes (codes : List String) :
      (codes.map fun code => Piece.sequence [codeOf code]).filterMap Piece.char? = [] := by
    simp [List.filterMap_map, Function.comp_def, Piece.char?]
  have hchars (cs : List Char) : (cs.map Piece.char).filterMap Piece.char? = cs := by
    simp [List.filterMap_map, Function.comp_def, Piece.char?]
  rw [Span.pieces, List.filterMap_append, List.filterMap_append, hcodes, hcodes, hchars, List.nil_append,
    List.append_nil]

theorem toList_renderSpans (l : List Span) : (renderSpans false l).toList = l.flatMap fun s => s.text.toList := by
  rw [renderSpans, String.toList_join, List.flatMap_map]
  rfl

theorem withoutSequences_renderSpans {l : List Span} (h : ∀ s ∈ l, escape ∉ s.text.toList) :
    withoutSequences (renderSpans true l) = renderSpans false l := by
  have htexts : (l.flatMap Span.pieces).filterMap Piece.char? = (renderSpans false l).toList := by
    rw [List.filterMap_flatMap, funext chars_pieces, toList_renderSpans]
  rw [withoutSequences, pieces_renderSpans h, htexts, String.ofList_toList]

/-! ## Reports -/

/-- The texts of a summary that are printed have no escape sequences. -/
structure Summary.EscapeFree (s : Summary) : Prop where
  domain : escape ∉ s.domain.toList
  findings : ∀ f ∈ s.findings, escape ∉ f.file.text.toList ∧ escape ∉ f.ruleId.toList ∧ escape ∉ f.message.toList
  errors : ∀ e ∈ s.errors, escape ∉ e.ruleId.toList ∧ escape ∉ e.message.toList

namespace Console

theorem escape_not_mem_append {a b : String} :
    escape ∉ (a ++ b).toList ↔ escape ∉ a.toList ∧ escape ∉ b.toList := by
  rw [String.toList_append, List.mem_append, not_or]

theorem escape_not_mem_countText (n : Nat) : escape ∉ (countText n).toList := by
  intro h
  rw [countText, Nat.toString_eq_repr, Nat.toList_repr] at h
  have hdigit := Nat.isDigit_of_mem_toDigits (by decide) (by decide) h
  cases hdigit

theorem escape_not_mem_padEnd (n : Nat) {s : String} (h : escape ∉ s.toList) :
    escape ∉ (Text.padEnd n s).toList := by
  rw [Text.padEnd, escape_not_mem_append, String.toList_ofList]
  exact ⟨h, fun hmem => absurd (List.eq_of_mem_replicate hmem) (by decide)⟩

theorem escape_not_mem_name (v : Severity) : escape ∉ v.name.toList := by
  cases v <;> decide

theorem escapeFree_findingLine {f : Finding} (hid : escape ∉ f.ruleId.toList) (hmessage : escape ∉ f.message.toList) :
    ∀ s ∈ findingLine f, escape ∉ s.text.toList := by
  have hplace : escape ∉ (Text.padEnd 9 (countText f.line ++ ":" ++ countText f.column)).toList := by
    refine escape_not_mem_padEnd 9 ?_
    simp only [escape_not_mem_append]
    exact ⟨⟨escape_not_mem_countText _, by decide⟩, escape_not_mem_countText _⟩
  simp only [findingLine, List.forall_mem_cons, plain, escape_not_mem_append]
  exact ⟨⟨⟨by decide, hplace⟩, by decide⟩, escape_not_mem_padEnd 8 (escape_not_mem_name _),
    ⟨⟨by decide, hmessage⟩, by decide⟩, hid, by decide, nofun⟩

theorem escapeFree_findingLines {l : List Finding} (h : ∀ f ∈ l, escape ∉ f.file.text.toList ∧
    escape ∉ f.ruleId.toList ∧ escape ∉ f.message.toList) (current : Option FilePath) :
    ∀ s ∈ findingLines current l, escape ∉ s.text.toList := by
  induction l generalizing current with
  | nil => exact nofun
  | cons f l ih =>
    obtain ⟨⟨hfile, hid, hmessage⟩, hl⟩ := List.forall_mem_cons.mp h
    rw [findingLines, List.forall_mem_append, List.forall_mem_append]
    refine ⟨⟨?_, escapeFree_findingLine hid hmessage⟩, ih hl _⟩
    split
    · exact nofun
    · simp only [List.forall_mem_cons, plain]
      exact ⟨by decide, hfile, by decide, nofun⟩

theorem escapeFree_errorLine {e : RuleError} (hid : escape ∉ e.ruleId.toList) (hmessage : escape ∉ e.message.toList) :
    ∀ s ∈ errorLine e, escape ∉ s.text.toList := by
  simp only [errorLine, List.forall_mem_cons, plain, escape_not_mem_append]
  exact ⟨by decide, by decide, ⟨⟨⟨⟨by decide, hid⟩, by decide⟩, hmessage⟩, by decide⟩, nofun⟩

theorem escapeFree_summaryLines {s : Summary} (h : s.EscapeFree) :
    ∀ span ∈ summaryLines s, escape ∉ span.text.toList := by
  rw [summaryLines, List.forall_mem_append, List.forall_mem_append]
  refine ⟨⟨?_, ?_⟩, ?_⟩
  · simp only [List.forall_mem_cons, plain, escape_not_mem_append]
    exact ⟨by decide, h.domain, ⟨⟨by decide, escape_not_mem_countText _⟩, by decide⟩, nofun⟩
  · rw [List.forall_mem_flatMap]
    exact fun e he => escapeFree_errorLine (h.errors e he).1 (h.errors e he).2
  · split
    · simp only [List.forall_mem_cons, plain]
      exact ⟨by decide, nofun⟩
    · exact escapeFree_findingLines (fun f hf => h.findings f (List.mem_mergeSort.mp hf)) none

theorem escapeFree_footer (l : List Finding) : ∀ s ∈ footer l, escape ∉ s.text.toList := by
  unfold footer
  dsimp only
  split
  · exact nofun
  · simp only [List.forall_mem_cons, plain, escape_not_mem_append]
    refine ⟨?_, nofun⟩
    simp only [escape_not_mem_countText, not_false_eq_true, and_true]
    decide

theorem escapeFree_verdictLine (v : Verdict) : ∀ s ∈ verdictLine v, escape ∉ s.text.toList := by
  have hhighest : escape ∉ ((v.highest.map Severity.name).getD "none").toList := by
    cases v.highest with
    | none => decide
    | some severity => exact escape_not_mem_name severity
  simp only [verdictLine, List.forall_mem_cons, plain, escape_not_mem_append]
  refine ⟨by decide, ?_, ⟨⟨by decide, hhighest⟩, by decide⟩, nofun⟩
  cases v.pass <;> decide

theorem escapeFree_spans {summaries : List Summary} (h : ∀ s ∈ summaries, s.EscapeFree) (verdict : Verdict) :
    ∀ span ∈ spans summaries verdict, escape ∉ span.text.toList := by
  rw [spans, List.forall_mem_append, List.forall_mem_append, List.forall_mem_append, List.forall_mem_flatMap]
  refine ⟨⟨⟨fun s hs => escapeFree_summaryLines (h s hs), ?_⟩, escapeFree_footer _⟩, escapeFree_verdictLine verdict⟩
  simp only [List.forall_mem_cons, plain]
  exact ⟨by decide, nofun⟩

/-- Colours add nothing but escape sequences to a report whose texts have none: without them it is the report
without colours. Each span is drawn with the pen of its style, which is put back before the next. -/
theorem colours_erased {summaries : List Summary} (h : ∀ s ∈ summaries, s.EscapeFree) (verdict : Verdict) :
    withoutSequences (render summaries verdict true) = render summaries verdict false ∧
    escape ∉ (render summaries verdict false).toList ∧
    (∀ span ∈ spans summaries verdict, drawn (span.render true) = (span.drawn, .plain)) ∧
    drawn (render summaries verdict true) = ((spans summaries verdict).flatMap Span.drawn, .plain) := by
  have hspans := escapeFree_spans h verdict
  refine ⟨withoutSequences_renderSpans hspans, ?_, fun span hspan => ?_, ?_⟩
  · rw [render, toList_renderSpans]
    intro hmem
    obtain ⟨span, hspan, hmem⟩ := List.mem_flatMap.mp hmem
    exact hspans span hspan hmem
  · have hone := pieces_render (hspans span hspan) []
    rw [List.append_nil, pieces, List.append_nil] at hone
    rw [drawn, hone, draw_pieces]
  · rw [drawn, render, pieces_renderSpans hspans, draw_spans]

theorem colours_erased_mustFinding :
    let s : Summary := ⟨"d", 1, [⟨⟨"/a"⟩, 1, 3, "M1", .must, "m", ""⟩], [⟨"B", "bad"⟩]⟩
    let v : Verdict := ⟨false, 1, 1, some .must, .guidance⟩
    s.EscapeFree ∧ escape ∈ (render [s] v true).toList ∧ withoutSequences (render [s] v true) =
      "\n  d (1 file(s) linted)\n    RULE ERROR rule B skipped: bad\n\n    /a\n      1:3       MUST      m  M1\n" ++
      "\n  1 problem(s) (1 error(s), 0 warning(s), 0 note(s))\n  Result: FAIL (highest: MUST)\n\n" := by
  intro s v
  have hfree : s.EscapeFree := by
    refine ⟨by decide, List.forall_mem_singleton.mpr ?_, List.forall_mem_singleton.mpr ?_⟩ <;> decide
  obtain ⟨herased, -⟩ := colours_erased (List.forall_mem_singleton.mpr hfree) v
  refine ⟨hfree, by decide +kernel, herased.trans ?_⟩
  decide +kernel

end Console

end RuleLint
