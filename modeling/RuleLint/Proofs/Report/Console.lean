import RuleLint.Proofs.Linting.ByFile
import RuleLint.Proofs.Report.Reading

/-!
# The report for people

A report is made of whole lines, so it is read line by line. Reading gives the findings back
(`toldIn_spans`) if those of a summary are in order of files and no file has two names.
-/

namespace RuleLint.Console

/-! ## Numbers -/

theorem numbersFrom_digits {cs : List Char} (h : ∀ c ∈ cs, c.isDigit) (n : Nat) (rest : List Char) :
    numbersFrom (some n) (cs ++ rest) = numbersFrom (some (Nat.ofDigitChars 10 cs n)) rest := by
  induction cs generalizing n with
  | nil => rfl
  | cons c cs ih =>
    obtain ⟨hc, hcs⟩ := List.forall_mem_cons.mp h
    rw [List.cons_append, numbersFrom, if_pos hc, ih hcs]
    rfl

theorem numbersFrom_repr (n : Nat) (rest : List Char) :
    numbersFrom none ((toString n).toList ++ rest) = numbersFrom (some n) rest := by
  have hdigits : ∀ c ∈ Nat.toDigits 10 n, c.isDigit := fun c =>
    Nat.isDigit_of_mem_toDigits (by decide) (by decide)
  have hn : numbersFrom (some 0) (Nat.toDigits 10 n ++ rest) = numbersFrom (some n) rest := by
    rw [numbersFrom_digits hdigits, Nat.ofDigitChars_ten_toDigits]
  rw [← hn, Nat.toString_eq_repr, Nat.toList_repr]
  -- a number that starts is 0 before its first digit
  cases hcs : Nat.toDigits 10 n with
  | nil => exact absurd hcs Nat.toDigits_ne_nil
  | cons c cs =>
    rw [hcs] at hdigits
    rw [List.cons_append, numbersFrom, numbersFrom, if_pos (hdigits c List.mem_cons_self),
      if_pos (hdigits c List.mem_cons_self)]
    rfl

theorem numbersIn_append {s : String} (h : s.toList.all fun c => !c.isDigit) (t : String) :
    numbersIn (s ++ t) = numbersIn t := by
  unfold numbersIn
  rw [String.toList_append]
  generalize s.toList = cs at h
  induction cs with
  | nil => rfl
  | cons c cs ih =>
    rw [List.all_cons, Bool.and_eq_true, Bool.not_eq_true'] at h
    rw [List.cons_append, numbersFrom, if_neg (by simp [h.1]), ih h.2]
    rfl

theorem numbersIn_countText (n : Nat) {s : String} {c : Char} {cs : List Char} (hs : s.toList = c :: cs)
    (hc : c.isDigit = false) : numbersIn (countText n ++ s) = n :: numbersIn s := by
  unfold numbersIn countText
  rw [String.toList_append, numbersFrom_repr, hs, numbersFrom, numbersFrom, if_neg (by simp [hc]),
    if_neg (by simp [hc])]
  rfl

theorem numbersIn_place (line column : Nat) :
    numbersIn ("      " ++ Text.padEnd 9 (countText line ++ ":" ++ countText column) ++ " ") =
      [line, column] := by
  unfold Text.padEnd
  generalize 9 - (countText line ++ ":" ++ countText column).length = n
  simp only [String.append_assoc]
  have hblanks : (String.ofList (List.replicate n ' ') ++ " ").toList = ' ' :: List.replicate n ' ' := by
    rw [String.toList_append, String.toList_ofList]
    exact List.replicate_succ'.symm
  rw [numbersIn_append (by decide), numbersIn_countText line (String.toList_append ..) (by decide),
    numbersIn_append (by decide), numbersIn_countText column hblanks (by decide),
    numbersIn_append (by simp)]
  rfl

/-! ## Lines -/

/-- Spans of which the last and no other ends a line. -/
def IsLine (l : List Span) : Prop := ∃ a s, l = a ++ [s] ∧ (∀ x ∈ a, endsLine x = false) ∧ endsLine s

theorem linesFrom_append {a : List Span} (h : ∀ x ∈ a, endsLine x = false) (line rest : List Span) :
    linesFrom line (a ++ rest) = linesFrom (line ++ a) rest := by
  induction a generalizing line with
  | nil => rw [List.append_nil, List.nil_append]
  | cons x a ih =>
    obtain ⟨hx, ha⟩ := List.forall_mem_cons.mp h
    rw [List.cons_append, linesFrom, if_neg (by simp [hx]), ih ha, List.append_assoc, List.singleton_append]

theorem IsLine.lines_append {l : List Span} (h : IsLine l) (rest : List Span) :
    lines (l ++ rest) = l :: lines rest := by
  obtain ⟨a, s, rfl, ha, hs⟩ := h
  unfold lines
  rw [List.append_assoc, linesFrom_append ha, List.nil_append, List.singleton_append, linesFrom, if_pos hs]

theorem lines_flatten {ls : List (List Span)} (h : ∀ l ∈ ls, IsLine l) : lines ls.flatten = ls := by
  induction ls with
  | nil => rfl
  | cons l ls ih =>
    obtain ⟨hl, hls⟩ := List.forall_mem_cons.mp h
    rw [List.flatten_cons, hl.lines_append, ih hls]

/-! ## The lines of a report -/

def domainLine (s : Summary) : List Span :=
  [plain "\n  ", ⟨.strong, s.domain⟩, plain (" (" ++ countText s.filesLinted ++ " file(s) linted)\n")]

def fileLine (p : FilePath) : List Span := [plain "\n    ", ⟨.strong, p.text⟩, plain "\n"]

def linesOfFindings (current : Option FilePath) : List Finding → List (List Span)
  | [] => []
  | f :: r =>
    (if current.any (·.same f.file) then [] else [fileLine f.file]) ++
      findingLine f :: linesOfFindings (some f.file) r

def linesOfSummary (s : Summary) : List (List Span) :=
  domainLine s :: s.errors.map errorLine ++
    if s.findings.isEmpty then [[plain "    No violations found.\n"]]
    else linesOfFindings none (sortByFile s.findings)

def linesOfReport (summaries : List Summary) (verdict : Verdict) : List (List Span) :=
  summaries.flatMap linesOfSummary ++ [[plain "\n"]] ++
    (footer (summaries.flatMap (·.findings))).map (fun s => [s]) ++ [verdictLine verdict]

theorem flatten_linesOfFindings (current : Option FilePath) (l : List Finding) :
    (linesOfFindings current l).flatten = findingLines current l := by
  induction l generalizing current with
  | nil => rfl
  | cons f l ih =>
    rw [linesOfFindings, findingLines, List.flatten_append, List.flatten_cons, ih]
    by_cases h : current.any (·.same f.file)
    · simp [h]
    · simp [h, fileLine]

theorem flatten_linesOfSummary (s : Summary) : (linesOfSummary s).flatten = summaryLines s := by
  unfold linesOfSummary summaryLines
  by_cases h : s.findings.isEmpty
  · simp [h, domainLine, List.flatMap_def]
  · simp [h, domainLine, List.flatMap_def, flatten_linesOfFindings]

theorem flatten_linesOfReport (summaries : List Summary) (verdict : Verdict) :
    (linesOfReport summaries verdict).flatten = spans summaries verdict := by
  have hfooter : ∀ l : List Span, (l.map fun s => [s]).flatten = l := by simp [← List.flatMap_def]
  have hsummaries : (summaries.flatMap linesOfSummary).flatten = summaries.flatMap summaryLines := by
    simp [List.flatMap_def, List.flatten_flatten, flatten_linesOfSummary, Function.comp_def]
  unfold linesOfReport spans
  simp [hfooter, hsummaries]

theorem endsLine_break (s : String) {t : String} (h : t.toList.getLast? = some '\n') :
    endsLine (plain (s ++ t)) := by
  simp [endsLine, plain, String.toList_append, List.getLast?_append, h]

theorem endsLine_blank (s : String) {t : String} (h : t.toList.getLast? = some ' ') :
    endsLine (plain (s ++ t)) = false := by
  simp [endsLine, plain, String.toList_append, List.getLast?_append, h]

theorem isLine_domainLine (s : Summary) : IsLine (domainLine s) := by
  refine ⟨(domainLine s).dropLast, _, rfl, ?_, endsLine_break _ (by decide)⟩
  simp only [domainLine, List.dropLast, List.forall_mem_cons]
  exact ⟨by decide, rfl, List.forall_mem_nil _⟩

theorem isLine_fileLine (p : FilePath) : IsLine (fileLine p) := by
  refine ⟨(fileLine p).dropLast, _, rfl, ?_, by decide⟩
  simp only [fileLine, List.dropLast, List.forall_mem_cons]
  exact ⟨by decide, rfl, List.forall_mem_nil _⟩

theorem isLine_errorLine (e : RuleError) : IsLine (errorLine e) := by
  refine ⟨(errorLine e).dropLast, _, rfl, ?_, endsLine_break _ (by decide)⟩
  simp only [errorLine, List.dropLast, List.forall_mem_cons]
  exact ⟨by decide, rfl, List.forall_mem_nil _⟩

theorem isLine_findingLine (f : Finding) : IsLine (findingLine f) := by
  refine ⟨(findingLine f).dropLast, _, rfl, ?_, by decide⟩
  simp only [findingLine, List.dropLast, List.forall_mem_cons]
  exact ⟨endsLine_blank _ (by decide), rfl, endsLine_blank _ (by decide), rfl, List.forall_mem_nil _⟩

theorem isLine_verdictLine (v : Verdict) : IsLine (verdictLine v) := by
  refine ⟨(verdictLine v).dropLast, _, rfl, ?_, endsLine_break _ (by decide)⟩
  simp only [verdictLine, List.dropLast, List.forall_mem_cons]
  refine ⟨by decide, ?_, List.forall_mem_nil _⟩
  cases v.pass <;> rfl

theorem isLine_plain {s : Span} (h : endsLine s) : IsLine [s] := ⟨[], s, rfl, List.forall_mem_nil _, h⟩

theorem isLine_footer {l : List Finding} {s : Span} (h : s ∈ footer l) : IsLine [s] := by
  unfold footer at h
  split at h
  · cases h
  · obtain rfl := List.mem_singleton.mp h
    exact isLine_plain (endsLine_break _ (by decide))

theorem isLine_of_mem_findings {current : Option FilePath} {l : List Finding} {line : List Span}
    (h : line ∈ linesOfFindings current l) : IsLine line := by
  induction l generalizing current with
  | nil => cases h
  | cons f l ih =>
    unfold linesOfFindings at h
    rcases List.mem_append.mp h with h | h
    · split at h
      · cases h
      · obtain rfl := List.mem_singleton.mp h
        exact isLine_fileLine f.file
    · rcases List.mem_cons.mp h with rfl | h
      · exact isLine_findingLine f
      · exact ih h

theorem isLine_of_mem_summary {s : Summary} {line : List Span} (h : line ∈ linesOfSummary s) :
    IsLine line := by
  unfold linesOfSummary at h
  rcases List.mem_append.mp h with h | h
  · rcases List.mem_cons.mp h with rfl | h
    · exact isLine_domainLine s
    · obtain ⟨e, _, rfl⟩ := List.mem_map.mp h
      exact isLine_errorLine e
  · split at h
    · obtain rfl := List.mem_singleton.mp h
      exact isLine_plain (by decide)
    · exact isLine_of_mem_findings h

theorem isLine_of_mem_report {summaries : List Summary} {verdict : Verdict} {line : List Span}
    (h : line ∈ linesOfReport summaries verdict) : IsLine line := by
  unfold linesOfReport at h
  rcases List.mem_append.mp h with h | h
  · rcases List.mem_append.mp h with h | h
    · rcases List.mem_append.mp h with h | h
      · obtain ⟨s, _, h⟩ := List.mem_flatMap.mp h
        exact isLine_of_mem_summary h
      · obtain rfl := List.mem_singleton.mp h
        exact isLine_plain (by decide)
    · obtain ⟨s, hs, rfl⟩ := List.mem_map.mp h
      exact isLine_footer hs
  · obtain rfl := List.mem_singleton.mp h
    exact isLine_verdictLine verdict

theorem lines_spans (summaries : List Summary) (verdict : Verdict) :
    lines (spans summaries verdict) = linesOfReport summaries verdict := by
  rw [← flatten_linesOfReport, lines_flatten fun _ => isLine_of_mem_report]

/-! ## Results -/

theorem inner_spaced (s : String) : inner ("  " ++ s ++ "  ") = s := by
  simp [inner, String.toList_append]

theorem trim_name (v : Severity) : Text.trim (Text.padEnd 8 v.name) = v.name := by
  cases v <;> decide

structure Grouped (l : List Finding) : Prop where
  byFile : Linting.ByFile l
  oneName : ∀ f ∈ l, ∀ g ∈ l, f.file.same g.file → f.file = g.file

theorem Grouped.sortByFile_eq {l : List Finding} (h : Grouped l) : sortByFile l = l :=
  List.mergeSort_of_pairwise h.byFile

section
variable {domain file : String} {rest : List (List Span)} {results : List Told}

theorem toldInLines_domainLine (s : Summary) :
    toldInLines domain file (domainLine s :: rest) = toldInLines s.domain "" rest := by
  unfold domainLine
  rw [toldInLines]
  exact if_pos rfl

theorem toldInLines_fileLine (p : FilePath) :
    toldInLines domain file (fileLine p :: rest) = toldInLines domain p.text rest := by
  unfold fileLine
  rw [toldInLines]
  exact if_neg (by decide)

theorem toldInLines_findingLine (f : Finding) : toldInLines domain f.file.text (findingLine f :: rest) =
    f.told domain :: toldInLines domain f.file.text rest := by
  unfold findingLine Finding.told
  rw [toldInLines]
  simp [plain, numbersIn_place, inner_spaced, trim_name]

theorem toldInLines_errors (l : List RuleError) :
    toldInLines domain file (l.map errorLine ++ rest) = toldInLines domain file rest := by
  induction l with
  | nil => rfl
  | cons e l ih =>
    rw [List.map_cons, List.cons_append, ← ih]
    rfl

theorem toldInLines_plain (l : List Span) :
    toldInLines domain file (l.map (fun s => [s]) ++ rest) = toldInLines domain file rest := by
  induction l with
  | nil => rfl
  | cons s l ih =>
    rw [List.map_cons, List.cons_append, ← ih]
    rfl

theorem toldInLines_verdictLine (v : Verdict) : toldInLines domain file [verdictLine v] = [] := by
  unfold verdictLine
  cases v.pass <;> rfl

/-- A finding without a file line before it is in the file of the finding before. -/
theorem toldInLines_findings {current : Option FilePath} {l : List Finding}
    (hcurrent : ∀ p, current = some p → p.text = file ∧ ∀ f ∈ l, p.same f.file → p = f.file)
    (hl : ∀ f ∈ l, ∀ g ∈ l, f.file.same g.file → f.file = g.file)
    (hrest : ∀ file, toldInLines domain file rest = results) :
    toldInLines domain file (linesOfFindings current l ++ rest) = l.map (Finding.told domain) ++ results := by
  induction l generalizing file current with
  | nil => exact hrest file
  | cons f l ih =>
    have hnext : toldInLines domain f.file.text (linesOfFindings (some f.file) l ++ rest) =
        l.map (Finding.told domain) ++ results := by
      refine ih ?_ fun g hg g' hg' => hl g (List.mem_cons_of_mem _ hg) g' (List.mem_cons_of_mem _ hg')
      rintro p hp
      obtain rfl := Option.some.inj hp
      exact ⟨rfl, fun g hg => hl f List.mem_cons_self g (List.mem_cons_of_mem _ hg)⟩
    rw [linesOfFindings, List.map_cons, List.cons_append, ← hnext, ← toldInLines_findingLine]
    -- without a file line the name that was read last has to be that of `f.file`, not another spelling of it
    by_cases h : current.any (·.same f.file)
    · cases current with
      | none => cases h
      | some p =>
        obtain ⟨htext, hsame⟩ := hcurrent p rfl
        obtain rfl := hsame f List.mem_cons_self h
        rw [if_pos h, List.nil_append, List.cons_append, htext]
    · rw [if_neg h, List.append_assoc, List.singleton_append, toldInLines_fileLine, List.cons_append]

theorem toldInLines_summary {s : Summary} (h : Grouped s.findings)
    (hrest : ∀ domain file, toldInLines domain file rest = results) :
    toldInLines domain file (linesOfSummary s ++ rest) = s.findings.map (Finding.told s.domain) ++ results := by
  unfold linesOfSummary
  rw [List.cons_append, List.cons_append, toldInLines_domainLine, List.append_assoc, toldInLines_errors]
  by_cases hempty : s.findings.isEmpty
  · rw [if_pos hempty, List.isEmpty_iff.mp hempty]
    exact hrest _ _
  · rw [if_neg hempty, h.sortByFile_eq]
    exact toldInLines_findings nofun h.oneName (hrest _)

end

/-- Reading a report gives the findings of its summaries. -/
theorem toldIn_spans {summaries : List Summary} (h : ∀ s ∈ summaries, Grouped s.findings)
    (verdict : Verdict) : toldIn (spans summaries verdict) =
      summaries.flatMap fun s => s.findings.map (Finding.told s.domain) := by
  have hend : ∀ domain file, toldInLines domain file ([[plain "\n"]] ++
      ((footer (summaries.flatMap (·.findings))).map (fun s => [s]) ++ [verdictLine verdict])) = [] := by
    intro domain file
    exact (toldInLines_plain [plain "\n"]).trans ((toldInLines_plain _).trans (toldInLines_verdictLine verdict))
  unfold toldIn
  rw [lines_spans, linesOfReport, List.append_assoc, List.append_assoc]
  -- what follows the summaries tells no result below any names, so it can be any lines from here on
  generalize [[plain "\n"]] ++ ((footer (summaries.flatMap (·.findings))).map (fun s => [s]) ++
    [verdictLine verdict]) = rest at hend
  suffices ∀ domain file, toldInLines domain file (summaries.flatMap linesOfSummary ++ rest) =
      summaries.flatMap fun s => s.findings.map (Finding.told s.domain) from this "" ""
  induction summaries with
  | nil => exact hend
  | cons s summaries ih =>
    obtain ⟨hs, hsummaries⟩ := List.forall_mem_cons.mp h
    intro domain file
    rw [List.flatMap_cons, List.append_assoc]
    exact toldInLines_summary hs (ih hsummaries)

/-! ## Counts -/

theorem footerText_spans (summaries : List Summary) (verdict : Verdict) :
    footerText (spans summaries verdict) =
      ((footer (summaries.flatMap (·.findings))).head?.map Span.text).getD "\n" := by
  unfold footerText
  rw [lines_spans, linesOfReport, List.dropLast_concat]
  unfold footer
  by_cases h : (summaries.flatMap (·.findings)).isEmpty
  · simp [h, plain]
  · simp [h, plain]

theorem numbersIn_footer {l : List Finding} (h : l ≠ []) :
    numbersIn (((footer l).head?.map Span.text).getD "\n") =
      [l.length, countLevel .error l, countLevel .warning l, countLevel .note l] := by
  unfold footer
  simp only [List.isEmpty_iff, h, if_false, List.head?_cons, Option.map_some, Option.getD_some, plain,
    String.append_assoc]
  rw [numbersIn_append (by decide), numbersIn_countText _ (String.toList_append ..) (by decide),
    numbersIn_append (by decide), numbersIn_countText _ (String.toList_append ..) (by decide),
    numbersIn_append (by decide), numbersIn_countText _ (String.toList_append ..) (by decide),
    numbersIn_append (by decide), numbersIn_countText _ rfl (by decide)]
  rfl

theorem footerCount_spans (level : Level) (summaries : List Summary) (verdict : Verdict) :
    footerCount level (spans summaries verdict) = countLevel level (summaries.flatMap (·.findings)) := by
  unfold footerCount
  rw [footerText_spans]
  by_cases h : summaries.flatMap (·.findings) = []
  · rw [h]
    cases level <;> rfl
  · rw [numbersIn_footer h]
    cases level <;> rfl

/-! ## Marks -/

def isMark (s : Span) : Bool := s.style matches .mark _

def severityMark (v : Severity) : Span := ⟨.mark v.level, Text.padEnd 8 v.name⟩

def verdictMark (v : Verdict) : Span := if v.pass then passMark else ⟨.mark .error, "FAIL"⟩

theorem marks_findingLines (current : Option FilePath) (l : List Finding) :
    (findingLines current l).filter isMark = l.map fun f => severityMark f.severity := by
  induction l generalizing current with
  | nil => rfl
  | cons f l ih =>
    rw [findingLines, List.filter_append, ih, List.filter_append]
    split <;> rfl

theorem marks_summaryLines (s : Summary) : (summaryLines s).filter isMark =
    s.errors.map (fun _ => ruleErrorMark) ++ (sortByFile s.findings).map fun f => severityMark f.severity := by
  have herrors : (s.errors.flatMap errorLine).filter isMark = s.errors.map fun _ => ruleErrorMark := by
    induction s.errors with
    | nil => rfl
    | cons e l ih =>
      rw [List.flatMap_cons, List.filter_append, ih]
      rfl
  unfold summaryLines
  rw [List.filter_append, List.filter_append, herrors]
  by_cases h : s.findings.isEmpty
  · rw [if_pos h, List.isEmpty_iff.mp h, sortByFile, List.mergeSort_nil]
    rfl
  · rw [if_neg h, marks_findingLines]
    rfl

theorem marks_spans (summaries : List Summary) (verdict : Verdict) :
    (spans summaries verdict).filter isMark =
      summaries.flatMap (fun s => s.errors.map (fun _ => ruleErrorMark) ++
        (sortByFile s.findings).map fun f => severityMark f.severity) ++ [verdictMark verdict] := by
  have hfooter : ∀ l, (footer l).filter isMark = [] := by
    intro l
    unfold footer
    split <;> rfl
  have hverdict : (verdictLine verdict).filter isMark = [verdictMark verdict] := by
    unfold verdictLine verdictMark
    cases verdict.pass <;> rfl
  have hsummaries : (summaries.flatMap summaryLines).filter isMark = summaries.flatMap fun s =>
      s.errors.map (fun _ => ruleErrorMark) ++
        (sortByFile s.findings).map fun f => severityMark f.severity := by
    rw [List.filter_flatMap]
    simp only [marks_summaryLines]
  unfold spans
  rw [List.filter_append, List.filter_append, List.filter_append, hsummaries, hfooter, hverdict,
    List.append_nil]
  exact congrArg (· ++ _) (List.append_nil _)

theorem severityMark_ne (v : Severity) : severityMark v ≠ ruleErrorMark ∧ severityMark v ≠ passMark := by
  cases v <;> decide

/-- There is a mark for each rule that could not run. -/
theorem count_ruleErrorMark (summaries : List Summary) (verdict : Verdict) :
    (spans summaries verdict).count ruleErrorMark = (summaries.flatMap (·.errors)).length := by
  have hverdict : [verdictMark verdict].count ruleErrorMark = 0 := by
    unfold verdictMark
    cases verdict.pass <;> rfl
  have hfindings : ∀ l : List Finding, (l.map fun f => severityMark f.severity).count ruleErrorMark = 0 := by
    intro l
    rw [List.count_eq_zero]
    intro h
    obtain ⟨f, _, hf⟩ := List.mem_map.mp h
    exact (severityMark_ne f.severity).1 hf
  have hmark : isMark ruleErrorMark := rfl
  rw [← List.count_filter hmark, marks_spans, List.count_append, hverdict, Nat.add_zero]
  induction summaries with
  | nil => rfl
  | cons s summaries ih =>
    rw [List.flatMap_cons, List.flatMap_cons, List.count_append, List.count_append, List.length_append, ih,
      hfindings]
    simp

theorem passMark_mem {summaries : List Summary} {verdict : Verdict} :
    passMark ∈ spans summaries verdict ↔ verdict.pass := by
  have hfilter : passMark ∈ spans summaries verdict ↔ passMark ∈ (spans summaries verdict).filter isMark := by
    rw [List.mem_filter]
    exact ⟨fun h => ⟨h, rfl⟩, fun h => h.1⟩
  rw [hfilter, marks_spans, List.mem_append, List.mem_singleton]
  constructor
  · rintro (h | h)
    · obtain ⟨s, _, h⟩ := List.mem_flatMap.mp h
      rcases List.mem_append.mp h with h | h
      · obtain ⟨_, _, h⟩ := List.mem_map.mp h
        exact absurd h (by decide)
      · obtain ⟨f, _, h⟩ := List.mem_map.mp h
        exact absurd h (severityMark_ne f.severity).2
    · unfold verdictMark at h
      by_cases hpass : verdict.pass
      · exact hpass
      · rw [if_neg hpass] at h
        exact absurd h (by decide)
  · intro hpass
    exact .inr (if_pos hpass).symm

end RuleLint.Console
