import Mathlib.Data.List.Forall2
import RuleLint.Json.Decode
import RuleLint.Proofs.Except
import RuleLint.Proofs.Json.Scalars

/-!
# Reading values back

What is written of a value over several lines is read with a schema as a value (`ReadsAs`). That a list or
a record is read comes down to its parts being read, so it is shown kind by kind. A whole text is read
likewise (`ReadsAs.parseAs_pretty`).
-/

namespace RuleLint.Json

/-! ## Blanks -/

section
variable {c : Char} {cs r : List Char}

theorem skip_cons (h : isSpace c = false) : skip (c :: cs) = c :: cs :=
  List.dropWhile_cons_of_neg (by simp [h])

theorem skip_newline (level : Nat) (cs : List Char) : skip (newline level ++ cs) = skip cs := by
  have hblanks : ∀ n, skip (List.replicate n ' ' ++ cs) = skip cs := by
    intro n
    induction n with
    | zero => rfl
    | succ n ih => exact ih
  exact hblanks _

/-! ## Items and keys -/

theorem nextItem_close (first : Bool) (h : skip cs = ']' :: r) :
    nextItem first cs = .ok (false, ']' :: r) := by
  rw [nextItem, h]
  rfl

theorem nextItem_first (h : skip cs = c :: r) (hc : c ≠ ']') : nextItem true cs = .ok (true, c :: r) := by
  simp [nextItem, h, plain, Except.mapError]

theorem nextItem_next (h : skip cs = c :: r) (hc : c ≠ ']') :
    nextItem false (',' :: cs) = .ok (true, c :: r) := by
  have hcomma : skip (',' :: cs) = ',' :: cs := skip_cons rfl
  simp [nextItem, hcomma, h, hc, plain, Except.mapError]

theorem nextKey_close (first : Bool) (h : skip cs = '\x7d' :: r) :
    nextKey first cs = .ok (none, '\x7d' :: r) := by
  rw [nextKey, h]
  rfl

theorem quoted_append (s : String) (r : List Char) :
    quoted s ++ r = '"' :: (s.toList.flatMap escape ++ '"' :: r) := by
  rw [quoted, List.append_assoc, List.cons_append, List.singleton_append]

theorem nextKey_first {key : String} (h : skip cs = quoted key ++ r) :
    nextKey true cs = .ok (some key, r) := by
  rw [quoted_append] at h
  rw [nextKey, h]
  simp [readStringAll_quoted, plain, Except.mapError, bind, Except.bind, pure, Except.pure]

theorem nextKey_next {key : String} (h : skip cs = quoted key ++ r) :
    nextKey false (',' :: cs) = .ok (some key, r) := by
  have hcomma : skip (',' :: cs) = ',' :: cs := skip_cons rfl
  rw [quoted_append] at h
  rw [nextKey, hcomma]
  simp [h, readStringAll_quoted, plain, Except.mapError, bind, Except.bind, pure, Except.pure]

theorem readColon_colon (r : List Char) : readColon (':' :: r) = .ok r := rfl

theorem ends_prettyItems (level : Nat) (vs : List Json) (r : List Char) :
    Ends (prettyItems level vs ++ r) := by
  cases vs with
  | nil => exact fun c hc => .inr (Option.some.inj hc).symm
  | cons v vs => exact fun c hc => .inl (Option.some.inj hc).symm

theorem ends_prettyMembers (level : Nat) (ms : List (String × Json)) (r : List Char) :
    Ends (prettyMembers level ms ++ r) := by
  cases ms with
  | nil => exact fun c hc => .inr (Option.some.inj hc).symm
  | cons m ms => exact fun c hc => .inl (Option.some.inj hc).symm

end

/-! ## Values -/

section
variable {n depth : Nat} {cs r rest : List Char}

theorem readShape_text {t : String} (h : skip cs = quoted t ++ rest) :
    readShape (n + 1) depth .text cs = .ok (.str t, rest) := by
  simp [readShape, h, quoted_append, readStringAll_quoted, plain, Except.mapError, bind, Except.bind, pure,
    Except.pure]

theorem readShape_path {t : String} (h : skip cs = quoted t ++ rest) :
    readShape (n + 1) depth .path cs = .ok (.str t, rest) := by
  simp [readShape, h, quoted_append, readStringAll_quoted, plain, Except.mapError, bind, Except.bind, pure,
    Except.pure]

theorem readShape_variant {names : List String} {t : String} (ht : t ∈ names)
    (h : skip cs = quoted t ++ rest) : readShape (n + 1) depth (.variant names) cs = .ok (.str t, rest) := by
  simp [readShape, readVariantName, h, ht, quoted_append, readStringAll_quoted, plain, Except.mapError, bind,
    Except.bind, pure, Except.pure]

theorem exists_digits (k : Nat) : ∃ c r, (toString k).toList = c :: r ∧ isDigit c := by
  rw [Nat.toString_eq_repr, Nat.toList_repr]
  cases hcs : Nat.toDigits 10 k with
  | nil => exact absurd hcs Nat.toDigits_ne_nil
  | cons c r =>
    have hc : c ∈ Nat.toDigits 10 k := hcs ▸ List.mem_cons_self
    exact ⟨c, r, rfl, Nat.isDigit_of_mem_toDigits (by decide) (by decide) hc⟩

theorem readShape_count {k : Nat} (hk : k ≤ maxNatural) (h : skip cs = (toString k).toList ++ rest)
    (hrest : Ends rest) : readShape (n + 1) depth .count cs = .ok (nat k, rest) := by
  obtain ⟨c, r, hr, hc⟩ := exists_digits k
  have hhead : skip cs = c :: (r ++ rest) := by rw [h, hr, List.cons_append]
  have hsign : c ≠ '-' := by
    rintro rfl
    cases hc
  have hcount : readShape (n + 1) depth .count cs = readCount true (c :: (r ++ rest)) := by
    simp [readShape, hhead, hc]
  rw [hcount, ← hhead, h, readCount, readNumber_toString hk hrest]
  rfl

theorem readShape_list {s : Schema} {items : List Json} (h : skip cs = '[' :: r)
    (hitems : readList n (depth + 1) s true r = .ok (items, ']' :: rest)) :
    readShape (n + 1) (depth + 2) (.list s) cs = .ok (.arr items, rest) := by
  have henter : enter (depth + 2) ('[' :: r) = .ok () := rfl
  have hclose : closeList (']' :: rest) = .ok rest := rfl
  simp [readShape, h, henter, hitems, hclose, Except.mapError, bind, Except.bind, pure, Except.pure]

theorem readShape_record {name : String} {fields : List (String × Absence × Schema)}
    {members : List (String × Json)} (h : skip cs = '\x7b' :: r)
    (hmembers : readRecord n (depth + 1) fields [] true r = .ok (members, '\x7d' :: rest)) :
    readShape (n + 1) (depth + 2) (.record name fields) cs = .ok (.obj members, rest) := by
  have henter : enter (depth + 2) ('\x7b' :: r) = .ok () := rfl
  have hclose : closeObject ('\x7d' :: rest) = rest := rfl
  simp [readShape, h, henter, hmembers, hclose, Except.mapError, bind, Except.bind, pure, Except.pure]

/-! ## Lists -/

theorem readList_close {s : Schema} {first : Bool} (h : skip cs = ']' :: rest) :
    readList (n + 1) depth s first cs = .ok ([], ']' :: rest) := by
  rw [readList, nextItem_close first h]
  rfl

theorem readList_item {s : Schema} {first : Bool} {r' r'' : List Char} {w : Json} {ws : List Json}
    (hitem : nextItem first cs = .ok (true, r)) (hw : readShape n depth s r = .ok (w, r'))
    (hws : readList n depth s false r' = .ok (ws, r'')) :
    readList (n + 1) depth s first cs = .ok (w :: ws, r'') := by
  rw [readList, hitem]
  simp only [bind, Except.bind, hw, hws]
  rfl

/-! ## Records -/

section
variable {fields : List (String × Absence × Schema)} {known members : List (String × Json)} {first : Bool}

theorem readRecord_close (h : skip cs = '\x7d' :: rest) (hmembers : Schema.complete known fields = .ok members) :
    readRecord (n + 1) depth fields known first cs = .ok (members, '\x7d' :: rest) := by
  rw [readRecord, nextKey_close first h]
  simp only [bind, Except.bind, hmembers]
  rfl

theorem readRecord_member {key : String} {absence : Absence} {s : Schema} {w : Json} {r' : List Char}
    (hkey : nextKey first cs = .ok (some key, ':' :: r))
    (hfield : fields.find? (fun f => f.1 = key) = some (key, absence, s)) (hnew : key ∉ known.map (·.1))
    (hw : readShape n depth s r = .ok (w, r')) :
    readRecord (n + 1) depth fields known first cs = readRecord n depth fields ((key, w) :: known) false r' := by
  have hnew : (known.any fun m => m.1 = key) = false := by
    rw [List.any_eq_false]
    exact fun m hm => decide_eq_true_iff.not.mpr fun hkey => hnew (hkey ▸ List.mem_map_of_mem hm)
  rw [readRecord, hkey]
  simp [bind, Except.bind, hfield, hnew, readColon_colon, hw]

end

end

/-- The text of `v` is read with a schema as `w`, however deep it is written and whatever follows. -/
structure ReadsAs (depth : Nat) (s : Schema) (v w : Json) : Prop where
  starts : ∀ level, ∃ c r, prettyChars level v = c :: r ∧ isSpace c = false ∧ c ≠ ']'
  reads : ∀ {level n : Nat} {cs rest : List Char}, skip cs = prettyChars level v ++ rest → Ends rest →
    2 * cs.length ≤ n → readShape (n + 1) depth s cs = .ok (w, rest)

namespace ReadsAs

theorem text (depth : Nat) (t : String) : ReadsAs depth .text (.str t) (.str t) where
  starts _ := ⟨'"', _, rfl, rfl, by decide⟩
  reads h _ _ := readShape_text h

theorem path (depth : Nat) (t : String) : ReadsAs depth .path (.str t) (.str t) where
  starts _ := ⟨'"', _, rfl, rfl, by decide⟩
  reads h _ _ := readShape_path h

theorem variant (depth : Nat) {names : List String} {t : String} (ht : t ∈ names) :
    ReadsAs depth (.variant names) (.str t) (.str t) where
  starts _ := ⟨'"', _, rfl, rfl, by decide⟩
  reads h _ _ := readShape_variant ht h

theorem count (depth : Nat) {k : Nat} (hk : k ≤ maxNatural) : ReadsAs depth .count (nat k) (nat k) where
  starts _ := by
    obtain ⟨c, r, hr, hc⟩ := exists_digits k
    refine ⟨c, r, hr, ?_, ?_⟩
    · refine Bool.eq_false_iff.mpr fun hspace => ?_
      simp only [isSpace, Bool.or_eq_true, decide_eq_true_eq] at hspace
      rcases hspace with ((rfl | rfl) | rfl) | rfl
      all_goals cases hc
    · rintro rfl
      cases hc
  reads h hrest _ := readShape_count hk h hrest

section
variable {depth : Nat} {s : Schema} {v w : Json} {vs ws : List Json}

theorem nextItem_first (h : ReadsAs depth s v w) (level : Nat) (rest : List Char) :
    nextItem true (newline level ++ (prettyChars level v ++ rest)) = .ok (true, prettyChars level v ++ rest) := by
  obtain ⟨c, r, hr, hspace, hc⟩ := h.starts level
  rw [hr, List.cons_append]
  exact Json.nextItem_first ((skip_newline level _).trans (skip_cons hspace)) hc

theorem nextItem_next (h : ReadsAs depth s v w) (level : Nat) (rest : List Char) :
    nextItem false (',' :: (newline level ++ (prettyChars level v ++ rest))) =
      .ok (true, prettyChars level v ++ rest) := by
  obtain ⟨c, r, hr, hspace, hc⟩ := h.starts level
  rw [hr, List.cons_append]
  exact Json.nextItem_next ((skip_newline level _).trans (skip_cons hspace)) hc

theorem skip_text (h : ReadsAs depth s v w) (level : Nat) (rest : List Char) :
    skip (prettyChars level v ++ rest) = prettyChars level v ++ rest := by
  obtain ⟨c, r, hr, hspace, _⟩ := h.starts level
  rw [hr, List.cons_append]
  exact skip_cons hspace

/-- The items after the first are read up to the bracket. -/
theorem readList_prettyItems (h : List.Forall₂ (ReadsAs depth s) vs ws) (level : Nat) {n : Nat}
    {rest : List Char} (hn : 2 * (prettyItems level vs ++ rest).length ≤ n) :
    readList (n + 1) depth s false (prettyItems level vs ++ rest) = .ok (ws, ']' :: rest) := by
  induction h generalizing n with
  | nil =>
    rw [prettyItems, List.append_assoc]
    exact readList_close (skip_newline level _)
  | @cons v w vs ws hv _ ih =>
    simp only [prettyItems, List.cons_append, List.append_assoc, List.length_append, List.length_cons] at hn ⊢
    obtain ⟨n, rfl⟩ : ∃ m, n = m + 1 := ⟨n - 1, by omega⟩
    refine readList_item (hv.nextItem_next (level + 1) _)
      (hv.reads (hv.skip_text _ _) (ends_prettyItems level vs rest) ?_) (ih ?_)
    · simp only [List.length_append]
      omega
    · simp only [List.length_append]
      omega

theorem list (h : List.Forall₂ (ReadsAs (depth + 1) s) vs ws) :
    ReadsAs (depth + 2) (.list s) (.arr vs) (.arr ws) where
  starts _ := by
    cases vs with
    | nil => exact ⟨'[', _, rfl, rfl, by decide⟩
    | cons v vs => exact ⟨'[', _, rfl, rfl, by decide⟩
  reads {level n cs rest} hcs _ hn := by
    have hlength : (skip cs).length ≤ cs.length := (List.dropWhile_sublist _).length_le
    rw [hcs] at hlength
    cases h with
    | nil =>
      obtain ⟨n, rfl⟩ : ∃ m, n = m + 1 := ⟨n - 1, by simp [prettyChars] at hlength; omega⟩
      exact readShape_list hcs (readList_close (skip_cons rfl))
    | @cons v w vs ws hv hvs =>
      simp only [prettyChars, List.cons_append, List.append_assoc] at hcs hlength
      simp only [newline, List.length_append, List.length_cons] at hlength
      obtain ⟨n, rfl⟩ : ∃ m, n = m + 2 := ⟨n - 2, by omega⟩
      refine readShape_list hcs (readList_item (hv.nextItem_first (level + 1) _)
        (hv.reads (hv.skip_text _ _) (ends_prettyItems level vs rest) ?_) (readList_prettyItems hvs level ?_))
      · simp only [List.length_append]
        omega
      · simp only [List.length_append]
        omega

end

end ReadsAs

structure ReadsMember (depth : Nat) (fields : List (String × Absence × Schema)) (m w : String × Json) :
    Prop where
  name : w.1 = m.1
  field : ∃ absence s, fields.find? (fun f => f.1 = m.1) = some (m.1, absence, s) ∧ ReadsAs depth s m.2 w.2

section
variable {depth : Nat} {fields : List (String × Absence × Schema)}
  {ms ws known members : List (String × Json)}

theorem ReadsMember.readRecord_eq {key : String} {v : Json} {w : String × Json}
    (h : ReadsMember depth fields (key, v) w) (hnew : key ∉ known.map (·.1)) (level : Nat) {first : Bool}
    {cs rest : List Char}
    (hkey : nextKey first cs = .ok (some key, ':' :: ' ' :: (prettyChars level v ++ rest))) (hrest : Ends rest)
    {n : Nat} (hn : 2 * (prettyChars level v ++ rest).length + 3 ≤ n) :
    readRecord (n + 1) depth fields known first cs = readRecord n depth fields (w :: known) false rest := by
  obtain ⟨hname, absence, s, hfield, hv⟩ := h
  obtain ⟨name, w⟩ := w
  obtain rfl : name = key := hname
  obtain ⟨n, rfl⟩ : ∃ m, n = m + 1 := ⟨n - 1, by omega⟩
  refine readRecord_member hkey hfield hnew (hv.reads (hv.skip_text level rest) hrest ?_)
  rw [List.length_cons]
  omega

/-- The members after the first are read up to the brace. -/
theorem readRecord_prettyMembers (h : List.Forall₂ (ReadsMember depth fields) ms ws)
    (hnew : ((known.reverse ++ ms).map (·.1)).Nodup)
    (hmembers : Schema.complete (ws.reverse ++ known) fields = .ok members) (level : Nat) {n : Nat}
    {rest : List Char} (hn : 2 * (prettyMembers level ms ++ rest).length ≤ n) :
    readRecord (n + 1) depth fields known false (prettyMembers level ms ++ rest) =
      .ok (members, '\x7d' :: rest) := by
  induction h generalizing n known with
  | nil =>
    rw [prettyMembers, List.append_assoc]
    exact readRecord_close (skip_newline level _) hmembers
  | @cons m w ms ws hm _ ih =>
    obtain ⟨key, v⟩ := m
    have hnames : ((w :: known).reverse ++ ms).map (·.1) = (known.reverse ++ (key, v) :: ms).map (·.1) := by
      simp [hm.name]
    have hkey : key ∉ known.map (·.1) := by
      intro h
      rw [List.map_append, List.nodup_append] at hnew
      exact hnew.2.2 key (by simpa using h) key List.mem_cons_self rfl
    rw [List.reverse_cons, List.append_assoc, List.singleton_append] at hmembers
    simp only [prettyMembers, List.cons_append, List.append_assoc, List.length_append, List.length_cons] at hn ⊢
    obtain ⟨n, rfl⟩ : ∃ m, n = m + 1 := ⟨n - 1, by omega⟩
    rw [hm.readRecord_eq hkey (level + 1) (nextKey_next (skip_newline (level + 1) _))
      (ends_prettyMembers level ms rest)]
    · refine ih (hnames ▸ hnew) hmembers ?_
      simp only [List.length_append]
      omega
    · simp only [List.length_append]
      omega

theorem ReadsAs.record {name : String} (h : List.Forall₂ (ReadsMember (depth + 1) fields) ms ws)
    (hnew : (ms.map (·.1)).Nodup) (hmembers : Schema.complete ws.reverse fields = .ok members) :
    ReadsAs (depth + 2) (.record name fields) (.obj ms) (.obj members) where
  starts _ := by
    cases ms with
    | nil => exact ⟨'\x7b', _, rfl, rfl, by decide⟩
    | cons m ms => exact ⟨'\x7b', _, rfl, rfl, by decide⟩
  reads {level n cs rest} hcs _ hn := by
    have hlength : (skip cs).length ≤ cs.length := (List.dropWhile_sublist _).length_le
    rw [hcs] at hlength
    cases h with
    | nil =>
      obtain ⟨n, rfl⟩ : ∃ m, n = m + 1 := ⟨n - 1, by simp [prettyChars] at hlength; omega⟩
      exact readShape_record hcs (readRecord_close (skip_cons rfl) hmembers)
    | @cons m w ms ws hm hms =>
      obtain ⟨key, v⟩ := m
      rw [List.reverse_cons] at hmembers
      simp only [prettyChars, List.cons_append, List.append_assoc] at hcs hlength
      simp only [newline, List.length_append, List.length_cons] at hlength
      obtain ⟨n, rfl⟩ : ∃ m, n = m + 2 := ⟨n - 2, by omega⟩
      have hnames : ([w].reverse ++ ms).map (·.1) = ((key, v) :: ms).map (·.1) := by simp [hm.name]
      refine readShape_record hcs ?_
      rw [hm.readRecord_eq List.not_mem_nil (level + 1) (nextKey_first (skip_newline (level + 1) _))
        (ends_prettyMembers level ms rest)]
      · refine readRecord_prettyMembers hms (hnames ▸ hnew) hmembers level ?_
        simp only [List.length_append]
        omega
      · simp only [List.length_append]
        omega

end

/-! ## Texts -/

/-- A value that is read back is read from a text that holds it alone. -/
theorem ReadsAs.parseAs_pretty {s : Schema} {v w : Json} (h : ReadsAs depthLimit s v w) :
    parseAs s v.pretty = .ok w := by
  have hread := h.reads (n := 3 * (prettyChars 0 v).length + 2) (h.skip_text 0 []) nofun (by
    rw [List.append_nil]
    omega)
  rw [List.append_nil] at hread
  rw [parseAs, pretty, String.toList_ofList, ofTextAs, bound, hread]
  rfl

end RuleLint.Json
