import RuleLint.Json.Printer
import RuleLint.Json.Reader

/-!
# Reading scalars back

What stands for a character in a string is read as that character (`readString_escape`), so a string in
quotes is read back (`readStringAll_quoted`). The digits of a number are read back if the number is kept
exactly and nothing follows that could belong to it (`readNumber_toString`).
-/

namespace RuleLint.Json

/-! ## Strings -/

theorem hexDigit?_hexChar {d : Nat} (h : d < 16) : hexDigit? (hexChar d) = some d := by
  revert d
  decide

theorem utf8Size_hexChar {d : Nat} (h : d < 16) : (hexChar d).utf8Size = 1 := by
  revert d
  decide

/-- A control character is read from its four digits. -/
theorem readUnicode_control {c : Char} (h : c.toNat < 32) (rest : List Char) :
    readUnicode ('0' :: '0' :: hexChar (c.toNat / 16) :: hexChar (c.toNat % 16) :: rest) = .ok (c, rest) := by
  have hhigh : c.toNat / 16 < 16 := by omega
  have hlow : c.toNat % 16 < 16 := Nat.mod_lt _ (by decide)
  have hsize : ¬ Text.byteSize
      ('0' :: '0' :: hexChar (c.toNat / 16) :: hexChar (c.toNat % 16) :: rest) < 4 := by
    have hzero : '0'.utf8Size = 1 := by decide
    simp only [Text.byteSize, utf8Size_hexChar hhigh, utf8Size_hexChar hlow, hzero]
    omega
  have hzero : hexDigit? '0' = some 0 := by decide
  have hvalue : ((0 * 16 + 0) * 16 + c.toNat / 16) * 16 + c.toNat % 16 = c.toNat := by omega
  have hhex : readHex ('0' :: '0' :: hexChar (c.toNat / 16) :: hexChar (c.toNat % 16) :: rest) =
      .ok (c.toNat, rest) := by
    rw [readHex, if_neg hsize, hzero, hexDigit?_hexChar hhigh, hexDigit?_hexChar hlow]
    dsimp only
    rw [hvalue]
  rw [readUnicode, hhex]
  simp only [bind, Except.bind]
  rw [if_neg (by omega), if_pos (.inl (by omega))]
  exact congrArg (fun x => Except.ok (x, rest)) (Char.ofNat_toNat c)

/-- What a character is written as stands for that character. -/
theorem readString_escape (n : Nat) (c : Char) (cs : List Char) :
    readString (n + 1) (escape c ++ cs) = do
      let (s, r) ← readString n cs
      return (c :: s, r) := by
  unfold escape
  split
  · rfl
  · rfl
  · rfl
  · rfl
  · rfl
  rename_i hquote hbackslash _ _ _
  split
  · have hc : c = '\x08' := Char.toNat_inj.mp ‹_›
    subst hc
    rfl
  split
  · have hc : c = '\x0c' := Char.toNat_inj.mp ‹_›
    subst hc
    rfl
  split
  · rename_i hcontrol
    simp only [List.cons_append, List.nil_append]
    rw [readString, if_neg (by decide), if_pos rfl]
    dsimp only
    rw [readUnicode_control hcontrol]
    rfl
  · rename_i hcontrol
    rw [List.singleton_append, readString.eq_def]
    dsimp only
    rw [if_neg hquote, if_neg hbackslash, if_neg hcontrol]

theorem readString_flatMap_escape {cs : List Char} {n : Nat} (h : cs.length < n) (rest : List Char) :
    readString n (cs.flatMap escape ++ '"' :: rest) = .ok (cs, rest) := by
  induction cs generalizing n with
  | nil =>
    obtain ⟨n, rfl⟩ := Nat.exists_eq_succ_of_ne_zero (Nat.ne_of_gt h)
    rfl
  | cons c cs ih =>
    rw [List.length_cons] at h
    obtain ⟨n, rfl⟩ := Nat.exists_eq_succ_of_ne_zero (Nat.ne_of_gt (Nat.zero_lt_of_lt h))
    rw [List.flatMap_cons, List.append_assoc, readString_escape, ih (Nat.lt_of_succ_lt_succ h)]
    rfl

theorem length_le_flatMap_escape (cs : List Char) : cs.length ≤ (cs.flatMap escape).length := by
  have hescape : ∀ c, 1 ≤ (escape c).length := by
    intro c
    unfold escape
    repeat' split
    all_goals exact Nat.le_add_left _ _
  induction cs with
  | nil => exact Nat.le_refl 0
  | cons c cs ih =>
    rw [List.flatMap_cons, List.length_append, List.length_cons]
    have := hescape c
    omega

/-- A string is read back from what stands after its opening quote. -/
theorem readStringAll_quoted (s : String) (rest : List Char) :
    readStringAll (s.toList.flatMap escape ++ '"' :: rest) = .ok (s, rest) := by
  have hlength : s.toList.length < (s.toList.flatMap escape ++ '"' :: rest).length + 1 := by
    have := length_le_flatMap_escape s.toList
    rw [List.length_append]
    omega
  rw [readStringAll, readString_flatMap_escape hlength]
  exact congrArg (fun x => Except.ok (x, rest)) String.ofList_toList

/-! ## Numbers -/

/-- What can follow a value: the end of the text, a comma or a line end. -/
def Ends (rest : List Char) : Prop := ∀ c ∈ rest.head?, c = ',' ∨ c = '\n'

section
variable {rest : List Char}

theorem readInteger_ends (h : Ends rest) (n : Nat) : readInteger true n rest = .ok (.natural n, rest) := by
  cases rest with
  | nil => rfl
  | cons c rest =>
    rcases h c rfl with rfl | rfl
    · rfl
    · rfl

theorem le_ofDigitChars (cs : List Char) (n : Nat) : n ≤ Nat.ofDigitChars 10 cs n := by
  induction cs generalizing n with
  | nil => exact Nat.le_refl n
  | cons c cs ih =>
    rw [Nat.ofDigitChars_cons]
    have := ih (10 * n + (c.toNat - '0'.toNat))
    omega

theorem readInteger_digits {cs : List Char} (hcs : ∀ c ∈ cs, isDigit c) {n : Nat}
    (hn : Nat.ofDigitChars 10 cs n ≤ maxNatural) (h : Ends rest) :
    readInteger true n (cs ++ rest) = .ok (.natural (Nat.ofDigitChars 10 cs n), rest) := by
  induction cs generalizing n with
  | nil => exact readInteger_ends h n
  | cons c cs ih =>
    obtain ⟨hc, hcs⟩ := List.forall_mem_cons.mp hcs
    have hvalue : n * 10 + digitValue c = 10 * n + (c.toNat - '0'.toNat) :=
      congrArg (· + _) (Nat.mul_comm n 10)
    rw [Nat.ofDigitChars_cons, ← hvalue] at hn ⊢
    rw [List.cons_append, readInteger, if_pos hc, if_pos (Nat.le_trans (le_ofDigitChars cs _) hn),
      ih hcs hn]

/-- Only the number 0 has the first digit 0. -/
theorem head?_toDigits {n : Nat} (h : 0 < n) : (Nat.toDigits 10 n).head? ≠ some '0' := by
  have hdigit : ∀ d < 10, 0 < d → [d.digitChar].head? ≠ some '0' := by decide
  induction n using Nat.strongRecOn with
  | ind n ih =>
    rw [Nat.toDigits_eq_if (by decide)]
    split
    · exact hdigit n ‹_› h
    · have hpos : 0 < n / 10 := by omega
      rw [List.head?_append, Option.or_of_isSome (List.isSome_head?.mpr Nat.toDigits_ne_nil)]
      exact ih (n / 10) (by omega) hpos

/-- A number is read back from its digits if it is kept exactly. -/
theorem readNumber_toString {n : Nat} (hn : n ≤ maxNatural) (h : Ends rest) :
    readNumber true ((toString n).toList ++ rest) = .ok (.natural n, rest) := by
  rw [Nat.toString_eq_repr, Nat.toList_repr]
  rcases Nat.eq_zero_or_pos n with rfl | hpos
  · cases rest with
    | nil => rfl
    | cons c rest =>
      rcases h c rfl with rfl | rfl
      · rfl
      · rfl
  have hhead := head?_toDigits hpos
  have hdigits : ∀ c ∈ Nat.toDigits 10 n, isDigit c := fun c =>
    Nat.isDigit_of_mem_toDigits (by decide) (by decide)
  have hvalue : Nat.ofDigitChars 10 (Nat.toDigits 10 n) 0 = n := Nat.ofDigitChars_ten_toDigits
  cases hcs : Nat.toDigits 10 n with
  | nil => exact absurd hcs Nat.toDigits_ne_nil
  | cons c cs =>
    rw [hcs] at hhead hdigits hvalue
    rw [Nat.ofDigitChars_cons] at hvalue
    have hc : c ≠ '0' := fun hc => hhead (congrArg some hc)
    have hfirst : 10 * 0 + (c.toNat - '0'.toNat) = digitValue c := Nat.zero_add _
    rw [hfirst] at hvalue
    rw [List.cons_append, readNumber, if_pos (hdigits c List.mem_cons_self),
      readInteger_digits (fun d hd => hdigits d (List.mem_cons_of_mem _ hd)) (hvalue ▸ hn) h, hvalue]
    exact hc

end

end RuleLint.Json
