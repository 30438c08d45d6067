import Mathlib.Data.List.DropRight
import Mathlib.Data.List.Forall2
import RuleLint.Glob.Expand
import RuleLint.Proofs.FileTree.Join

/-!
# Reading globs

Whether a text is a glob depends on what stands before it only through the character just before it
(`Pattern.isSome_readTokens`), and an escaped text can stand before any (`Pattern.readTokens_escape`). So a pattern
below a directory can be used if and only if it can be used by itself (`isSome_patternBelow?`), and its parts are
those of the directory and its own.
-/

namespace RuleLint.Glob

namespace Pattern

/-! ## Escaping -/

def escapeChar (c : Char) : List Char :=
  if c = '?' ∨ c = '*' ∨ c = '[' ∨ c = ']' then ['[', c, ']'] else [c]

def escapeToken (c : Char) : Token :=
  if c = '?' ∨ c = '*' ∨ c = '[' ∨ c = ']' then .within [(c, c)] else .char c

theorem toList_escape (s : String) : (escape s).toList = s.toList.flatMap escapeChar := by
  rw [escape, String.toList_ofList]
  rfl

theorem readClass?_escaped {c : Char} (hc : c ≠ '!') (rest : List Char) :
    readClass? (c :: ']' :: rest) = some (.within [(c, c)], rest) := by
  unfold readClass?
  split
  · rename_i heq
    exact absurd (List.cons.inj heq).1 hc
  · rename_i heq
    exact absurd (List.cons.inj heq).1 hc
  · rename_i heq
    obtain ⟨rfl, rfl⟩ := List.cons.inj heq
    simp [ranges]
  · rename_i heq
    cases heq

theorem readTokens_char {c : Char} (h₁ : c ≠ '?') (h₂ : c ≠ '[') (h₃ : c ≠ '*') (n : Nat) (done : List Token)
    (before : Option Char) (rest : List Char) :
    readTokens (n + 1) done before (c :: rest) = readTokens n (.char c :: done) (some c) rest := by
  rw [readTokens]
  · exact h₁
  · exact h₂
  · exact h₃

theorem readTokens_escapeChar (c : Char) (n : Nat) (done : List Token) (before : Option Char)
    (rest : List Char) : ∃ before', readTokens (n + 1) done before (escapeChar c ++ rest) =
      readTokens n (escapeToken c :: done) before' rest := by
  unfold escapeChar escapeToken
  by_cases hc : c = '?' ∨ c = '*' ∨ c = '[' ∨ c = ']'
  · have hne : c ≠ '!' := by
      rintro rfl
      revert hc
      decide
    refine ⟨some ']', ?_⟩
    simp [hc, readTokens, readClass?_escaped hne]
  · refine ⟨some c, ?_⟩
    simp only [hc, if_false, List.singleton_append]
    simp only [not_or] at hc
    exact readTokens_char hc.1 hc.2.2.1 hc.2.1 n done before rest

theorem readTokens_escape (s : List Char) (n : Nat) (done : List Token) (before : Option Char)
    (rest : List Char) : ∃ before', readTokens (n + s.length) done before (s.flatMap escapeChar ++ rest) =
      readTokens n ((s.map escapeToken).reverse ++ done) before' rest := by
  induction s generalizing done before with
  | nil => exact ⟨before, rfl⟩
  | cons c s ih =>
    obtain ⟨before', hc⟩ := readTokens_escapeChar c (n + s.length) done before (s.flatMap escapeChar ++ rest)
    obtain ⟨before'', hs⟩ := ih (escapeToken c :: done) before'
    refine ⟨before'', ?_⟩
    rw [List.flatMap_cons, List.append_assoc, List.length_cons, ← Nat.add_assoc, hc, hs]
    simp

theorem length_le_flatMap_escapeChar (s : List Char) : s.length ≤ (s.flatMap escapeChar).length := by
  induction s with
  | nil => exact Nat.le_refl _
  | cons c s ih =>
    have hc : 1 ≤ (escapeChar c).length := by
      unfold escapeChar
      split <;> simp
    rw [List.flatMap_cons, List.length_append, List.length_cons]
    omega

theorem ofText?_escape (cs : List Char) : ofText? (String.ofList (cs.flatMap escapeChar)) =
    some ⟨cs.map escapeToken, (cs.map escapeToken).contains .anyComponents⟩ := by
  have hlength := length_le_flatMap_escapeChar cs
  obtain ⟨n, hn⟩ := Nat.exists_eq_add_of_le hlength
  obtain ⟨before, h⟩ := readTokens_escape cs (n + 1) [] none []
  rw [List.append_nil, List.append_nil, readTokens, List.reverse_reverse] at h
  rw [ofText?, String.toList_ofList, hn, Nat.add_assoc, Nat.add_comm, h]
  rfl

theorem accepts_escapeToken {c d : Char} : accepts d (escapeToken c) ↔ d = c := by
  unfold escapeToken
  split
  · rename_i hc
    have hslash : c ≠ '/' := by
      rintro rfl
      revert hc
      decide
    constructor
    · intro h
      obtain ⟨-, hle, hge⟩ : d ≠ '/' ∧ c ≤ d ∧ d ≤ c := by simpa [accepts, inRanges] using h
      exact Char.le_antisymm hge hle
    · rintro rfl
      simp [accepts, inRanges, hslash]
  · simp [accepts]

theorem matchesTokens_escapeToken {c : Char} {ts : List Token} {s : List Char} :
    matchesTokens (escapeToken c :: ts) s ↔ ∃ r, s = c :: r ∧ matchesTokens ts r := by
  have hone : ∀ t : Token, t ≠ .anySequence → t ≠ .anyComponents →
      (matchesTokens (t :: ts) s ↔ ∃ d r, s = d :: r ∧ accepts d t ∧ matchesTokens ts r) := by
    intro t hsequence hcomponents
    cases s with
    | nil => cases t <;> simp_all [matchesTokens]
    | cons d r => cases t <;> simp_all [matchesTokens]
  have hkind : escapeToken c ≠ .anySequence ∧ escapeToken c ≠ .anyComponents := by
    unfold escapeToken
    split <;> exact ⟨nofun, nofun⟩
  rw [hone _ hkind.1 hkind.2]
  simp [accepts_escapeToken]

theorem matchesTokens_escape_append {cs : List Char} {ts : List Token} {s : List Char} :
    matchesTokens (cs.map escapeToken ++ ts) s ↔ ∃ r, s = cs ++ r ∧ matchesTokens ts r := by
  induction cs generalizing s with
  | nil => simp
  | cons c cs ih =>
    rw [List.map_cons, List.cons_append, matchesTokens_escapeToken]
    constructor
    · rintro ⟨r, rfl, hr⟩
      obtain ⟨r', rfl, hr'⟩ := ih.mp hr
      exact ⟨r', rfl, hr'⟩
    · rintro ⟨r, rfl, hr⟩
      exact ⟨cs ++ r, rfl, ih.mpr ⟨r, rfl, hr⟩⟩

/-- An escaped text matches just itself. -/
theorem matchesTokens_escape {cs s : List Char} : matchesTokens (cs.map escapeToken) s ↔ s = cs := by
  have h := @matchesTokens_escape_append cs [] s
  rw [List.append_nil] at h
  simpa [matchesTokens] using h

/-! ## Readable texts -/

/-- A class is no character, and something stands before what is left. -/
theorem of_readClass? {cs rest : List Char} {t : Token} (h : readClass? cs = some (t, rest)) :
    (∀ c, t ≠ .char c) ∧ ∃ c, (c :: rest) <:+ cs := by
  have hdrop : ∀ {r : List Char} {c : Char}, r.dropWhile (· ≠ ']') = c :: rest → (c :: rest) <:+ r :=
    fun hr => hr ▸ List.dropWhile_suffix _
  unfold readClass? at h
  split at h
  · split at h
    · rename_i c _ hr
      obtain ⟨rfl, rfl⟩ := Prod.mk.inj (Option.some.inj h)
      exact ⟨nofun, c, ((hdrop hr).trans (List.suffix_cons _ _)).trans (List.suffix_cons _ _)⟩
    · cases h
  · cases h
  · split at h
    · rename_i c _ hr
      obtain ⟨rfl, rfl⟩ := Prod.mk.inj (Option.some.inj h)
      exact ⟨nofun, c, (hdrop hr).trans (List.suffix_cons _ _)⟩
    · cases h
  · cases h

theorem length_of_readClass? {cs rest : List Char} {t : Token} (h : readClass? cs = some (t, rest)) :
    rest.length < cs.length := by
  obtain ⟨-, c, hsuffix⟩ := of_readClass? h
  exact hsuffix.length_le

theorem char_mem_addComponents {done : List Token} {c : Char} (h : .char c ∈ addComponents done) :
    .char c ∈ done := by
  unfold addComponents at h
  split at h
  · exact h
  · simpa using h

/-- Each character of a pattern stands in its text. -/
theorem char_mem_of_readTokens {n : Nat} {done tokens : List Token} {before : Option Char} {cs : List Char}
    {a : Char} (h : readTokens n done before cs = some tokens) (ha : .char a ∈ tokens) :
    .char a ∈ done ∨ a ∈ cs := by
  fun_induction readTokens n done before cs with
  | case1 done before cs =>
    obtain rfl := Option.some.inj h
    exact .inl (List.mem_reverse.mp ha)
  | case2 n done before =>
    obtain rfl := Option.some.inj h
    exact .inl (List.mem_reverse.mp ha)
  | case3 n done before r ih =>
    rcases ih h with ha | ha
    · exact .inl (by simpa using ha)
    · exact .inr (List.mem_cons_of_mem _ ha)
  | case4 n done before r t rest hclass ih =>
    obtain ⟨hchar, c, hsuffix⟩ := of_readClass? hclass
    rcases ih h with ha | ha
    · exact .inl ((List.mem_cons.mp ha).resolve_left (Ne.symm (hchar a)))
    · exact .inr (List.mem_cons_of_mem _ (hsuffix.subset (List.mem_cons_of_mem c ha)))
  | case7 n done before hstart _ =>
    obtain rfl := Option.some.inj h
    exact .inl (char_mem_addComponents (List.mem_reverse.mp ha))
  | case8 n done before hstart rest _ ih =>
    rcases ih h with ha | ha
    · exact .inl (char_mem_addComponents ha)
    · exact .inr (by simp [ha])
  | case11 n done before r _ _ ih =>
    rcases ih h with ha | ha
    · exact .inl (by simpa using ha)
    · exact .inr (List.mem_cons_of_mem _ ha)
  | case12 n done before r c _ _ _ ih =>
    rcases ih h with ha | ha
    · rcases List.mem_cons.mp ha with hac | ha
      · exact .inr (List.mem_cons.mpr (.inl (Token.char.inj hac)))
      · exact .inl ha
    · exact .inr (List.mem_cons_of_mem _ ha)
  | _ => cases h

theorem char_mem_of_ofText? {s : String} {p : Pattern} (h : ofText? s = some p) {a : Char}
    (ha : .char a ∈ p.tokens) : a ∈ s.toList := by
  obtain ⟨tokens, htokens, rfl⟩ := Option.map_eq_some_iff.mp h
  exact (char_mem_of_readTokens htokens ha).resolve_left List.not_mem_nil

theorem isSome_readTokens {n m : Nat} {done done' : List Token} {before before' : Option Char} {cs : List Char}
    (hn : cs.length < n) (hm : cs.length < m) (hbefore : before.all (· = '/') = before'.all (· = '/')) :
    (readTokens n done before cs).isSome = (readTokens m done' before' cs).isSome := by
  fun_induction readTokens n done before cs generalizing m done' before' <;>
    obtain ⟨m, rfl⟩ := Nat.exists_eq_add_one_of_ne_zero (Nat.ne_zero_of_lt hm)
  case case1 => cases hn
  case case2 => simp [readTokens]
  case case3 ih =>
    simp only [List.length_cons] at hn hm
    simp only [readTokens]
    exact ih (by omega) (by omega) rfl
  case case4 hclass ih =>
    have hrest := length_of_readClass? hclass
    simp only [List.length_cons] at hn hm
    simp only [readTokens, hclass]
    exact ih (by omega) (by omega) rfl
  case case5 hclass => simp [readTokens, hclass]
  case case6 => simp [readTokens]
  case case7 hstart _ => simp [readTokens, ← hbefore, hstart]
  case case8 hstart _ _ ih =>
    simp only [List.length_cons] at hn hm
    simp only [readTokens, ← hbefore, hstart, if_true]
    exact ih (by omega) (by omega) rfl
  case case9 hstar _ hnil hslash =>
    rw [readTokens]
    · split <;> rfl
    · exact hstar
    · exact hnil
    · exact hslash
  case case10 hstar hstart =>
    simp only [readTokens, ← hbefore, hstart]
    split <;> simp_all
  case case11 hdouble hsingle ih =>
    simp only [List.length_cons] at hn hm
    rw [readTokens]
    · exact ih (by omega) (by omega) rfl
    · exact hdouble
    · exact hsingle
  case case12 h₁ h₂ h₃ ih =>
    simp only [List.length_cons] at hn hm
    rw [readTokens_char h₁ h₂ h₃]
    exact ih (by omega) (by omega) rfl

/-- An escaped directory before a text makes no difference to whether the text can be read. -/
theorem isSome_ofText?_below (base : List Char) (s : String) :
    (ofText? (String.ofList (base.flatMap escapeChar) ++ "/" ++ s)).isSome = (ofText? s).isSome := by
  have hlist : (String.ofList (base.flatMap escapeChar) ++ "/" ++ s).toList =
      base.flatMap escapeChar ++ '/' :: s.toList := by simp
  have hlength := length_le_flatMap_escapeChar base
  obtain ⟨n, hn⟩ : ∃ n, (base.flatMap escapeChar ++ '/' :: s.toList).length + 1 = n + 1 + base.length := by
    refine ⟨(base.flatMap escapeChar ++ '/' :: s.toList).length - base.length, ?_⟩
    rw [List.length_append]
    omega
  have hfuel : s.toList.length < n := by
    rw [List.length_append, List.length_cons] at hn
    omega
  obtain ⟨before, h⟩ := readTokens_escape base (n + 1) [] none ('/' :: s.toList)
  rw [ofText?, ofText?, Option.isSome_map, Option.isSome_map, hlist, hn, h,
    readTokens_char (by decide) (by decide) (by decide)]
  exact isSome_readTokens hfuel (Nat.lt_succ_self _) rfl

end Pattern

/-! ## Parts -/

theorem mapM_eq_some {α β : Type} {f : α → Option β} {l : List α} {l' : List β} :
    l.mapM f = some l' ↔ List.Forall₂ (fun a b => f a = some b) l l' := by
  induction l generalizing l' with
  | nil => simp [List.mapM_nil, eq_comm]
  | cons a l ih => cases l' <;> simp [List.mapM_cons, Option.bind_eq_some_iff, ih]

theorem isSome_mapM {α β : Type} {f : α → Option β} {l : List α} :
    (l.mapM f).isSome ↔ ∀ a ∈ l, (f a).isSome := by
  induction l with
  | nil => simp
  | cons a l ih =>
    rw [List.forall_mem_cons, ← ih, List.mapM_cons]
    cases f a with
    | none => simp
    | some b => cases l.mapM f <;> simp

theorem exists_of_mem_mapM {α β : Type} {f : α → Option β} {l : List α} {l' : List β} (h : l.mapM f = some l')
    {b : β} (hb : b ∈ l') : ∃ a ∈ l, f a = some b := by
  rw [mapM_eq_some] at h
  induction h with
  | nil => cases hb
  | cons hab _ ih =>
    rcases List.mem_cons.mp hb with rfl | hb
    · exact ⟨_, List.mem_cons_self, hab⟩
    · obtain ⟨a, ha, hab⟩ := ih hb
      exact ⟨a, List.mem_cons_of_mem _ ha, hab⟩

theorem partsOf_append (a b : List Char) :
    partsOf (a ++ '/' :: b) = FilePath.splitOn '/' a ++ partsOf b := by
  have hb : FilePath.splitOn '/' b ≠ [] := FileTree.splitOn_ne_nil '/' b
  unfold partsOf
  dsimp only
  rw [FilePath.splitOn_append, List.getLast?_append_of_ne_nil _ hb, List.dropLast_append_of_ne_nil hb]
  split <;> rfl

theorem splitOn_append_of_not_mem {sep : Char} {a b part : List Char} {parts : List (List Char)} (ha : sep ∉ a)
    (hb : FilePath.splitOn sep b = part :: parts) : FilePath.splitOn sep (a ++ b) = (a ++ part) :: parts := by
  induction a with
  | nil => exact hb
  | cons c a ih =>
    rw [List.mem_cons, not_or] at ha
    rw [List.cons_append, FilePath.splitOn, if_neg (Ne.symm ha.1), ih ha.2]
    rfl

/-- Escaping a text escapes its parts. -/
theorem splitOn_flatMap_escapeChar (cs : List Char) :
    FilePath.splitOn '/' (cs.flatMap Pattern.escapeChar) =
      (FilePath.splitOn '/' cs).map (List.flatMap Pattern.escapeChar) := by
  induction cs with
  | nil => rfl
  | cons c cs ih =>
    rw [List.flatMap_cons]
    by_cases hc : c = '/'
    · subst hc
      simpa [Pattern.escapeChar, FilePath.splitOn] using ih
    · have hsep : '/' ∉ Pattern.escapeChar c := by
        unfold Pattern.escapeChar
        split <;> simp [Ne.symm hc]
      rw [FilePath.splitOn, if_neg hc]
      cases hparts : FilePath.splitOn '/' cs with
      | nil => exact absurd hparts (FileTree.splitOn_ne_nil '/' cs)
      | cons part parts =>
        rw [hparts, List.map_cons] at ih
        rw [splitOn_append_of_not_mem hsep ih]
        simp

/-- Separators at the end of a text can be taken away before it is escaped or after. -/
theorem rdropWhile_flatMap_escapeChar (cs : List Char) :
    (cs.flatMap Pattern.escapeChar).rdropWhile (· = '/') =
      (cs.rdropWhile (· = '/')).flatMap Pattern.escapeChar := by
  induction cs using List.reverseRecOn with
  | nil => simp
  | append_singleton cs c ih =>
    rw [List.flatMap_append, List.flatMap_singleton]
    by_cases hc : c = '/'
    · subst hc
      rw [List.rdropWhile_concat_pos _ _ _ (by simp), ← ih]
      exact List.rdropWhile_concat_pos _ _ _ (by simp)
    · rw [List.rdropWhile_concat_neg _ _ _ (by simpa using hc), List.flatMap_append, List.flatMap_singleton,
        List.rdropWhile_eq_self_iff]
      intro hne
      unfold Pattern.escapeChar
      split <;> simp [hc]

/-! ## Patterns below a directory -/

theorem PathPattern.ofText?_eq_some {s : String} {g : PathPattern} : PathPattern.ofText? s = some g ↔
    (Pattern.ofText? s).isSome ∧
      List.Forall₂ (fun part p => Pattern.ofText? (String.ofList part) = some p) (partsOf (s.toList.drop 1))
        g.parts ∧
      decide (s.toList.getLast? = some '/') = g.dirOnly := by
  rw [← mapM_eq_some, Option.isSome_iff_exists]
  obtain ⟨parts, dirOnly⟩ := g
  simp [PathPattern.ofText?, Option.bind_eq_some_iff]

/-- A text that can be used as a pattern for paths: it is a glob, and so is each of its parts. -/
structure IsUsable (s : String) : Prop where
  whole : (Pattern.ofText? s).isSome
  parts : ∀ part ∈ partsOf s.toList, (Pattern.ofText? (String.ofList part)).isSome

def patternBelow? (base : FilePath) (s : String) : Option PathPattern :=
  let escaped := (Pattern.escape base.text).toList.reverse.dropWhile (· = '/')
  PathPattern.ofText? (String.ofList escaped.reverse ++ "/" ++ s)

def partsBelow (base : FilePath) : List (List Char) :=
  match base.text.toList.rdropWhile (· = '/') with
  | [] => []
  | _ :: cs => FilePath.splitOn '/' cs

section
variable {base : FilePath} {s : String} {g : PathPattern}

theorem patternBelow?_eq (base : FilePath) (s : String) : patternBelow? base s = PathPattern.ofText?
    (String.ofList ((base.text.toList.rdropWhile (· = '/')).flatMap Pattern.escapeChar) ++ "/" ++ s) := by
  rw [← rdropWhile_flatMap_escapeChar, ← Pattern.toList_escape]
  rfl

theorem partsOf_below (hbase : base.isAbsolute) (s : List Char) :
    partsOf (((base.text.toList.rdropWhile (· = '/')).flatMap Pattern.escapeChar ++ '/' :: s).drop 1) =
      (partsBelow base).map (List.flatMap Pattern.escapeChar) ++ partsOf s := by
  unfold partsBelow
  split
  · rename_i hnil
    rw [hnil]
    rfl
  · rename_i c cs hcons
    have hc : c = '/' := by
      have hprefix := List.rdropWhile_prefix (p := (· = '/')) (l := base.text.toList)
      obtain ⟨rest, hrest⟩ := hprefix
      rw [hcons] at hrest
      rw [FilePath.isAbsolute, ← hrest] at hbase
      simpa using hbase
    subst hc
    rw [hcons, List.flatMap_cons, List.append_assoc, ← splitOn_flatMap_escapeChar, ← partsOf_append]
    rfl

theorem patternBelow?_eq_some (hbase : base.isAbsolute) : patternBelow? base s = some g ↔
    (Pattern.ofText? s).isSome ∧
      List.Forall₂ (fun part p => Pattern.ofText? (String.ofList part) = some p)
        ((partsBelow base).map (List.flatMap Pattern.escapeChar) ++ partsOf s.toList) g.parts ∧
      decide (('/' :: s.toList).getLast? = some '/') = g.dirOnly := by
  have hlist : ∀ cs : List Char, (String.ofList cs ++ "/" ++ s).toList = cs ++ '/' :: s.toList := by simp
  rw [patternBelow?_eq, PathPattern.ofText?_eq_some, Pattern.isSome_ofText?_below, hlist, partsOf_below hbase,
    List.getLast?_append_of_ne_nil _ (by simp)]

theorem isSome_patternBelow? (hbase : base.isAbsolute) : (patternBelow? base s).isSome ↔ IsUsable s := by
  have hbelow : ∀ part ∈ (partsBelow base).map (List.flatMap Pattern.escapeChar),
      (Pattern.ofText? (String.ofList part)).isSome := by
    intro part hpart
    obtain ⟨cs, -, rfl⟩ := List.mem_map.mp hpart
    rw [Pattern.ofText?_escape]
    rfl
  constructor
  · intro h
    obtain ⟨g, hg⟩ := Option.isSome_iff_exists.mp h
    obtain ⟨hwhole, hparts, -⟩ := (patternBelow?_eq_some hbase).mp hg
    refine ⟨hwhole, fun part hpart => ?_⟩
    exact isSome_mapM.mp (Option.isSome_of_eq_some (mapM_eq_some.mpr hparts)) part (List.mem_append_right _ hpart)
  · intro h
    have hall := List.forall_mem_append.mpr ⟨hbelow, h.parts⟩
    obtain ⟨parts, hparts⟩ := Option.isSome_iff_exists.mp (isSome_mapM.mpr hall)
    have hg := (patternBelow?_eq_some (g := ⟨parts, _⟩) hbase).mpr ⟨h.whole, mapM_eq_some.mp hparts, rfl⟩
    exact Option.isSome_of_eq_some hg

end

end RuleLint.Glob
