import RuleLint.Proofs.FilePath.Resolution
import RuleLint.Proofs.Glob.Reading

/-!
# What is inside a directory

The pattern `**/N/**`, its name being escaped, matches a path if and only if `N` is one of its parts before the
last (`Pattern.matchesTokens_inside`).
-/

namespace RuleLint.Glob

open FilePath (splitOn)

/-! ## Parts after a separator -/

theorem splitOn_eq_cons_cons {cs part next : List Char} {more : List (List Char)}
    (h : splitOn '/' cs = part :: next :: more) : ∃ r, cs = part ++ '/' :: r ∧ splitOn '/' r = next :: more := by
  induction cs generalizing part with
  | nil => cases h
  | cons c cs ih =>
    rw [splitOn] at h
    split at h
    · rename_i hc
      obtain ⟨rfl, -⟩ := List.cons.inj h
      exact ⟨cs, by rw [hc, List.nil_append], (List.cons.inj h).2⟩
    · split at h
      · cases h
      · rename_i first rest hparts
        obtain ⟨rfl, rfl⟩ := List.cons.inj h
        obtain ⟨r, rfl, hr⟩ := ih hparts
        exact ⟨r, rfl, hr⟩

namespace Pattern

theorem nil_mem_afterComponents (cs : List Char) : [] ∈ afterComponents cs := by
  induction cs with
  | nil => exact List.mem_singleton_self []
  | cons c cs ih =>
    rw [afterComponents]
    split
    · exact List.mem_cons_of_mem _ ih
    · exact ih

theorem afterComponents_append {part : List Char} (h : '/' ∉ part) (r : List Char) :
    afterComponents (part ++ '/' :: r) = r :: afterComponents r := by
  induction part with
  | nil => simp [afterComponents]
  | cons c part ih =>
    rw [List.mem_cons, not_or] at h
    rw [List.cons_append, afterComponents, if_neg (Ne.symm h.1), ih h.2]

theorem splitOn_of_mem_afterComponents {cs r : List Char} (h : r ∈ afterComponents cs) :
    r = [] ∨ splitOn '/' r <:+ (splitOn '/' cs).tail := by
  induction cs with
  | nil => exact .inl (List.mem_singleton.mp h)
  | cons c cs ih =>
    rw [afterComponents] at h
    rw [splitOn]
    split at h
    · rename_i hc
      rw [if_pos hc, List.tail_cons]
      rcases List.mem_cons.mp h with rfl | h
      · exact .inr (List.suffix_refl _)
      · exact (ih h).imp_right fun hsuffix => hsuffix.trans (List.tail_suffix _)
    · rename_i hc
      rw [if_neg hc]
      refine (ih h).imp_right fun hsuffix => ?_
      cases hparts : splitOn '/' cs with
      | nil => exact absurd hparts (FileTree.splitOn_ne_nil '/' cs)
      | cons part parts =>
        rw [hparts] at hsuffix
        exact hsuffix

theorem exists_mem_afterComponents {cs part next : List Char} {front more : List (List Char)}
    (h : splitOn '/' cs = front ++ part :: next :: more) :
    ∃ r, part ++ '/' :: r ∈ cs :: afterComponents cs := by
  induction front generalizing cs with
  | nil =>
    obtain ⟨r, rfl, -⟩ := splitOn_eq_cons_cons h
    exact ⟨r, List.mem_cons_self⟩
  | cons first front ih =>
    obtain ⟨second, rest, hrest⟩ := List.exists_cons_of_ne_nil
      (show front ++ part :: next :: more ≠ [] by simp)
    rw [List.cons_append, hrest] at h
    obtain ⟨r, rfl, hr⟩ := splitOn_eq_cons_cons h
    have hfirst : '/' ∉ first := FilePath.not_mem_of_mem_splitOn (h ▸ List.mem_cons_self)
    obtain ⟨r', hr'⟩ := ih (hr.trans hrest.symm)
    refine ⟨r', List.mem_cons_of_mem _ ?_⟩
    rwa [afterComponents_append hfirst]

/-! ## The pattern -/

/-- The pattern for what is inside a directory of the name, at any depth. -/
def insideTokens (name : List Char) : List Token :=
  .anyComponents :: (name.map escapeToken ++ [.char '/', .anyComponents])

theorem ofText?_inside (name : List Char) :
    ofText? (String.ofList ('*' :: '*' :: '/' :: (name.flatMap escapeChar ++ ['/', '*', '*']))) =
      some ⟨insideTokens name, true⟩ := by
  have hlength := length_le_flatMap_escapeChar name
  obtain ⟨n, hn⟩ := Nat.exists_eq_add_of_le hlength
  have hfuel : ('*' :: '*' :: '/' :: (name.flatMap escapeChar ++ ['/', '*', '*'])).length + 1 =
      (n + 6 + name.length) + 1 := by
    simp only [List.length_cons, List.length_append, List.length_nil]
    omega
  have hstart : readTokens ((n + 6 + name.length) + 1) [] none
      ('*' :: '*' :: '/' :: (name.flatMap escapeChar ++ ['/', '*', '*'])) =
        readTokens (n + 6 + name.length) [.anyComponents] (some '/')
          (name.flatMap escapeChar ++ ['/', '*', '*']) := rfl
  obtain ⟨before, hname⟩ := readTokens_escape name (n + 6) [.anyComponents] (some '/') ['/', '*', '*']
  have hend : readTokens (n + 6) ((name.map escapeToken).reverse ++ [.anyComponents]) before ['/', '*', '*'] =
      some (insideTokens name) := by
    rw [readTokens_char (by decide) (by decide) (by decide), readTokens]
    simp [addComponents, insideTokens]
  rw [ofText?, String.toList_ofList, hfuel, hstart, hname, hend]
  simp [insideTokens]

theorem matchesTokens_inside {name cs : List Char} (hname : '/' ∉ name) :
    matchesTokens (insideTokens name) cs ↔ ∃ next, [name, next].Sublist (splitOn '/' cs) := by
  have hend : ∀ r, matchesTokens [.char '/', .anyComponents] r ↔ ∃ r', r = '/' :: r' := by
    intro r
    cases r with
    | nil => simp [matchesTokens]
    | cons c r => simp [matchesTokens, accepts, nil_mem_afterComponents]
  have hrest : ∀ r, matchesTokens (name.map escapeToken ++ [.char '/', .anyComponents]) r ↔
      ∃ r', r = name ++ '/' :: r' := by
    intro r
    simp [matchesTokens_escape_append, hend]
  rw [insideTokens, matchesTokens, List.any_eq_true]
  simp only [hrest]
  constructor
  · rintro ⟨r, hr, r', rfl⟩
    have hparts : splitOn '/' (name ++ '/' :: r') = name :: splitOn '/' r' := by
      rw [FilePath.splitOn_append, FilePath.splitOn_of_not_mem hname, List.singleton_append]
    have hsublist : (splitOn '/' (name ++ '/' :: r')).Sublist (splitOn '/' cs) := by
      rcases List.mem_cons.mp hr with rfl | hr
      · exact List.Sublist.refl _
      · have hsuffix := (splitOn_of_mem_afterComponents hr).resolve_left (by simp)
        exact (hsuffix.trans (List.tail_suffix _)).sublist
    obtain ⟨next, more, hnext⟩ := List.exists_cons_of_ne_nil (FileTree.splitOn_ne_nil '/' r')
    rw [hparts, hnext] at hsublist
    exact ⟨next, (((List.nil_sublist more).cons_cons next).cons_cons name).trans hsublist⟩
  · rintro ⟨next, hsublist⟩
    obtain ⟨before, after, hparts, hmem, hnext⟩ := List.cons_sublist_iff.mp hsublist
    obtain ⟨front, rest, rfl⟩ := List.append_of_mem hmem
    obtain ⟨second, more, hsecond⟩ := List.exists_cons_of_ne_nil (show rest ++ after ≠ [] by
      intro hnil
      rw [(List.append_eq_nil_iff.mp hnil).2] at hnext
      cases hnext)
    rw [List.append_assoc, List.cons_append, hsecond] at hparts
    obtain ⟨r, hr⟩ := exists_mem_afterComponents hparts
    exact ⟨_, hr, r, rfl⟩

end Pattern

end RuleLint.Glob
