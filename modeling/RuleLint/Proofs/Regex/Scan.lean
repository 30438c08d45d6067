import Mathlib.Data.List.Pairwise
import RuleLint.Regex.Search

/-!
# Scanning a text

What a program finds in a text are its matches from left to right: no two of them overlap, none is empty at the
end of the one before, and a match is passed over only if it runs into one that was found before it. These three
properties leave one list only (`isScan_iff`).

The search goes on from one place to the next; `ScansFrom` says what has been found from a place on, and each way
to go on has a lemma.
-/

namespace RuleLint.Regex.Program

def Found.stop (f : Found) : Nat := f.start + f.chars.length

/-- A stretch that starts at or before a place is in the way of a match of `n` characters there: it goes on at
the place, or it stops there and the match is empty. -/
def Found.Blocks (f : Found) (i n : Nat) : Prop := f.start ≤ i ∧ (i < f.stop ∨ i = f.stop ∧ n = 0)

def MatchesAt (p : Program) (text : List Char) (i n : Nat) : Prop :=
  ∃ before rest, before ++ rest = text ∧ before.length = i ∧ p.matchAt? before.getLast? rest = some n

def IsMatch (p : Program) (text : List Char) (f : Found) : Prop :=
  ∃ before after, before ++ (f.chars ++ after) = text ∧ before.length = f.start ∧
    p.matchAt? before.getLast? (f.chars ++ after) = some f.chars.length

/-- The matches of a program in a text, the leftmost first, without those that run into an earlier one. -/
structure IsScan (p : Program) (text : List Char) (fs : List Found) : Prop where
  matched : ∀ f ∈ fs, p.IsMatch text f
  apart : fs.Pairwise fun f g => f.start < g.start ∧ ¬ f.Blocks g.start g.chars.length
  complete : ∀ i n, p.MatchesAt text i n → ∃ f ∈ fs, f.Blocks i n

/-! ## One match -/

section
variable {p : Program} {text : List Char} {f g : Found} {i n n' : Nat}

theorem of_run {length : Nat} {best before : Option _} {starts : List Nat}
    (h : p.run length best before starts text = some n) : best = some n ∨ n ≤ length + text.length := by
  induction text generalizing length best before starts with
  | nil =>
    rw [run] at h
    split at h
    · obtain rfl := Option.some.inj h
      exact .inr (Nat.le_add_right ..)
    · exact .inl h
  | cons c text ih =>
    rw [run] at h
    -- an attempt that accepts here has passed `length` characters
    have hbest : ∀ accepts : Bool, (if accepts then some length else best) = some n →
        best = some n ∨ n ≤ length + (c :: text).length := by
      intro accepts haccepts
      cases accepts with
      | false => exact .inl haccepts
      | true =>
        obtain rfl := Option.some.inj haccepts
        exact .inr (Nat.le_add_right ..)
    dsimp only at h
    split at h
    · exact hbest _ h
    · rcases ih h with h | h
      · exact hbest _ h
      · rw [List.length_cons]
        exact .inr (by omega)

theorem length_of_matchAt? {before : Option Char} (h : p.matchAt? before text = some n) :
    n ≤ text.length := by
  rcases of_run h with h | h
  · cases h
  · rwa [Nat.zero_add] at h

theorem matchesAt_iff {before rest : List Char} (htext : before ++ rest = text)
    (hplace : before.length = i) : p.MatchesAt text i n ↔ p.matchAt? before.getLast? rest = some n := by
  refine ⟨?_, fun h => ⟨before, rest, htext, hplace, h⟩⟩
  rintro ⟨before', rest', htext', hplace', h⟩
  obtain ⟨rfl, rfl⟩ := List.append_inj (htext.trans htext'.symm) (hplace.trans hplace'.symm)
  exact h

theorem MatchesAt.unique (h : p.MatchesAt text i n) (h' : p.MatchesAt text i n') : n = n' := by
  obtain ⟨before, rest, htext, hplace, hn⟩ := h
  exact Option.some.inj (hn.symm.trans ((matchesAt_iff htext hplace).mp h'))

theorem MatchesAt.le_length (h : p.MatchesAt text i n) : i + n ≤ text.length := by
  obtain ⟨before, rest, rfl, rfl, hn⟩ := h
  rw [List.length_append]
  exact Nat.add_le_add_left (length_of_matchAt? hn) _

theorem IsMatch.matchesAt (h : p.IsMatch text f) : p.MatchesAt text f.start f.chars.length := by
  obtain ⟨before, after, htext, hstart, hmatch⟩ := h
  exact ⟨before, _, htext, hstart, hmatch⟩

/-- At one place there is one match. -/
theorem IsMatch.unique (h : p.IsMatch text f) (h' : p.IsMatch text g) (hstart : f.start = g.start) :
    f = g := by
  have hlength := (hstart ▸ h.matchesAt).unique h'.matchesAt
  obtain ⟨before, after, htext, hbefore, -⟩ := h
  obtain ⟨before', after', htext', hbefore', -⟩ := h'
  obtain ⟨rfl, hrest⟩ := List.append_inj (htext.trans htext'.symm) (by omega)
  obtain ⟨hchars, -⟩ := List.append_inj hrest hlength
  cases f
  cases g
  simp_all

theorem blocks_self (f : Found) : f.Blocks f.start f.chars.length := by
  refine ⟨Nat.le_refl _, ?_⟩
  unfold Found.stop
  omega

end

/-! ## There is one scan only -/

section
variable {p : Program} {text : List Char} {fs gs : List Found} {f g : Found}

theorem IsScan.not_blocks (h : p.IsScan text fs) (hg : g ∈ fs) (hf : f ∈ fs) (hlt : g.start < f.start) :
    ¬ g.Blocks f.start f.chars.length := by
  have happart := h.apart
  obtain ⟨before, after, rfl⟩ := List.append_of_mem hg
  obtain ⟨-, hrest, hbefore⟩ := List.pairwise_append.mp happart
  rcases List.mem_append.mp hf with hf | hf
  · have := (hbefore f hf g List.mem_cons_self).1
    omega
  · cases hf with
    | head => omega
    | tail _ hf => exact ((List.pairwise_cons.mp hrest).1 f hf).2

/-- A match of one scan is one of another that has the same matches before it. -/
theorem IsScan.mem_of_before (hfs : p.IsScan text fs) (hgs : p.IsScan text gs) (hf : f ∈ fs)
    (hbefore : ∀ g ∈ gs, g.start < f.start → g ∈ fs) : f ∈ gs := by
  have hmatch := hfs.matched f hf
  obtain ⟨g, hg, hblocks⟩ := hgs.complete _ _ hmatch.matchesAt
  rcases Nat.eq_or_lt_of_le hblocks.1 with heq | hlt
  · obtain rfl := (hgs.matched g hg).unique hmatch heq
    exact hg
  · exact absurd hblocks (hfs.not_blocks (hbefore g hg hlt) hf hlt)

theorem IsScan.mem_iff (hfs : p.IsScan text fs) (hgs : p.IsScan text gs) (f : Found) :
    f ∈ fs ↔ f ∈ gs := by
  induction hstart : f.start using Nat.strongRecOn generalizing f with
  | ind i ih =>
    subst hstart
    exact ⟨fun hf => hfs.mem_of_before hgs hf fun g hg hlt => (ih _ hlt g rfl).mpr hg,
      fun hf => hgs.mem_of_before hfs hf fun g hg hlt => (ih _ hlt g rfl).mp hg⟩

theorem IsScan.ascending (h : p.IsScan text fs) : fs.Pairwise fun f g => f.start < g.start :=
  h.apart.imp And.left

theorem IsScan.nodup (h : p.IsScan text fs) : fs.Nodup := by
  refine h.ascending.imp ?_
  rintro f g hlt rfl
  omega

theorem IsScan.unique (hfs : p.IsScan text fs) (hgs : p.IsScan text gs) : fs = gs := by
  have hperm : fs.Perm gs := (List.perm_ext_iff_of_nodup hfs.nodup hgs.nodup).mpr (hfs.mem_iff hgs)
  refine hperm.eq_of_pairwise ?_ hfs.ascending hgs.ascending
  intro f g _ _ hlt hgt
  omega

end

/-! ## The search is a scan -/

/-- The part of a scan from a place on. `atMatchEnd` tells that a match ended there. -/
structure ScansFrom (p : Program) (text : List Char) (place : Nat) (atMatchEnd : Bool) (fs : List Found) :
    Prop where
  matched : ∀ f ∈ fs, p.IsMatch text f
  after : ∀ f ∈ fs, place ≤ f.start ∧ (atMatchEnd → f.chars = [] → place < f.start)
  apart : fs.Pairwise fun f g => f.start < g.start ∧ ¬ f.Blocks g.start g.chars.length
  complete : ∀ i n, place ≤ i → p.MatchesAt text i n →
    (∃ f ∈ fs, f.Blocks i n) ∨ (atMatchEnd ∧ i = place ∧ n = 0)

section
variable {p : Program} {text : List Char} {fs : List Found} {f : Found} {place next : Nat}
  {atMatchEnd more : Bool}

/-- A place is passed that has no match, or an empty one at the end of a match. -/
theorem ScansFrom.pass (h : p.ScansFrom text (place + 1) false fs)
    (hpass : ∀ n, p.MatchesAt text place n → atMatchEnd ∧ n = 0) : p.ScansFrom text place atMatchEnd fs where
  matched := h.matched
  after f hf := by
    have := (h.after f hf).1
    exact ⟨by omega, fun _ _ => by omega⟩
  apart := h.apart
  complete i n hi hmatch := by
    rcases Nat.eq_or_lt_of_le hi with rfl | hlt
    · obtain ⟨hend, hn⟩ := hpass n hmatch
      exact .inr ⟨hend, rfl, hn⟩
    · rcases h.complete i n hlt hmatch with h | ⟨h, -⟩
      · exact .inl h
      · cases h

/-- A match is found, and the rest neither runs into it nor leaves out a match that does not. -/
theorem ScansFrom.cons (h : p.ScansFrom text next more fs) (hmatch : p.IsMatch text f)
    (hnew : atMatchEnd → f.chars ≠ [])
    (hafter : ∀ g ∈ fs, f.start < g.start ∧ ¬ f.Blocks g.start g.chars.length)
    (hcomplete : ∀ i n, f.start ≤ i → p.MatchesAt text i n → f.Blocks i n ∨ ∃ g ∈ fs, g.Blocks i n) :
    p.ScansFrom text f.start atMatchEnd (f :: fs) where
  matched := List.forall_mem_cons.mpr ⟨hmatch, h.matched⟩
  after := by
    refine List.forall_mem_cons.mpr ⟨⟨Nat.le_refl _, fun hend hempty => absurd hempty (hnew hend)⟩, ?_⟩
    intro g hg
    have := (hafter g hg).1
    exact ⟨by omega, fun _ _ => by omega⟩
  apart := List.pairwise_cons.mpr ⟨hafter, h.apart⟩
  complete i n hi hat := by
    rcases hcomplete i n hi hat with hblocks | ⟨g, hg, hblocks⟩
    · exact .inl ⟨f, List.mem_cons_self, hblocks⟩
    · exact .inl ⟨g, List.mem_cons_of_mem _ hg, hblocks⟩

/-- Behind a match that is not empty the search goes on where it stops. -/
theorem ScansFrom.found (h : p.ScansFrom text f.stop true fs) (hmatch : p.IsMatch text f)
    (hchars : f.chars ≠ []) : p.ScansFrom text f.start atMatchEnd (f :: fs) := by
  have hpos := List.length_pos_iff.mpr hchars
  refine h.cons hmatch (fun _ => hchars) ?_ ?_
  · intro g hg
    obtain ⟨hle, hempty⟩ := h.after g hg
    refine ⟨by rw [Found.stop] at hle; omega, ?_⟩
    rintro ⟨-, hlt | ⟨heq, hlength⟩⟩
    · omega
    · have := hempty rfl (List.length_eq_zero_iff.mp hlength)
      omega
  · intro i n hi hat
    by_cases hlt : i < f.stop
    · exact .inl ⟨hi, .inl hlt⟩
    · rcases h.complete i n (by omega) hat with hblocks | ⟨-, heq, hn⟩
      · exact .inr hblocks
      · exact .inl ⟨hi, .inr ⟨heq, hn⟩⟩

/-- Behind an empty match the search goes on at the next place. -/
theorem ScansFrom.foundEmpty (h : p.ScansFrom text (place + 1) false fs)
    (hmatch : p.IsMatch text ⟨place, []⟩) : p.ScansFrom text place false (⟨place, []⟩ :: fs) := by
  refine h.cons hmatch nofun ?_ ?_
  · intro g hg
    have hle := (h.after g hg).1
    refine ⟨hle, ?_⟩
    rintro ⟨-, hstop⟩
    simp only [Found.stop, List.length_nil] at hstop
    omega
  · intro i n hi hat
    rcases Nat.eq_or_lt_of_le hi with rfl | hlt
    · obtain rfl := hat.unique hmatch.matchesAt
      exact .inl (blocks_self _)
    · rcases h.complete i n hlt hat with hblocks | ⟨hend, -⟩
      · exact .inr hblocks
      · cases hend

/-- Behind the end of a text there is no match. -/
theorem scansFrom_end (hplace : text.length < place) : p.ScansFrom text place atMatchEnd [] := by
  refine ⟨nofun, nofun, .nil, ?_⟩
  intro i n hi hat
  have := hat.le_length
  omega

/-- The search from a place on, `before` being what it has passed. -/
theorem scansFrom_matchesFrom {passed : Nat} {last : Option Char} (before rest : List Char)
    (htext : before ++ rest = text) (hpassed : before.length = passed) (hlast : before.getLast? = last) :
    p.ScansFrom text passed atMatchEnd (p.matchesFrom passed last atMatchEnd rest) := by
  fun_induction p.matchesFrom passed last atMatchEnd rest generalizing before with
  | case1 passed last atMatchEnd hfound =>
    obtain ⟨hsome, hend⟩ := Bool.and_eq_true_iff.mp hfound
    obtain ⟨n, hn⟩ := Option.isSome_iff_exists.mp hsome
    obtain rfl := Nat.le_zero.mp (length_of_matchAt? hn)
    obtain rfl : atMatchEnd = false := by simpa using hend
    refine (scansFrom_end ?_).foundEmpty ⟨before, [], htext, hpassed, hlast ▸ hn⟩
    rw [← htext, ← hpassed, List.append_nil]
    exact Nat.lt_succ_self _
  | case2 passed last atMatchEnd hnone =>
    refine (scansFrom_end ?_).pass ?_
    · rw [← htext, ← hpassed, List.append_nil]
      exact Nat.lt_succ_self _
    · intro n hat
      have hn := (matchesAt_iff htext hpassed).mp hat
      rw [hlast] at hn
      exact ⟨by simpa [hn] using hnone, Nat.le_zero.mp (length_of_matchAt? hn)⟩
  | case3 passed last atMatchEnd c rest hnone ih =>
    refine (ih (before ++ [c]) (by simpa using htext) (by simp [hpassed]) (by simp)).pass ?_
    intro n hat
    have hn := (matchesAt_iff htext hpassed).mp hat
    rw [hlast, hnone] at hn
    cases hn
  | case4 passed last c rest hempty found ih =>
    refine (ih (before ++ [c]) (by simpa using htext) (by simp [hpassed]) (by simp)).pass ?_
    intro n hat
    have hn := (matchesAt_iff htext hpassed).mp hat
    rw [hlast, hempty] at hn
    exact ⟨rfl, (Option.some.inj hn).symm⟩
  | case5 passed last atMatchEnd c rest hempty found hend ih =>
    obtain rfl : atMatchEnd = false := by simpa using hend
    exact (ih (before ++ [c]) (by simpa using htext) (by simp [hpassed]) (by simp)).foundEmpty
      ⟨before, c :: rest, htext, hpassed, hlast ▸ hempty⟩
  | case6 passed last atMatchEnd c rest n hmatch found ih =>
    have hsplit : found ++ rest.drop n = c :: rest := by
      rw [List.cons_append, List.take_append_drop]
    have hlength : found.length = n + 1 := by
      have := length_of_matchAt? hmatch
      rw [List.length_cons] at this
      simp [found]
      omega
    have hfound : p.IsMatch text ⟨passed, found⟩ := by
      refine ⟨before, rest.drop n, ?_, hpassed, ?_⟩
      · rw [hsplit, htext]
      · rw [hsplit, hlast, hlength]
        exact hmatch
    have hrest := ih (before ++ found) (by rw [List.append_assoc, hsplit, htext])
      (by rw [List.length_append, hpassed])
      (by simp [found, List.getLast?_append, List.getLast?_cons])
    exact ScansFrom.found hrest hfound (List.cons_ne_nil _ _)

end

theorem isScan_matches (p : Program) (text : List Char) : p.IsScan text (p.matches_ text) := by
  have h : p.ScansFrom text 0 false (p.matches_ text) := scansFrom_matchesFrom [] text rfl rfl rfl
  refine ⟨h.matched, h.apart, ?_⟩
  intro i n hat
  rcases h.complete i n (Nat.zero_le i) hat with hblocks | ⟨hend, -⟩
  · exact hblocks
  · cases hend

/-- What a search finds in a text is its scan. -/
theorem isScan_iff {p : Program} {text : List Char} {fs : List Found} :
    p.IsScan text fs ↔ fs = p.matches_ text := by
  constructor
  · intro h
    exact h.unique (isScan_matches p text)
  · rintro rfl
    exact isScan_matches p text

end RuleLint.Regex.Program
