import Mathlib.Data.List.Induction
import RuleLint.Proofs.FileTree.Write

/-!
# Paths to entries

A path that goes on is followed on from where it led (`follow_append`). So a path to a directory that goes on with
the name of an entry leads to the entry (`canonicalNames_join`).
-/

namespace RuleLint

/-! ## Parts -/

namespace FilePath

theorem splitOn_append (sep : Char) (a b : List Char) :
    splitOn sep (a ++ sep :: b) = splitOn sep a ++ splitOn sep b := by
  induction a with
  | nil => simp [splitOn]
  | cons c a ih =>
    by_cases hc : c = sep
    · simp [splitOn, hc, ih]
    · cases h : splitOn sep a with
      | nil => exact absurd h (FileTree.splitOn_ne_nil sep a)
      | cons part parts => simp [splitOn, hc, ih, h]

theorem splitOn_of_not_mem {sep : Char} {cs : List Char} (h : sep ∉ cs) : splitOn sep cs = [cs] := by
  induction cs with
  | nil => rfl
  | cons c cs ih =>
    rw [List.mem_cons, not_or] at h
    rw [splitOn, if_neg (Ne.symm h.1), ih h.2]

theorem isAbsolute_of_not_mem {s : String} (h : '/' ∉ s.toList) : isAbsolute ⟨s⟩ = false :=
  Bool.eq_false_iff.mpr fun habsolute => h (List.mem_of_head? (beq_iff_eq.mp habsolute))

theorem splitOn_text_append (a : String) {b : String} (hb : '/' ∉ b.toList) :
    splitOn '/' (a ++ "/" ++ b).toList = splitOn '/' a.toList ++ [b.toList] := by
  rw [← splitOn_of_not_mem hb, ← splitOn_append]
  simp

end FilePath

/-! ## Names -/

structure IsName (name : String) : Prop where
  nonempty : name ≠ ""
  separator : '/' ∉ name.toList
  here : name ≠ "."
  parent : name ≠ ".."

instance (name : String) : Decidable (IsName name) :=
  decidable_of_iff (name ≠ "" ∧ '/' ∉ name.toList ∧ name ≠ "." ∧ name ≠ "..")
    ⟨fun ⟨h₁, h₂, h₃, h₄⟩ => ⟨h₁, h₂, h₃, h₄⟩, fun h => ⟨h.nonempty, h.separator, h.here, h.parent⟩⟩

theorem IsName.toList_ne {name : String} (h : IsName name) :
    name.toList ≠ [] ∧ name.toList ≠ ['.'] ∧ name.toList ≠ ['.', '.'] :=
  ⟨fun heq => h.nonempty (String.toList_inj.mp heq), fun heq => h.here (String.toList_inj.mp heq),
    fun heq => h.parent (String.toList_inj.mp heq)⟩

namespace Node

/-- The entries of each directory have names, no two of them the same. -/
def WellNamed (n : Node) : Prop :=
  ∀ names entries, n.at? names = some (.dir entries) →
    (entries.map (·.1)).Nodup ∧ ∀ e ∈ entries, IsName e.1

theorem mem_of_child? {entries : List (String × Node)} {name : String} {n : Node}
    (h : child? entries name = some n) : (name, n) ∈ entries := by
  obtain ⟨e, he, rfl⟩ := Option.map_eq_some_iff.mp h
  obtain rfl : e.1 = name := by simpa using List.find?_some he
  exact List.mem_of_find?_eq_some he

theorem child?_of_mem {entries : List (String × Node)} (hnodup : (entries.map (·.1)).Nodup) {e : String × Node}
    (he : e ∈ entries) : child? entries e.1 = some e.2 := by
  induction entries with
  | nil => cases he
  | cons a entries ih =>
    obtain ⟨ha, hnodup⟩ := List.nodup_cons.mp hnodup
    unfold child? at ih ⊢
    rcases List.mem_cons.mp he with rfl | he
    · simp
    · have hne : a.1 ≠ e.1 := by
        rintro heq
        exact ha (List.mem_map.mpr ⟨e, he, heq.symm⟩)
      rw [List.find?_cons_of_neg (by simpa using hne)]
      exact ih hnodup he

theorem isName_of_at? {n m : Node} (hwell : n.WellNamed) {names : List String} (h : n.at? names = some m) :
    ∀ name ∈ names, IsName name := by
  induction names using List.reverseRecOn generalizing m with
  | nil => exact nofun
  | append_singleton before name ih =>
    obtain ⟨entries, hdir⟩ := exists_dir_of_at?_concat h
    obtain ⟨-, hnames⟩ := hwell before entries hdir
    rw [at?_concat hdir] at h
    exact List.forall_mem_append.mpr ⟨ih hdir, List.forall_mem_singleton.mpr (hnames _ (mem_of_child? h))⟩

theorem wellNamed_file (c : Content) : (file c).WellNamed := by
  intro names entries h
  cases names with
  | nil => cases h
  | cons name names => cases h

theorem wellNamed_dir {entries : List (String × Node)} (hnodup : (entries.map (·.1)).Nodup)
    (hnames : ∀ e ∈ entries, IsName e.1) (h : ∀ e ∈ entries, e.2.WellNamed) : (dir entries).WellNamed := by
  intro names below hbelow
  cases names with
  | nil =>
    obtain rfl := dir.inj (Option.some.inj hbelow)
    exact ⟨hnodup, hnames⟩
  | cons name names =>
    rw [at?_cons, Option.bind_eq_some_iff] at hbelow
    obtain ⟨n, hn, hbelow⟩ := hbelow
    exact h _ (mem_of_child? hn) names below hbelow

end Node

namespace FileTree

section
variable {root : Node}

/-- A path that leads somewhere can go on from there. If it does, a link is followed there. -/
theorem follow_append {links : Nat} {at_ names : List String} {a : List Step}
    (h : follow root true links at_ a = .ok (.taken names)) :
    ∃ links', ∀ (final : Bool) b, final ∨ b ≠ [] →
      follow root final links at_ (a ++ b) = follow root final links' names b := by
  fun_induction follow root true links at_ a with
  | case1 links at_ =>
    obtain rfl := Place.taken.inj (Except.ok.inj h)
    exact ⟨links, fun final b _ => rfl⟩
  | case2 links at_ r ih =>
    obtain ⟨links', hb⟩ := ih h
    exact ⟨links', fun final b hend => by rw [List.cons_append, follow, hb final b hend]⟩
  | case3 links at_ r entries hdir hne ih => exact absurd rfl hne
  | case4 links at_ r entries hdir hne ih =>
    obtain ⟨links', hb⟩ := ih h
    exact ⟨links', fun final b hend => by simp only [List.cons_append, follow, hdir, hb final b hend]⟩
  | case5 links at_ r entries hdir hne ih =>
    obtain ⟨links', hb⟩ := ih h
    exact ⟨links', fun final b hend => by simp only [List.cons_append, follow, hdir, hb final b hend]⟩
  | case6 links at_ r entries hdir name hname hempty hne => cases h
  | case7 links at_ r entries hdir name hname hempty hne => cases h
  | case8 links at_ r entries hdir name target hname hfinal hne => simp at hfinal
  | case9 at_ r entries hdir name target hname hfinal hne => cases h
  | case10 at_ r entries hdir name target hname hfinal links hne ih =>
    obtain ⟨links', hb⟩ := ih h
    refine ⟨links', fun final b hend => ?_⟩
    have hfollowed : ¬ ((r ++ b).isEmpty && !final) := by
      rcases hend with rfl | hend <;> simp [*]
    rw [← hb final b hend, List.append_assoc]
    simp [follow, hdir, hname, hfollowed]
  | case11 links at_ r entries hdir name n hlink hname hne ih =>
    obtain ⟨links', hb⟩ := ih h
    refine ⟨links', fun final b hend => ?_⟩
    rw [← hb final b hend]
    simp [follow, hdir, hname]
  | case12 links at_ step r hne hdir => cases h

/-- What a path that goes on leads through is there. -/
theorem exists_taken_of_follow_append {links : Nat} {at_ : List String} {a b : List Step} {place : Place}
    (hb : b ≠ []) (h : follow root true links at_ (a ++ b) = .ok place) :
    ∃ names, follow root true links at_ a = .ok (.taken names) := by
  fun_induction follow root true links at_ a with
  | case1 links at_ => exact ⟨at_, rfl⟩
  | case2 links at_ r ih =>
    rw [List.cons_append, follow] at h
    exact ih h
  | case3 links at_ r entries hdir hne ih => exact absurd rfl hne
  | case4 links at_ r entries hdir hne ih =>
    simp only [List.cons_append, follow, hdir] at h
    exact ih h
  | case5 links at_ r entries hdir hne ih =>
    simp only [List.cons_append, follow, hdir] at h
    exact ih h
  | case6 links at_ r entries hdir name hname hempty hne =>
    obtain rfl := List.isEmpty_iff.mp hempty
    simp [follow, hdir, hname, hb] at h
  | case7 links at_ r entries hdir name hname hempty hne =>
    rw [List.isEmpty_iff] at hempty
    simp [follow, hdir, hname, hempty] at h
  | case8 links at_ r entries hdir name target hname hfinal hne => simp at hfinal
  | case9 at_ r entries hdir name target hname hfinal hne =>
    simp [follow, hdir, hname] at h
  | case10 at_ r entries hdir name target hname hfinal links hne ih =>
    refine ih ?_
    rw [List.append_assoc]
    simpa [follow, hdir, hname] using h
  | case11 links at_ r entries hdir name n hlink hname hne ih =>
    refine ih ?_
    simpa [follow, hdir, hname] using h
  | case12 links at_ step r hne hdir =>
    obtain ⟨entries, hentries⟩ := exists_dir_of_follow hne h
    exact absurd hentries (hdir entries)

/-- Where a path to a directory leads does not depend on a separator at its end. -/
theorem follow_stay {links : Nat} {at_ names : List String} {a : List Step}
    (h : follow root true links at_ (a ++ [.stay]) = .ok (.taken names)) :
    follow root true links at_ a = .ok (.taken names) := by
  obtain ⟨before, hbefore⟩ := exists_taken_of_follow_append (by simp) h
  obtain ⟨links', hb⟩ := follow_append hbefore
  rw [hb true _ (.inl rfl)] at h
  obtain ⟨entries, hdir⟩ := exists_dir_of_follow (by simp) h
  simp only [follow, hdir, Except.ok.injEq] at h
  rw [hbefore, h]

end

/-! ## Joining -/

def stepOf (part : List Char) : Step :=
  if part = [] ∨ part = ['.'] then .stay
  else if part = ['.', '.'] then .up
  else .down (String.ofList part)

theorem steps_append (a b : String) (hb : '/' ∉ b.toList) :
    steps ⟨a ++ "/" ++ b⟩ = steps ⟨a⟩ ++ [stepOf b.toList] := by
  unfold steps
  dsimp only
  rw [FilePath.splitOn_text_append a hb]
  cases h : FilePath.splitOn '/' a.toList with
  | nil => exact absurd h (splitOn_ne_nil _ _)
  | cons part parts =>
    cases part with
    | nil => simp [stepOf]
    | cons c part => simp [stepOf]

section
variable {name : String}

theorem stepOf_name (h : IsName name) : stepOf name.toList = .down name := by
  obtain ⟨hnil, hhere, hparent⟩ := h.toList_ne
  rw [stepOf, if_neg (not_or.mpr ⟨hnil, hhere⟩), if_neg hparent, String.ofList_toList]

theorem componentOf_name (h : IsName name) :
    FilePath.componentOf name.toList = some (.name name.toList) := by
  obtain ⟨hnil, hhere, hparent⟩ := h.toList_ne
  unfold FilePath.componentOf
  split
  · exact absurd ‹_› hnil
  · exact absurd ‹_› hhere
  · exact absurd ‹_› hparent
  · rfl

/-- A part joined to a path is its last part. -/
theorem exists_join_eq (h : '/' ∉ name.toList) {dir : FilePath} (hdir : dir.text ≠ "") :
    ∃ a, (dir = ⟨a⟩ ∨ dir = ⟨a ++ "/"⟩) ∧ dir.join ⟨name⟩ = ⟨a ++ "/" ++ name⟩ := by
  unfold FilePath.join
  rw [if_neg (by simp [FilePath.isAbsolute_of_not_mem h])]
  split
  · rename_i hend
    obtain ⟨a, ha⟩ := List.getLast?_eq_some_iff.mp (hend.resolve_left hdir)
    have htext : dir.text = String.ofList a ++ "/" := String.toList_inj.mp (by simpa using ha)
    exact ⟨String.ofList a, .inr (congrArg FilePath.mk htext), by rw [htext]⟩
  · exact ⟨dir.text, .inl rfl, rfl⟩

theorem fileName?_join (h : IsName name) {dir : FilePath} (hdir : dir.text ≠ "") :
    (dir.join ⟨name⟩).fileName? = some name.toList := by
  obtain ⟨a, -, hjoin⟩ := exists_join_eq h.separator hdir
  have hlast : (dir.join ⟨name⟩).components.getLast? = some (.name name.toList) := by
    rw [hjoin]
    unfold FilePath.components
    dsimp only
    rw [FilePath.splitOn_text_append a h.separator, List.filterMap_append]
    have hname : [name.toList].filterMap FilePath.componentOf = [.name name.toList] := by
      simp [componentOf_name h]
    rw [hname]
    split
    · rw [← List.cons_append, List.getLast?_concat]
    · split
      · rw [← List.cons_append, List.getLast?_concat]
      · rw [List.getLast?_concat]
  rw [FilePath.fileName?, hlast]

end

section
variable {t : FileTree} {p dir : FilePath} {names : List String}

theorem canonicalNames_eq_ok : t.canonicalNames p = .ok names ↔ t.locate p true = .ok (.taken names) := by
  unfold canonicalNames
  rw [bind_eq_ok]
  constructor
  · rintro ⟨place, hplace, h⟩
    cases place with
    | taken names =>
      obtain rfl := Except.ok.inj h
      exact hplace
    | vacant dir name => exact absurd h throw_ne_ok
  · exact fun h => ⟨_, h, rfl⟩

theorem entries_eq_ok {entries : List (String × Node)} : t.entries p = .ok entries ↔
    ∃ names, t.canonicalNames p = .ok names ∧ t.root.at? names = some (.dir entries) := by
  unfold FileTree.entries node
  cases hnames : t.canonicalNames p with
  | error e => simp [bind, Except.bind]
  | ok names =>
    cases hn : t.root.at? names with
    | none => simp [bind, Except.bind, throw, throwThe, MonadExceptOf.throw, hn]
    | some n => cases n <;> simp [bind, Except.bind, pure, Except.pure, throw, throwThe, MonadExceptOf.throw, hn]

/-- A part joined to a path is followed from where the path leads. -/
theorem locate_join (hnames : t.canonicalNames dir = .ok names) {part : String} (hpart : '/' ∉ part.toList) :
    ∃ links, ∀ final, t.locate (dir.join ⟨part⟩) final = follow t.root final links names [stepOf part.toList] := by
  obtain ⟨hne, hfollow⟩ := follow_of_locate (canonicalNames_eq_ok.mp hnames)
  obtain ⟨a, ha, hjoin⟩ := exists_join_eq hpart hne
  have hbefore : follow t.root true linkLimit t.current (steps ⟨a⟩) = .ok (.taken names) := by
    rcases ha with rfl | rfl
    · exact hfollow
    · have hsteps := steps_append a "" (by simp)
      rw [String.append_empty] at hsteps
      rw [hsteps] at hfollow
      exact follow_stay hfollow
  obtain ⟨links, hb⟩ := follow_append hbefore
  refine ⟨links, fun final => ?_⟩
  rw [hjoin, locate, if_neg (by simp), steps_append a part hpart, hb final _ (.inr (by simp))]

/-- The path to an entry of a directory leads to the entry. -/
theorem canonicalNames_join (hnames : t.canonicalNames dir = .ok names) {entries : List (String × Node)}
    (hdir : t.root.at? names = some (.dir entries)) {name : String} (hname : IsName name) {n : Node}
    (hchild : Node.child? entries name = some n) (hlink : ∀ target, n ≠ .link target) :
    t.canonicalNames (dir.join ⟨name⟩) = .ok (names ++ [name]) := by
  obtain ⟨links, hlocate⟩ := locate_join hnames hname.separator
  rw [canonicalNames_eq_ok, hlocate, stepOf_name hname]
  simp [follow, hdir, hchild]

end

end FileTree

end RuleLint
