import RuleLint.Proofs.FilePath.Normal

/-!
# Making directories

A directory is made where a path leads to a name that has no entry (`madeDir_of_makeDir`). Directories on the way are
made one after the other, and those that have been made stay if a later one cannot be made (`makeInTurn`). Where only
the last two can be missing, either both are made that are missing or nothing is (`makeInTurn_join`).
-/

namespace RuleLint

namespace Node

theorem PutAt.keeps {n n' new : Node} {names : List String} (h : PutAt n n' names new) (hnone : n.at? names = none) :
    Keeps n n' := by
  intro others m hm
  have hne : others ≠ names := by
    rintro rfl
    rw [hnone] at hm
    cases hm
  have hother := h.other others hne
  rw [hm, Option.map_some, Option.map_eq_some_iff] at hother
  obtain ⟨m', hm', hkind⟩ := hother
  exact ⟨m', hm', .inl hkind⟩

theorem PutAt.at?_file {n n' new : Node} {names others : List String} (h : PutAt n n' names new)
    (hothers : others ≠ names) {c : Content} (hfile : n.at? others = some (file c)) :
    n'.at? others = some (file c) := by
  have hother := h.other others hothers
  rw [hfile, Option.map_some, Option.map_eq_some_iff] at hother
  obtain ⟨m, hm, hkind⟩ := hother
  cases m with
  | dir _ => cases hkind
  | link _ => cases hkind
  | file _ =>
    cases hkind
    exact hm

theorem Keeps.at?_eq_none {n n' : Node} (h : Keeps n n') {names : List String} (hnone : n'.at? names = none) :
    n.at? names = none := by
  by_contra hsome
  obtain ⟨m, hm⟩ := Option.ne_none_iff_exists'.mp hsome
  obtain ⟨m', hm', -⟩ := h names m hm
  rw [hnone] at hm'
  cases hm'

end Node

namespace FileTree

/-! ## Places -/

section
variable {root : Node} {final : Bool} {links : Nat} {at_ : List String} {todo : List Step}

theorem exists_dir_of_vacant {dir : List String} {name : String}
    (h : follow root final links at_ todo = .ok (.vacant dir name)) :
    ∃ entries, root.at? dir = some (.dir entries) ∧ Node.child? entries name = none := by
  fun_induction follow root final links at_ todo with
  | case6 links at_ r entries hdir name hname hempty hne =>
    obtain ⟨rfl, rfl⟩ := Place.vacant.inj (Except.ok.inj h)
    exact ⟨entries, hdir, hname⟩
  | case2 _ _ _ ih | case4 _ _ _ _ _ _ ih | case5 _ _ _ _ _ _ ih => exact ih h
  | case10 _ _ _ _ _ _ _ _ _ _ ih | case11 _ _ _ _ _ _ _ _ _ _ ih => exact ih h
  | case3 _ _ _ _ _ hne => exact absurd rfl hne
  | case1 | case7 | case8 | case9 | case12 => cases h

/-- A path that leads somewhere when links at its end are followed leads somewhere when they are not. -/
theorem exists_follow_of_final {place : Place} (h : follow root true links at_ todo = .ok place) :
    ∃ place', follow root false links at_ todo = .ok place' := by
  fun_induction follow root true links at_ todo with
  | case1 links at_ => exact ⟨_, by rw [follow]⟩
  | case2 links at_ r ih =>
    rw [follow]
    exact ih h
  | case3 links at_ r entries hdir hne ih => exact absurd rfl hne
  | case4 links at_ r entries hdir hne ih => simpa only [follow, hdir] using ih h
  | case5 links at_ r entries hdir hne ih => simpa only [follow, hdir] using ih h
  | case6 links at_ r entries hdir name hname hempty hne => simp [follow, hdir, hname, hempty]
  | case7 links at_ r entries hdir name hname hempty hne => cases h
  | case8 links at_ r entries hdir name target hname hfinal hne => simp at hfinal
  | case9 at_ r entries hdir name target hname hfinal hne => cases h
  | case10 at_ r entries hdir name target hname hfinal links hne ih =>
    by_cases hempty : r.isEmpty
    · simp [follow, hdir, hname, hempty]
    · simpa [follow, hdir, hname, hempty] using ih h
  | case11 links at_ r entries hdir name n hlink hname hne ih =>
    simpa [follow, hdir, hname] using ih h
  | case12 links at_ step r hne hdir => cases h

/-- An entry of a directory is looked up without following it. -/
theorem follow_down {entries : List (String × Node)} (hdir : root.at? at_ = some (.dir entries)) (links : Nat)
    (name : String) : follow root false links at_ [.down name] =
      .ok (if (Node.child? entries name).isSome then .taken (at_ ++ [name]) else .vacant at_ name) := by
  cases hname : Node.child? entries name with
  | none => simp [follow, hdir, hname]
  | some n => cases n <;> simp [follow, hdir, hname]

end

/-! ## One directory -/

/-- A tree in which a directory has been made: it is empty, a path leads to it, and there is no other difference. -/
structure MadeDir (t t' : FileTree) (p : FilePath) (names : List String) : Prop where
  leads : t'.canonicalNames p = .ok names
  current : t'.current = t.current
  before : t.root.at? names = none
  nodes : Node.PutAt t.root t'.root names .emptyDir

section
variable {t t' t'' : FileTree} {p q : FilePath} {names : List String}

theorem MadeDir.keeps (h : MadeDir t t' p names) : t.root.Keeps t'.root := h.nodes.keeps h.before

/-- A path leads to where it led as long as what it goes through is still there. -/
theorem canonicalNames_keeps (hkeeps : t.root.Keeps t'.root) (hcurrent : t'.current = t.current)
    (h : t.canonicalNames p = .ok names) : t'.canonicalNames p = .ok names := by
  rw [canonicalNames_eq_ok] at h ⊢
  obtain ⟨n, hn, hlink⟩ := isAt_of_locate h
  have hend : IsAt t'.root (.taken (Place.taken names).names) := hkeeps.exists_at? hn hlink
  exact locate_keeps hkeeps hcurrent hend h

theorem makeDir_of_locate (h : t.locate p false = t.locate q false) : t.makeDir p = t.makeDir q := by
  rw [makeDir, makeDir, h]

theorem isDir_of_locate (h : t.locate p true = t.locate q true) : t.isDir p = t.isDir q := by
  rw [isDir, isDir, node, node, canonicalNames, canonicalNames, h]

theorem madeDir_of_makeDir (h : t.makeDir p = .ok t') : ∃ names, MadeDir t t' p names := by
  obtain ⟨place, hlocate, h⟩ := bind_eq_ok.mp h
  cases place with
  | taken names => exact absurd h throw_ne_ok
  | vacant dir name =>
    have hmade : t' = { t with root := t.root.put (dir ++ [name]) .emptyDir } := (Except.ok.inj h).symm
    obtain ⟨-, hfollow⟩ := follow_of_locate hlocate
    obtain ⟨entries, hdir, hname⟩ := exists_dir_of_vacant hfollow
    have hbefore : t.root.at? (dir ++ [name]) = none := (Node.at?_concat hdir name).trans hname
    have hcurrent : t'.current = t.current := by rw [hmade]
    have hput : t.root.PutAt t'.root (dir ++ [name]) .emptyDir := by
      rw [hmade]
      exact Node.putAt_put (.append hdir (.vacant hname)) fun _ _ => rfl
    have hend : IsAt t'.root (.taken (Place.vacant dir name).names) := ⟨_, hput.self, nofun⟩
    have hleads := locate_keeps (hput.keeps hbefore) hcurrent hend hlocate
    exact ⟨dir ++ [name], canonicalNames_eq_ok.mpr hleads, hcurrent, hbefore, hput⟩

theorem MadeDir.isDir (h : MadeDir t t' p names) : t'.isDir p :=
  isDir_of_node (node_eq_ok.mpr ⟨names, h.leads, h.nodes.self⟩)

/-- A path that goes on with a name from a directory is one that a directory can be made at unless there is an entry. -/
theorem makeDir_down {dir : List String} {entries : List (String × Node)} {links : Nat} {name : String}
    (hdir : t.root.at? dir = some (.dir entries))
    (h : t.locate p false = follow t.root false links dir [.down name]) : t.makeDir p =
      if (Node.child? entries name).isSome then .error .taken
      else .ok { t with root := t.root.put (dir ++ [name]) .emptyDir } := by
  rw [makeDir, h, follow_down hdir]
  cases hname : Node.child? entries name <;> rfl

/-- A path leads to a directory if it leads somewhere after a name is joined to it. -/
theorem exists_dir_of_locate_join {dir : FilePath} (hdir : dir.text ≠ "") {name : String} (hname : IsName name)
    {place : Place} (h : t.locate (dir.join ⟨name⟩) true = .ok place) :
    ∃ names entries, t.canonicalNames dir = .ok names ∧ t.root.at? names = some (.dir entries) := by
  obtain ⟨a, ha, hjoin⟩ := exists_join_eq hname.separator hdir
  rw [hjoin] at h
  obtain ⟨-, hfollow⟩ := follow_of_locate h
  rw [steps_append a name hname.separator] at hfollow
  obtain ⟨names, hnames⟩ := exists_taken_of_follow_append (by simp) hfollow
  obtain ⟨links, hlinks⟩ := follow_append hnames
  rw [hlinks true _ (.inl rfl), stepOf_name hname] at hfollow
  obtain ⟨entries, hentries⟩ := exists_dir_of_follow (by simp) hfollow
  refine ⟨names, entries, ?_, hentries⟩
  rw [canonicalNames_eq_ok, locate, if_neg hdir]
  rcases ha with rfl | rfl
  · exact hnames
  · have hsteps := steps_append a "" (by simp)
    rw [String.append_empty] at hsteps
    rw [hsteps, hlinks true _ (.inl rfl)]
    simp [stepOf, follow, hentries]

theorem locate_name {dir : FilePath} (hdir : dir.text = "") {name : String} (hname : IsName name) (final : Bool) :
    t.locate (dir.join ⟨name⟩) final = follow t.root final linkLimit t.current [.down name] := by
  have hjoin : dir.join ⟨name⟩ = ⟨name⟩ := by
    rw [FilePath.join, if_neg (by simp [FilePath.isAbsolute_of_not_mem hname.separator]), if_pos (.inl hdir), hdir,
      String.empty_append]
  have hsteps : steps ⟨name⟩ = [.down name] := by
    rw [steps_eq, FilePath.splitOn_of_not_mem hname.separator]
    split
    · exact absurd (List.cons.inj ‹_›).1 hname.toList_ne.1
    · rw [List.map_singleton, stepOf_name hname]
  rw [hjoin, locate, if_neg hname.nonempty, hsteps]

/-- Where one name can be joined to a path, each name is an entry of a directory or missing there. -/
theorem makeDir_join_ne_notFound {dir : FilePath} {name other : String} (hname : IsName name) (hother : IsName other)
    {place : Place} (h : t.locate (dir.join ⟨name⟩) true = .ok place) :
    t.makeDir (dir.join ⟨other⟩) ≠ .error .notFound := by
  obtain ⟨names, entries, links, hentries, hlocate⟩ : ∃ names entries links, t.root.at? names = some (.dir entries) ∧
      t.locate (dir.join ⟨other⟩) false = follow t.root false links names [.down other] := by
    by_cases hdir : dir.text = ""
    · rw [locate_name hdir hname] at h
      obtain ⟨entries, hentries⟩ := exists_dir_of_follow (by simp) h
      exact ⟨_, entries, _, hentries, locate_name hdir hother false⟩
    · obtain ⟨names, entries, hleads, hentries⟩ := exists_dir_of_locate_join hdir hname h
      obtain ⟨links, hlocate⟩ := locate_join hleads hother.separator
      exact ⟨names, entries, links, hentries, stepOf_name hother ▸ hlocate false⟩
  rw [makeDir_down hentries hlocate]
  split <;> exact nofun

/-- A directory can be made in one that has just been made. -/
theorem MadeDir.exists_makeDir (h : MadeDir t t' p names) {name : String} (hname : IsName name) :
    ∃ t'', t'.makeDir (p.join ⟨name⟩) = .ok t'' := by
  obtain ⟨links, hlocate⟩ := locate_join h.leads hname.separator
  have hfollow := hlocate false
  rw [stepOf_name hname] at hfollow
  exact ⟨_, makeDir_down h.nodes.self hfollow⟩

/-- A path at which a directory cannot be made leads to one only if it leads to something. -/
theorem isDir_eq_false_of_makeDir {e : FileError} (h : t.makeDir p = .error e) (he : e ≠ .taken) :
    t.isDir p = false := by
  by_contra hdir
  obtain ⟨place, hplace⟩ : ∃ place, t.locate p true = .ok place := by
    cases hlocate : t.locate p true with
    | ok place => exact ⟨place, rfl⟩
    | error e => simp [isDir, node, canonicalNames, hlocate, bind, Except.bind] at hdir
  obtain ⟨hne, hfollow⟩ := follow_of_locate hplace
  obtain ⟨place', hplace'⟩ := exists_follow_of_final hfollow
  rw [makeDir, locate, if_neg hne, hplace'] at h
  cases place' with
  | taken names =>
    obtain rfl : FileError.taken = e := Except.error.inj h
    exact he rfl
  | vacant dir name => cases h

end

/-! ## Several directories -/

/-- Makes the first of some directories, each of which is to be in the next. What has been made stays if a directory
cannot be made. -/
def makeInTurn (t : FileTree) : List FilePath → FileTree × Option FileError
  | [] => (t, none)
  | p :: outer =>
    let settle (t : FileTree) (e : FileError) := (t, if t.isDir p then none else some e)
    match t.makeDir p with
    | .ok made => (made, none)
    | .error .notFound =>
      match makeInTurn t outer with
      | (made, some e) => (made, some e)
      | (made, none) =>
        match made.makeDir p with
        | .ok made => (made, none)
        | .error e => settle made e
    | .error e => settle t e

section
variable {t t₁ t' : FileTree} {p : FilePath} {outer : List FilePath}

theorem makeInTurn_of_ok (h : t.makeDir p = .ok t') : t.makeInTurn (p :: outer) = (t', none) := by
  rw [makeInTurn, h]

theorem makeInTurn_of_error {e : FileError} (h : t.makeDir p = .error e) (he : e ≠ .notFound) :
    t.makeInTurn (p :: outer) = (t, if t.isDir p then none else some e) := by
  rw [makeInTurn, h]
  cases e <;> first | rfl | exact absurd rfl he

theorem makeInTurn_of_notFound (h : t.makeDir p = .error .notFound) : t.makeInTurn (p :: outer) =
    match t.makeInTurn outer with
    | (made, some e) => (made, some e)
    | (made, none) =>
      match made.makeDir p with
      | .ok made => (made, none)
      | .error e => (made, if made.isDir p then none else some e) := by
  rw [makeInTurn, h]

def unlessError : FileTree × Option FileError → Except FileError FileTree
  | (t, none) => .ok t
  | (_, some e) => .error e

theorem makeFirst_eq (t : FileTree) (paths : List FilePath) :
    t.makeFirst paths = unlessError (t.makeInTurn paths) := by
  have hsettle : ∀ (t : FileTree) (p : FilePath) (e : FileError),
      (if t.isDir p then .ok t else .error e) = unlessError (t, if t.isDir p then none else some e) := by
    intro t p e
    split <;> rfl
  induction paths with
  | nil => rfl
  | cons p outer ih =>
    rw [makeFirst]
    cases hp : t.makeDir p with
    | ok made =>
      rw [makeInTurn_of_ok hp]
      rfl
    | error e =>
      by_cases he : e = .notFound
      · subst he
        rw [makeInTurn_of_notFound hp, ih]
        obtain ⟨made, _ | e⟩ := t.makeInTurn outer
        · simp only [unlessError]
          cases made.makeDir p with
          | ok made => rfl
          | error e => exact hsettle made p e
        · rfl
      · rw [makeInTurn_of_error hp he, ← hsettle]
        cases e <;> first | rfl | exact absurd rfl he

/-! ## Paths that go on with a name -/

theorem makeInTurn_ofComponents {name : String} (h : p.EndsWith name) (t : FileTree) (outer : List FilePath) :
    t.makeInTurn (.ofComponents p.components :: outer) = t.makeInTurn (p :: outer) := by
  have hmake : ∀ t : FileTree, t.makeDir (.ofComponents p.components) = t.makeDir p := fun t =>
    makeDir_of_locate (locate_ofComponents h t false)
  have hisDir : ∀ t : FileTree, t.isDir (.ofComponents p.components) = t.isDir p := fun t =>
    isDir_of_locate (locate_ofComponents h t true)
  simp only [makeInTurn, hmake, hisDir]

/-- Where a directory can be made at a path unless there is something, the path and one that goes on from it are both
made as far as they are missing, or nothing is. -/
theorem makeInTurn_join {first name : String} (hp : p.EndsWith first) (hname : IsName name)
    (hfirst : t.makeDir p ≠ .error .notFound) {e : Option FileError}
    (h : t.makeInTurn (pathsTo (p.join ⟨name⟩)) = (t', e)) :
    (t' = t ∧ (e = none ↔ t.isDir (p.join ⟨name⟩))) ∨
      (e = none ∧ (t.makeDir (p.join ⟨name⟩) = .ok t' ∨
        ∃ t₁, t.makeDir p = .ok t₁ ∧ t₁.makeDir (p.join ⟨name⟩) = .ok t')) := by
  obtain ⟨outer, houter⟩ := exists_pathsTo_eq hp
  rw [pathsTo_join hp.text_ne_empty hname, houter, makeInTurn_ofComponents (p.endsWith_join hname)] at h
  cases hlast : t.makeDir (p.join ⟨name⟩) with
  | ok made =>
    rw [makeInTurn_of_ok hlast] at h
    obtain ⟨rfl, rfl⟩ := Prod.mk.inj h
    exact .inr ⟨rfl, .inl rfl⟩
  | error e₁ =>
    have hsettle : ((t, if t.isDir (p.join ⟨name⟩) then none else some e₁) : FileTree × Option FileError) = (t', e) →
        t' = t ∧ (e = none ↔ t.isDir (p.join ⟨name⟩)) := by
      intro h
      obtain ⟨rfl, rfl⟩ := Prod.mk.inj h
      exact ⟨rfl, by split <;> simp [*]⟩
    -- only a path that is not found has the one before it looked at, and this cannot be not found as well
    by_cases he₁ : e₁ = .notFound
    · subst he₁
      rw [makeInTurn_of_notFound hlast, makeInTurn_ofComponents hp] at h
      cases hp' : t.makeDir p with
      | ok t₁ =>
        obtain ⟨_, hmade⟩ := madeDir_of_makeDir hp'
        obtain ⟨t₂, ht₂⟩ := hmade.exists_makeDir hname
        rw [makeInTurn_of_ok hp'] at h
        dsimp only at h
        rw [ht₂] at h
        obtain ⟨rfl, rfl⟩ := Prod.mk.inj h
        exact .inr ⟨rfl, .inr ⟨t₁, rfl, ht₂⟩⟩
      | error e₂ =>
        have he₂ : e₂ ≠ .notFound := fun heq => hfirst (heq ▸ hp')
        rw [makeInTurn_of_error hp' he₂] at h
        by_cases hdir : t.isDir p
        · rw [if_pos hdir] at h
          dsimp only at h
          rw [hlast] at h
          exact .inl (hsettle h)
        · rw [if_neg hdir] at h
          obtain ⟨rfl, rfl⟩ := Prod.mk.inj h
          have hmissing := isDir_eq_false_of_makeDir hlast nofun
          exact .inl ⟨rfl, by simp [hmissing]⟩
    · rw [makeInTurn_of_error hlast he₁] at h
      exact .inl (hsettle h)

end

end FileTree

end RuleLint
