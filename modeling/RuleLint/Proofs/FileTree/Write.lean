import RuleLint.FileTree.Basic
import RuleLint.Proofs.Except

/-!
# Writing a file

A path leads to a node that is there or to a name that a directory has no entry for. Writing to it puts a
file there and leaves every other node as it is (`written_of_write`), so the path leads to the file
afterwards and reading gives the text back (`Written.readText`).
-/

namespace RuleLint

namespace Node

inductive Kind where
  | file (content : Content)
  | dir
  | link (target : FilePath)

def kind : Node → Kind
  | file c => .file c
  | dir _ => .dir
  | link target => .link target

/-! ## Entries -/

theorem child?_setEntry (name key : String) (node : Node) (entries : List (String × Node)) :
    child? (setEntry name node entries) key = if key = name then some node else child? entries key := by
  unfold child?
  induction entries with
  | nil =>
    rw [setEntry]
    by_cases h : key = name
    · simp [h]
    · simp [h, Ne.symm h]
  | cons e entries ih =>
    obtain ⟨k, n⟩ := e
    rw [setEntry]
    by_cases hk : name = k
    · subst hk
      by_cases h : key = name
      · simp [h]
      · simp [h, Ne.symm h]
    · rw [if_neg hk]
      split
      · by_cases h : key = name
        · simp [h]
        · simp [h, Ne.symm h]
      · rw [List.find?_cons, List.find?_cons]
        by_cases h : k = key
        · subst h
          simp [Ne.symm hk]
        · simpa [h] using ih

/-! ## Nodes below a node -/

theorem at?_nil (n : Node) : n.at? [] = some n := by
  unfold at?
  rfl

theorem at?_cons {entries : List (String × Node)} {name : String} {names : List String} :
    (dir entries).at? (name :: names) = (child? entries name).bind (·.at? names) := by
  rw [at?]

theorem at?_append (n : Node) (a b : List String) : n.at? (a ++ b) = (n.at? a).bind (·.at? b) := by
  induction a generalizing n with
  | nil => rw [List.nil_append, at?_nil, Option.bind_some]
  | cons name a ih =>
    cases n with
    | dir entries =>
      rw [List.cons_append, at?_cons, at?_cons, Option.bind_assoc]
      exact congrArg _ (funext ih)
    | file _ => rfl
    | link _ => rfl

theorem at?_concat {n : Node} {names : List String} {entries : List (String × Node)}
    (h : n.at? names = some (dir entries)) (name : String) :
    n.at? (names ++ [name]) = child? entries name := by
  rw [at?_append, h, Option.bind_some, at?_cons]
  cases child? entries name with
  | none => rfl
  | some m => exact at?_nil m

theorem exists_dir_of_at?_concat {n m : Node} {names : List String} {name : String}
    (h : n.at? (names ++ [name]) = some m) : ∃ entries, n.at? names = some (dir entries) := by
  rw [at?_append, Option.bind_eq_some_iff] at h
  obtain ⟨d, hd, h⟩ := h
  cases d with
  | dir entries => exact ⟨entries, hd⟩
  | file _ => cases h
  | link _ => cases h

theorem exists_dir_of_at? {n : Node} {names : List String} {entries : List (String × Node)}
    (h : n.at? names = some (dir entries)) : ∃ entries, n = dir entries := by
  cases names with
  | nil =>
    rw [at?_nil] at h
    exact ⟨entries, Option.some.inj h⟩
  | cons name names =>
    cases n with
    | dir entries => exact ⟨entries, rfl⟩
    | file _ => cases h
    | link _ => cases h

def IsFile (n : Node) : Prop := ∃ c, n = file c

theorem IsFile.at?_cons {n : Node} (h : n.IsFile) (name : String) (names : List String) :
    n.at? (name :: names) = none := by
  obtain ⟨c, rfl⟩ := h
  rfl

/-! ## Putting a node -/

/-- A place at which a node can be put: there is a file, or nothing in a directory. -/
inductive HasRoom : Node → List String → Prop
  | file {n : Node} (h : n.IsFile) : HasRoom n []
  | vacant {entries : List (String × Node)} {name : String} (h : child? entries name = none) :
      HasRoom (dir entries) [name]
  | inside {entries : List (String × Node)} {name : String} {n : Node} {names : List String}
      (h : child? entries name = some n) (hn : HasRoom n names) : HasRoom (dir entries) (name :: names)

theorem HasRoom.append {n m : Node} {a b : List String} (h : n.at? a = some m) (hm : HasRoom m b) :
    HasRoom n (a ++ b) := by
  induction a generalizing n with
  | nil =>
    rw [at?_nil] at h
    obtain rfl := Option.some.inj h
    exact hm
  | cons name a ih =>
    cases n with
    | dir entries =>
      rw [at?_cons, Option.bind_eq_some_iff] at h
      obtain ⟨n, hn, h⟩ := h
      exact .inside hn (ih h)
    | file _ => cases h
    | link _ => cases h

theorem HasRoom.isFile {n m : Node} {names : List String} (h : HasRoom n names) (hm : n.at? names = some m) :
    m.IsFile := by
  induction h with
  | file h =>
    rw [at?_nil] at hm
    exact Option.some.inj hm ▸ h
  | vacant h =>
    rw [at?_cons, h] at hm
    cases hm
  | inside h _ ih =>
    rw [at?_cons, h, Option.bind_some] at hm
    exact ih hm

/-- Trees that differ at one place only, at which the second has a given node. -/
structure PutAt (n n' : Node) (names : List String) (new : Node) : Prop where
  self : n'.at? names = some new
  other : ∀ others, others ≠ names → (n'.at? others).map kind = (n.at? others).map kind

theorem putAt_put {n : Node} {names : List String} (h : HasRoom n names) {new : Node}
    (hnew : ∀ name below, new.at? (name :: below) = none) : PutAt n (n.put names new) names new := by
  induction h with
  | @file n h =>
    rw [put]
    refine ⟨at?_nil _, fun others hne => ?_⟩
    cases others with
    | nil => exact absurd rfl hne
    | cons name others => rw [h.at?_cons, hnew]
  | @vacant entries name h =>
    rw [put, put]
    refine ⟨?_, fun others hne => ?_⟩
    · rw [at?_cons, child?_setEntry, if_pos rfl, Option.bind_some, at?_nil]
    · cases others with
      | nil => rw [at?_nil, at?_nil]; rfl
      | cons key others =>
        rw [at?_cons, at?_cons, child?_setEntry]
        by_cases hkey : key = name
        · subst hkey
          cases others with
          | nil => exact absurd rfl hne
          | cons a others => rw [if_pos rfl, h, Option.bind_some, hnew, Option.bind_none]
        · rw [if_neg hkey]
  | @inside entries name m names h _ ih =>
    rw [put, h, Option.getD_some]
    refine ⟨?_, fun others hne => ?_⟩
    · rw [at?_cons, child?_setEntry, if_pos rfl, Option.bind_some, ih.self]
    · cases others with
      | nil => rw [at?_nil, at?_nil]; rfl
      | cons key others =>
        rw [at?_cons, at?_cons, child?_setEntry]
        by_cases hkey : key = name
        · subst hkey
          rw [if_pos rfl, h, Option.bind_some, Option.bind_some]
          exact ih.other others fun heq => hne (congrArg _ heq)
        · rw [if_neg hkey]

structure WrittenAt (n n' : Node) (names : List String) (c : Content) : Prop where
  before : ∀ m, n.at? names = some m → m.IsFile
  self : n'.at? names = some (file c)
  other : ∀ others, others ≠ names → (n'.at? others).map kind = (n.at? others).map kind

theorem writtenAt_put {n : Node} {names : List String} (h : HasRoom n names) (c : Content) :
    WrittenAt n (n.put names (file c)) names c :=
  have hput := putAt_put h (IsFile.at?_cons ⟨c, rfl⟩)
  ⟨fun _ => h.isFile, hput.self, hput.other⟩

/-! ## What is still there -/

/-- What there is in the first tree is there in the second, except that a file can be another file. -/
def Keeps (n n' : Node) : Prop :=
  ∀ names m, n.at? names = some m →
    ∃ m', n'.at? names = some m' ∧ (m'.kind = m.kind ∨ m.IsFile ∧ m'.IsFile)

section
variable {n n' : Node} {names : List String}

theorem WrittenAt.keeps {c : Content} (h : WrittenAt n n' names c) : Keeps n n' := by
  intro others m hm
  by_cases hothers : others = names
  · subst hothers
    exact ⟨_, h.self, .inr ⟨h.before m hm, c, rfl⟩⟩
  · have hother := h.other others hothers
    rw [hm, Option.map_some, Option.map_eq_some_iff] at hother
    obtain ⟨m', hm', hkind⟩ := hother
    exact ⟨m', hm', .inl hkind⟩

theorem Keeps.exists_dir (h : Keeps n n') {entries : List (String × Node)}
    (hdir : n.at? names = some (dir entries)) : ∃ entries', n'.at? names = some (dir entries') := by
  obtain ⟨m, hm, hkind | ⟨⟨c, hc⟩, -⟩⟩ := h names _ hdir
  · cases m with
    | dir entries' => exact ⟨entries', hm⟩
    | file _ => cases hkind
    | link _ => cases hkind
  · cases hc

theorem Keeps.at?_link (h : Keeps n n') {target : FilePath} (hlink : n.at? names = some (link target)) :
    n'.at? names = some (link target) := by
  obtain ⟨m, hm, hkind | ⟨⟨c, hc⟩, -⟩⟩ := h names _ hlink
  · cases m with
    | dir _ => cases hkind
    | file _ => cases hkind
    | link _ =>
      cases hkind
      exact hm
  · cases hc

theorem Keeps.exists_at? (h : Keeps n n') {m : Node} (hm : n.at? names = some m)
    (hlink : ∀ target, m ≠ link target) : ∃ m', n'.at? names = some m' ∧ ∀ target, m' ≠ link target := by
  obtain ⟨m', hm', hkind | ⟨-, c, rfl⟩⟩ := h names m hm
  · refine ⟨m', hm', ?_⟩
    rintro target rfl
    cases m with
    | dir _ => cases hkind
    | file _ => cases hkind
    | link _ => exact absurd rfl (hlink _)
  · exact ⟨_, hm', nofun⟩

end

end Node

namespace FileTree

/-! ## Following steps -/

def Place.names : Place → List String
  | taken names => names
  | vacant dir name => dir ++ [name]

def IsAt (root : Node) : Place → Prop
  | .taken names => ∃ n, root.at? names = some n ∧ ∀ target, n ≠ .link target
  | .vacant dir name => ∃ entries, root.at? dir = some (.dir entries) ∧ Node.child? entries name = none

section
variable {root root' : Node} {names : List String} {c : Content}

theorem isAt_of_dir {entries : List (String × Node)} (h : root.at? names = some (.dir entries)) :
    IsAt root (.taken names) := ⟨_, h, nofun⟩

theorem isAt_dropLast {entries : List (String × Node)} (h : root.at? names = some (.dir entries)) :
    IsAt root (.taken names.dropLast) := by
  rcases List.eq_nil_or_concat names with rfl | ⟨before, name, rfl⟩
  · exact isAt_of_dir h
  · rw [List.concat_eq_append] at h ⊢
    rw [List.dropLast_concat]
    obtain ⟨entries, hdir⟩ := Node.exists_dir_of_at?_concat h
    exact isAt_of_dir hdir

/-- Unless there are no steps, the end of a path has been looked up. -/
theorem isAt_of_follow {links : Nat} {at_ : List String} {todo : List Step} {place : Place}
    (hroot : IsAt root (.taken [])) (h : follow root true links at_ todo = .ok place) :
    todo = [] ∧ place = .taken at_ ∨ IsAt root place := by
  fun_induction follow root true links at_ todo with
  | case1 links at_ => exact .inl ⟨rfl, (Except.ok.inj h).symm⟩
  | case2 links at_ r ih =>
    rcases ih h with ⟨_, rfl⟩ | hplace
    · exact .inr hroot
    · exact .inr hplace
  | case3 links at_ r entries hdir hne ih => exact absurd rfl hne
  | case4 links at_ r entries hdir hne ih =>
    rcases ih h with ⟨_, rfl⟩ | hplace
    · exact .inr (isAt_of_dir hdir)
    · exact .inr hplace
  | case5 links at_ r entries hdir hne ih =>
    rcases ih h with ⟨_, rfl⟩ | hplace
    · exact .inr (isAt_dropLast hdir)
    · exact .inr hplace
  | case6 links at_ r entries hdir name hname hempty hne =>
    obtain rfl := Except.ok.inj h
    exact .inr ⟨entries, hdir, hname⟩
  | case7 links at_ r entries hdir name hname hempty hne => cases h
  | case8 links at_ r entries hdir name target hname hfinal hne => simp at hfinal
  | case9 at_ r entries hdir name target hname hfinal hne => cases h
  | case10 at_ r entries hdir name target hname hfinal links hne ih =>
    rcases ih h with ⟨_, rfl⟩ | hplace
    · exact .inr (isAt_of_dir hdir)
    · exact .inr hplace
  | case11 links at_ r entries hdir name n hlink hname hne ih =>
    rcases ih h with ⟨_, rfl⟩ | hplace
    · exact .inr ⟨n, (Node.at?_concat hdir name).trans hname, hlink⟩
    · exact .inr hplace
  | case12 links at_ step r hne hdir => cases h

theorem exists_dir_of_follow {links : Nat} {at_ : List String} {step : Step} {todo : List Step}
    {place : Place} (hstep : step ≠ .top) (h : follow root true links at_ (step :: todo) = .ok place) :
    ∃ entries, root.at? at_ = some (.dir entries) := by
  rw [follow] at h
  · split at h
    · exact ⟨_, ‹_›⟩
    · cases h
  · exact hstep

end

theorem splitOn_ne_nil (sep : Char) (cs : List Char) : FilePath.splitOn sep cs ≠ [] := by
  cases cs with
  | nil => exact nofun
  | cons c cs =>
    unfold FilePath.splitOn
    split
    · exact nofun
    · split <;> exact nofun

theorem splitOn_eq_singleton_nil {sep : Char} {cs : List Char} (h : FilePath.splitOn sep cs = [[]]) :
    cs = [] := by
  cases cs with
  | nil => rfl
  | cons c cs =>
    unfold FilePath.splitOn at h
    split at h
    · exact absurd (List.cons.inj h).2 (splitOn_ne_nil sep cs)
    · split at h <;> simp at h

/-- A path has a step that is not the one to the root. -/
theorem exists_step {p : FilePath} (h : p.text ≠ "") :
    ∃ step todo, step ≠ .top ∧ (steps p = step :: todo ∨ steps p = .top :: step :: todo) := by
  have hstep : ∀ part : List Char, (if part = [] ∨ part = ['.'] then Step.stay
      else if part = ['.', '.'] then Step.up else Step.down (String.ofList part)) ≠ .top := by
    intro part
    split
    · exact nofun
    · split <;> exact nofun
  unfold steps
  dsimp only
  split
  · rename_i parts hparts
    cases parts with
    | nil => exact absurd (String.toList_eq_nil_iff.mp (splitOn_eq_singleton_nil hparts)) h
    | cons part parts => exact ⟨_, _, hstep part, .inr rfl⟩
  · cases hparts : FilePath.splitOn '/' p.text.toList with
    | nil => exact absurd hparts (splitOn_ne_nil _ _)
    | cons part parts => exact ⟨_, _, hstep part, .inl rfl⟩

section
variable {t : FileTree} {p : FilePath} {place : Place}

theorem follow_of_locate {final : Bool} (h : t.locate p final = .ok place) :
    p.text ≠ "" ∧ follow t.root final linkLimit t.current (steps p) = .ok place := by
  unfold locate at h
  split at h
  · cases h
  · exact ⟨‹_›, h⟩

theorem isAt_of_locate (h : t.locate p true = .ok place) : IsAt t.root place := by
  obtain ⟨hp, h⟩ := follow_of_locate h
  obtain ⟨step, todo, hstep, hsteps⟩ := exists_step hp
  suffices ∀ at_, follow t.root true linkLimit at_ (step :: todo) = .ok place → IsAt t.root place by
    rcases hsteps with hsteps | hsteps
    · rw [hsteps] at h
      exact this _ h
    · rw [hsteps, follow] at h
      exact this _ h
  intro at_ h
  obtain ⟨entries, hdir⟩ := exists_dir_of_follow hstep h
  obtain ⟨entries, hentries⟩ := Node.exists_dir_of_at? hdir
  have hroot : IsAt t.root (.taken []) := isAt_of_dir ((Node.at?_nil _).trans (congrArg some hentries))
  rcases isAt_of_follow hroot h with ⟨hnil, _⟩ | hplace
  · cases hnil
  · exact hplace

end

/-! ## Following steps again -/

section
variable {root root' : Node}

/-- What a path goes through is still there, so it leads to the same place, at which there has to be something
by then. -/
theorem follow_keeps (hkeeps : root.Keeps root') {final : Bool} {links : Nat} {at_ : List String}
    {todo : List Step} {place : Place} (hend : IsAt root' (.taken place.names))
    (h : follow root final links at_ todo = .ok place) :
    follow root' true links at_ todo = .ok (.taken place.names) := by
  fun_induction follow root final links at_ todo with
  | case1 links at_ =>
    obtain rfl := Except.ok.inj h
    rw [follow]
    rfl
  | case2 links at_ r ih =>
    rw [follow]
    exact ih h
  | case3 links at_ r entries hdir hne ih => exact absurd rfl hne
  | case4 links at_ r entries hdir hne ih =>
    obtain ⟨entries', hdir'⟩ := hkeeps.exists_dir hdir
    simpa only [follow, hdir'] using ih h
  | case5 links at_ r entries hdir hne ih =>
    obtain ⟨entries', hdir'⟩ := hkeeps.exists_dir hdir
    simpa only [follow, hdir'] using ih h
  | case6 links at_ r entries hdir name hname hempty hne =>
    obtain rfl := Except.ok.inj h
    obtain ⟨entries', hdir'⟩ := hkeeps.exists_dir hdir
    obtain ⟨n, hn, hlink⟩ := hend
    rw [Place.names, Node.at?_concat hdir'] at hn
    obtain rfl := List.isEmpty_iff.mp hempty
    simp [follow, hdir', hn, Place.names]
  | case7 links at_ r entries hdir name hname hempty hne => cases h
  | case8 links at_ r entries hdir name target hname hfinal hne =>
    -- the path ends with a link that is not followed, which is still a link
    obtain rfl := Except.ok.inj h
    obtain ⟨n, hn, hlink⟩ := hend
    rw [Place.names, hkeeps.at?_link ((Node.at?_concat hdir name).trans hname)] at hn
    exact absurd (Option.some.inj hn).symm (hlink target)
  | case9 at_ r entries hdir name target hname hfinal hne => cases h
  | case10 at_ r entries hdir name target hname hfinal links hne ih =>
    obtain ⟨entries', hdir'⟩ := hkeeps.exists_dir hdir
    have hname' := hkeeps.at?_link ((Node.at?_concat hdir name).trans hname)
    rw [Node.at?_concat hdir'] at hname'
    simpa [follow, hdir', hname'] using ih h
  | case11 links at_ r entries hdir name n hlink hname hne ih =>
    obtain ⟨entries', hdir'⟩ := hkeeps.exists_dir hdir
    obtain ⟨n', hname', hlink'⟩ := hkeeps.exists_at? ((Node.at?_concat hdir name).trans hname) hlink
    rw [Node.at?_concat hdir'] at hname'
    simpa [follow, hdir', hname', hlink'] using ih h
  | case12 links at_ step r hne hdir => cases h

end

/-- A path leads to where it led as long as what it goes through is still there. -/
theorem locate_keeps {t t' : FileTree} (hkeeps : t.root.Keeps t'.root) (hcurrent : t'.current = t.current)
    {p : FilePath} {final : Bool} {place : Place} (hend : IsAt t'.root (.taken place.names))
    (h : t.locate p final = .ok place) : t'.locate p true = .ok (.taken place.names) := by
  obtain ⟨hp, hfollow⟩ := follow_of_locate h
  rw [locate, if_neg hp, hcurrent]
  exact follow_keeps hkeeps hend hfollow

/-! ## Writing -/

theorem withoutEnd_of_write {t t' : FileTree} {p : FilePath} {text : String} (h : t.write p text = .ok t') :
    withoutEnd p = p := by
  by_cases hend : withoutEnd p = p
  · exact hend
  · rw [write, if_pos hend] at h
    dsimp only at h
    split at h
    · obtain ⟨_, _, h⟩ := bind_eq_ok.mp h
      obtain ⟨_, h, _⟩ := bind_eq_ok.mp h
      exact absurd h throw_ne_ok
    · obtain ⟨_, h, _⟩ := bind_eq_ok.mp h
      exact absurd h throw_ne_ok

/-- A file can be written at a path: the path leads to a file or to a name in a directory that has no entry
for it, and is not written as that of a directory. -/
def CanWrite (t : FileTree) (p : FilePath) : Prop :=
  withoutEnd p = p ∧ (t.isFile p ∨ ∃ dir name, t.locate p true = .ok (.vacant dir name))

theorem isFile_iff {t : FileTree} {p : FilePath} : t.isFile p ↔
    ∃ names c, t.locate p true = .ok (.taken names) ∧ t.root.at? names = some (.file c) := by
  unfold isFile node canonicalNames
  cases hlocate : t.locate p true with
  | error e => simp [bind, Except.bind]
  | ok place =>
    cases place with
    | vacant dir name => simp [bind, Except.bind, throw, throwThe, MonadExceptOf.throw]
    | taken names =>
      cases hn : t.root.at? names with
      | none => simp [bind, Except.bind, pure, Except.pure, throw, throwThe, MonadExceptOf.throw, hn]
      | some n => cases n <;> simp [bind, Except.bind, pure, Except.pure, hn]

theorem exists_write_iff {t : FileTree} {p : FilePath} {text : String} :
    (∃ t', t.write p text = .ok t') ↔ t.CanWrite p := by
  unfold CanWrite
  by_cases hend : withoutEnd p = p
  · rw [write, if_neg (not_not_intro hend), isFile_iff]
    cases hlocate : t.locate p true with
    | error e => simp [bind, Except.bind]
    | ok place =>
      have hplace := isAt_of_locate hlocate
      cases place with
      | vacant dir name => simp [bind, Except.bind, pure, Except.pure, hend]
      | taken names =>
        obtain ⟨n, hn, hlink⟩ := hplace
        cases n with
        | file c => simp [bind, Except.bind, pure, Except.pure, hend, hn]
        | dir entries => simp [bind, Except.bind, throw, throwThe, MonadExceptOf.throw, hn]
        | link target => exact absurd rfl (hlink target)
  · constructor
    · rintro ⟨t', h⟩
      exact absurd (withoutEnd_of_write h) hend
    · rintro ⟨h, _⟩
      exact absurd h hend

theorem exists_write_error {t : FileTree} {p : FilePath} (h : ¬ t.CanWrite p) (text : String) :
    ∃ e, t.write p text = .error e := by
  cases hw : t.write p text with
  | ok t' => exact absurd (exists_write_iff.mp ⟨t', hw⟩) h
  | error e => exact ⟨e, rfl⟩

/-- A tree in which a text has been written to a path: the path leads to a file with the text, and there
is no other difference. -/
structure Written (t t' : FileTree) (p : FilePath) (text : String) (names : List String) : Prop where
  leads : ∃ place, t.locate p true = .ok place ∧ place.names = names
  current : t'.current = t.current
  nodes : Node.WrittenAt t.root t'.root names (.text text)

theorem written_of_write {t t' : FileTree} {p : FilePath} {text : String} (h : t.write p text = .ok t') :
    ∃ names, Written t t' p text names := by
  rw [write, if_neg (not_not_intro (withoutEnd_of_write h))] at h
  obtain ⟨place, hlocate, h⟩ := bind_eq_ok.mp h
  have hplace := isAt_of_locate hlocate
  cases place with
  | vacant dir name =>
    obtain rfl := Except.ok.inj h
    obtain ⟨entries, hdir, hname⟩ := hplace
    exact ⟨_, ⟨_, hlocate, rfl⟩, rfl, Node.writtenAt_put (.append hdir (.vacant hname)) _⟩
  | taken names =>
    obtain ⟨n, hn, hlink⟩ := hplace
    dsimp only at h
    split at h
    · exact absurd h throw_ne_ok
    rename_i hdir
    obtain rfl := Except.ok.inj h
    have hfile : n.IsFile := by
      cases n with
      | file c => exact ⟨c, rfl⟩
      | dir entries => exact absurd hn (hdir entries)
      | link target => exact absurd rfl (hlink target)
    have hroom : t.root.HasRoom (names ++ []) := .append hn (.file hfile)
    rw [List.append_nil] at hroom
    exact ⟨names, ⟨_, hlocate, rfl⟩, rfl, Node.writtenAt_put hroom _⟩

section
variable {t t' : FileTree} {p : FilePath} {text : String} {names : List String}

theorem Written.locate (h : Written t t' p text names) : t'.locate p true = .ok (.taken names) := by
  obtain ⟨place, hlocate, rfl⟩ := h.leads
  exact locate_keeps h.nodes.keeps h.current ⟨_, h.nodes.self, nofun⟩ hlocate

theorem Written.readText (h : Written t t' p text names) : t'.readText p = .ok text := by
  simp only [FileTree.readText, node, canonicalNames, h.locate, h.nodes.self, bind, Except.bind, pure, Except.pure]

end

end FileTree

end RuleLint
