import RuleLint.Proofs.Discovery
import RuleLint.Proofs.FileTree.Join
import RuleLint.Proofs.Linting.Setup

/-!
# Documents of a run

The documents of a run are those that paths are given for and those that are kept below its base directory. A
path is added for each of the latter that no path leads to yet (`addPaths_eq`), while the paths that are given
are not compared. So each document is linted once exactly if no two of the paths given lead to one file
(`ruleSetPaths_leadTo`).
-/

namespace RuleLint

namespace FileTree

def SameFile (t : FileTree) (p q : FilePath) : Prop :=
  ∃ names, t.canonicalNames p = .ok names ∧ t.canonicalNames q = .ok names

def Leads (t : FileTree) (p : FilePath) : Prop := ∃ names, t.canonicalNames p = .ok names

theorem leads_of_isFile {t : FileTree} {p : FilePath} (h : t.isFile p) : t.Leads p := by
  obtain ⟨names, c, hlocate, _⟩ := isFile_iff.mp h
  exact ⟨names, canonicalNames_eq_ok.mpr hlocate⟩

end FileTree

/-! ## Documents of a directory -/

namespace Discovery

def IsDocument (t : FileTree) (dir : FilePath) (names : List String) : Prop :=
  ∃ before name c, names = before ++ [name] ∧ t.canonicalNames dir = .ok before ∧
    t.root.at? names = some (.file c) ∧ rulesSuffix.toList <:+ name.toList

section
variable {t : FileTree} {dir p : FilePath} {names : List String}

theorem exists_entry_of_mem (h : p ∈ ruleSetsIn t dir) : ∃ before entries name c,
    t.canonicalNames dir = .ok before ∧ t.root.at? before = some (.dir entries) ∧
      (name, .file c) ∈ entries ∧ rulesSuffix.toList <:+ name.toList ∧ p = dir.join ⟨name⟩ := by
  unfold ruleSetsIn at h
  dsimp only at h
  cases hentries : t.entries dir with
  | error e =>
    rw [hentries] at h
    cases h
  | ok entries =>
    rw [hentries] at h
    obtain ⟨before, hbefore, hdir⟩ := FileTree.entries_eq_ok.mp hentries
    obtain ⟨⟨name, n⟩, he, rfl⟩ := List.mem_map.mp (mem_sortPaths h)
    obtain ⟨he, hdocument⟩ := List.mem_filter.mp he
    cases n with
    | file c => exact ⟨before, entries, name, c, hbefore, hdir, he, List.isSuffixOf_iff_suffix.mp hdocument, rfl⟩
    | dir _ => cases hdocument
    | link _ => cases hdocument

/-- A path that is found leads to a document. -/
theorem isDocument_of_mem (hwell : t.root.WellNamed) (h : p ∈ ruleSetsIn t dir) :
    ∃ names, IsDocument t dir names ∧ t.canonicalNames p = .ok names := by
  obtain ⟨before, entries, name, c, hbefore, hdir, he, hsuffix, rfl⟩ := exists_entry_of_mem h
  obtain ⟨hnodup, hnames⟩ := hwell before entries hdir
  have hchild : Node.child? entries name = some (.file c) := Node.child?_of_mem hnodup he
  exact ⟨_, ⟨before, name, c, rfl, hbefore, (Node.at?_concat hdir name).trans hchild, hsuffix⟩,
    FileTree.canonicalNames_join hbefore hdir (hnames _ he) hchild nofun⟩

/-- There is a path to each document. -/
theorem exists_mem_of_isDocument (hwell : t.root.WellNamed) (h : IsDocument t dir names) :
    ∃ p ∈ ruleSetsIn t dir, t.canonicalNames p = .ok names := by
  obtain ⟨before, name, c, rfl, hbefore, hfile, hsuffix⟩ := h
  obtain ⟨entries, hdir⟩ := Node.exists_dir_of_at?_concat hfile
  obtain ⟨_, hnames⟩ := hwell before entries hdir
  have hchild : Node.child? entries name = some (.file c) := (Node.at?_concat hdir name).symm.trans hfile
  have hname : IsName name := hnames _ (Node.mem_of_child? hchild)
  obtain ⟨hne, _⟩ := FileTree.follow_of_locate (FileTree.canonicalNames_eq_ok.mp hbefore)
  have hmem : ∃ q ∈ ruleSetsIn t dir, (dir.join ⟨name⟩).same q := by
    have hentries := FileTree.entries_eq_ok.mpr ⟨before, hbefore, hdir⟩
    simp only [ruleSetsIn, hentries]
    refine exists_same_sortPaths (List.mem_map.mpr ⟨_, List.mem_filter.mpr ⟨Node.mem_of_child? hchild, ?_⟩, rfl⟩)
    exact List.isSuffixOf_iff_suffix.mpr hsuffix
  obtain ⟨q, hq, hsame⟩ := hmem
  -- paths to entries of one directory are the same only if the entries have one name
  obtain ⟨before', entries', name', c', hbefore', hdir', he', _, rfl⟩ := exists_entry_of_mem hq
  obtain rfl := Except.ok.inj (hbefore.symm.trans hbefore')
  obtain rfl := Node.dir.inj (Option.some.inj (hdir.symm.trans hdir'))
  have hlast : (dir.join ⟨name⟩).fileName? = (dir.join ⟨name'⟩).fileName? := by
    unfold FilePath.fileName?
    rw [FilePath.same_iff.mp hsame]
  rw [FileTree.fileName?_join hname hne, FileTree.fileName?_join (hnames _ he') hne] at hlast
  obtain rfl := String.toList_inj.mp (Option.some.inj hlast)
  exact ⟨_, hq, FileTree.canonicalNames_join hbefore hdir hname hchild nofun⟩

end

end Discovery

namespace Linting

/-! ## Adding paths -/

section
variable {t : FileTree} {paths found : List FilePath} {p q : FilePath}

theorem sameFile_iff (hp : t.Leads p) (hq : t.Leads q) : sameFile t p q ↔ t.SameFile p q := by
  obtain ⟨a, ha⟩ := hp
  obtain ⟨b, hb⟩ := hq
  unfold sameFile FileTree.SameFile
  simp only [ha, hb, beq_iff_eq, Except.ok.injEq]
  exact ⟨fun hab => ⟨b, hab, rfl⟩, fun ⟨_, hab, hb⟩ => hab.trans hb.symm⟩

theorem sameFile_self (h : t.Leads p) : t.SameFile p p := by
  obtain ⟨names, hnames⟩ := h
  exact ⟨names, hnames, hnames⟩

/-- What is added to paths: of the paths found the first to each file that no path before leads to. -/
structure Added (t : FileTree) (paths found added : List FilePath) : Prop where
  mem : ∀ p ∈ added, p ∈ found
  apart : added.Pairwise fun p q => ¬ t.SameFile p q
  new : ∀ p ∈ paths, ∀ q ∈ added, ¬ t.SameFile p q
  covers : ∀ p ∈ found, ∃ q ∈ paths ++ added, t.SameFile q p

theorem addPaths_eq (hpaths : ∀ p ∈ paths, t.Leads p) (hfound : ∀ p ∈ found, t.Leads p) :
    ∃ added, addPaths t paths found = paths ++ added ∧ Added t paths found added := by
  induction found generalizing paths with
  | nil => exact ⟨[], (List.append_nil paths).symm, nofun, .nil, nofun, nofun⟩
  | cons p found ih =>
    obtain ⟨hp, hfound⟩ := List.forall_mem_cons.mp hfound
    rw [addPaths]
    split
    · rename_i hany
      obtain ⟨q, hq, hsame⟩ := List.any_eq_true.mp hany
      obtain ⟨added, hadd, h⟩ := ih hpaths hfound
      refine ⟨added, hadd, fun s hs => List.mem_cons_of_mem p (h.mem s hs), h.apart, h.new, ?_⟩
      refine List.forall_mem_cons.mpr ⟨?_, h.covers⟩
      exact ⟨q, List.mem_append_left added hq, (sameFile_iff (hpaths q hq) hp).mp hsame⟩
    · rename_i hany
      have hnew : ∀ q ∈ paths, ¬ t.SameFile q p := fun q hq hsame =>
        hany (List.any_eq_true.mpr ⟨q, hq, (sameFile_iff (hpaths q hq) hp).mpr hsame⟩)
      have hpaths' : ∀ q ∈ paths ++ [p], t.Leads q := by
        simpa only [List.forall_mem_append, List.forall_mem_singleton] using ⟨hpaths, hp⟩
      obtain ⟨added, hadd, h⟩ := ih hpaths' hfound
      rw [List.append_assoc, List.singleton_append] at hadd
      obtain ⟨hbefore, hself⟩ := List.forall_mem_append.mp h.new
      refine ⟨p :: added, hadd, ?_, ?_, ?_, ?_⟩
      · exact List.forall_mem_cons.mpr ⟨List.mem_cons_self, fun s hs => List.mem_cons_of_mem p (h.mem s hs)⟩
      · exact List.pairwise_cons.mpr ⟨hself p (List.mem_singleton_self p), h.apart⟩
      · exact fun q hq => List.forall_mem_cons.mpr ⟨hnew q hq, hbefore q hq⟩
      · refine List.forall_mem_cons.mpr ⟨⟨p, by simp, sameFile_self hp⟩, ?_⟩
        simpa only [List.append_assoc, List.singleton_append] using h.covers

end

/-! ## Paths of a run -/

inductive PathsError (t : FileTree) (o : RunOptions) : LintError → Prop
  | noPaths (h : o.rulePaths = []) (hauto : ¬ o.auto) :
      PathsError t o (.config "no rule sets given; pass rule-set paths or use --auto")
  | notFile {before after : List FilePath} {p : FilePath} (h : o.rulePaths = before ++ p :: after)
      (hbefore : ∀ q ∈ before, t.isFile q) (hp : ¬ t.isFile p) : PathsError t o (.ruleSetNotFound p)

inductive IsWanted (t : FileTree) (o : RunOptions) (c : Config) (names : List String) : Prop
  | given {p : FilePath} (hp : p ∈ o.rulePaths) (h : t.canonicalNames p = .ok names)
  | kept (hauto : o.auto) (h : Discovery.IsDocument t (o.base.join c.domainsDir) names)

/-- The paths begin with those given, and exactly one of them leads to each document that is wanted. -/
structure EachOnce (t : FileTree) (o : RunOptions) (c : Config) (paths : List FilePath) : Prop where
  first : o.rulePaths <+: paths
  apart : paths.Pairwise fun p q => ¬ t.SameFile p q
  once : ∀ names, IsWanted t o c names → ∃! i : Fin paths.length, t.canonicalNames paths[i] = .ok names

def keptPaths (t : FileTree) (o : RunOptions) (c : Config) : List FilePath :=
  if o.auto then Discovery.ruleSetsIn t (o.base.join c.domainsDir) else []

section
variable {t : FileTree} {o : RunOptions} {c : Config} {paths : List FilePath}

theorem find?_notFile {given : List FilePath} {p : FilePath} :
    given.find? (fun p => !t.isFile p) = some p ↔
      ∃ before after, given = before ++ p :: after ∧ (∀ q ∈ before, t.isFile q) ∧ ¬ t.isFile p := by
  rw [List.find?_eq_some_iff_append]
  constructor
  · rintro ⟨hp, before, after, h, hbefore⟩
    exact ⟨before, after, h, by simpa using hbefore, by simpa using hp⟩
  · rintro ⟨before, after, h, hbefore, hp⟩
    exact ⟨by simpa using hp, before, after, h, by simpa using hbefore⟩

theorem ruleSetPaths_eq_error {e : LintError} : ruleSetPaths t o c = .error e ↔ PathsError t o e := by
  unfold ruleSetPaths
  by_cases hnone : o.rulePaths.isEmpty && !o.auto
  · rw [if_pos hnone]
    obtain ⟨hpaths, hauto⟩ : o.rulePaths = [] ∧ o.auto = false := by simpa using hnone
    constructor
    · intro h
      obtain rfl := Except.error.inj h
      exact .noPaths hpaths (by simp [hauto])
    · intro h
      cases h with
      | noPaths => rfl
      | notFile h => simp [hpaths] at h
  · rw [if_neg hnone]
    constructor
    · intro h
      split at h
      · rename_i p hfind
        obtain rfl := Except.error.inj h
        obtain ⟨before, after, hpaths, hbefore, hp⟩ := find?_notFile.mp hfind
        exact .notFile hpaths hbefore hp
      · cases h
    · intro h
      cases h with
      | noPaths h hauto => exact absurd (by simp [h, hauto]) hnone
      | notFile h hbefore hp => rw [find?_notFile.mpr ⟨_, _, h, hbefore, hp⟩]

theorem of_ruleSetPaths_eq_ok (h : ruleSetPaths t o c = .ok paths) :
    (∀ p ∈ o.rulePaths, t.isFile p) ∧ paths = addPaths t o.rulePaths (keptPaths t o c) := by
  unfold ruleSetPaths at h
  split at h
  · cases h
  · split at h
    · cases h
    · rename_i hfind
      exact ⟨by simpa using hfind, (Except.ok.inj h).symm⟩

theorem leads_of_mem_keptPaths (hwell : t.root.WellNamed) {p : FilePath} (h : p ∈ keptPaths t o c) :
    ∃ names, IsWanted t o c names ∧ t.canonicalNames p = .ok names := by
  unfold keptPaths at h
  split at h
  · rename_i hauto
    obtain ⟨names, hdocument, hnames⟩ := Discovery.isDocument_of_mem hwell h
    exact ⟨names, .kept hauto hdocument, hnames⟩
  · cases h

theorem exists_added (hwell : t.root.WellNamed) (h : ruleSetPaths t o c = .ok paths) :
    ∃ added, paths = o.rulePaths ++ added ∧ Added t o.rulePaths (keptPaths t o c) added := by
  obtain ⟨hfiles, rfl⟩ := of_ruleSetPaths_eq_ok h
  refine addPaths_eq (fun p hp => FileTree.leads_of_isFile (hfiles p hp)) fun p hp => ?_
  obtain ⟨names, _, hnames⟩ := leads_of_mem_keptPaths hwell hp
  exact ⟨names, hnames⟩

theorem leads_iff_isWanted (hwell : t.root.WellNamed) (h : ruleSetPaths t o c = .ok paths) {names : List String} :
    (∃ p ∈ paths, t.canonicalNames p = .ok names) ↔ IsWanted t o c names := by
  obtain ⟨added, rfl, hadded⟩ := exists_added hwell h
  constructor
  · rintro ⟨p, hp, hnames⟩
    rcases List.mem_append.mp hp with hp | hp
    · exact .given hp hnames
    · obtain ⟨names', hwanted, hnames'⟩ := leads_of_mem_keptPaths hwell (hadded.mem p hp)
      obtain rfl := Except.ok.inj (hnames.symm.trans hnames')
      exact hwanted
  · intro hwanted
    cases hwanted with
    | given hp hnames => exact ⟨_, List.mem_append_left added hp, hnames⟩
    | kept hauto hdocument =>
      obtain ⟨p, hp, hnames⟩ := Discovery.exists_mem_of_isDocument hwell hdocument
      have hkept : p ∈ keptPaths t o c := by
        rw [keptPaths, if_pos hauto]
        exact hp
      obtain ⟨q, hq, names', hq', hp'⟩ := hadded.covers p hkept
      obtain rfl := Except.ok.inj (hnames.symm.trans hp')
      exact ⟨q, hq, hq'⟩

theorem existsUnique_of_apart (hapart : paths.Pairwise fun p q => ¬ t.SameFile p q) {names : List String}
    (h : ∃ p ∈ paths, t.canonicalNames p = .ok names) :
    ∃! i : Fin paths.length, t.canonicalNames paths[i] = .ok names := by
  obtain ⟨p, hp, hnames⟩ := h
  obtain ⟨i, hi, rfl⟩ := List.mem_iff_getElem.mp hp
  refine ⟨⟨i, hi⟩, hnames, fun j hj => Fin.ext ?_⟩
  have hlt := List.pairwise_iff_getElem.mp hapart
  rcases Nat.lt_trichotomy j i with h | h | h
  · exact absurd ⟨names, hj, hnames⟩ (hlt j i j.2 hi h)
  · exact h
  · exact absurd ⟨names, hnames, hj⟩ (hlt i j hi j.2 h)

theorem eachOnce_iff (hwell : t.root.WellNamed) (h : ruleSetPaths t o c = .ok paths) :
    EachOnce t o c paths ↔ o.rulePaths.Pairwise fun p q => ¬ t.SameFile p q := by
  obtain ⟨added, hpaths, hadded⟩ := exists_added hwell h
  constructor
  · intro honce
    have hapart := honce.apart
    rw [hpaths] at hapart
    exact (List.pairwise_append.mp hapart).1
  · intro hgiven
    have hapart : paths.Pairwise fun p q => ¬ t.SameFile p q := by
      rw [hpaths]
      exact List.pairwise_append.mpr ⟨hgiven, hadded.apart, hadded.new⟩
    refine ⟨hpaths ▸ List.prefix_append _ _, hapart, fun names hwanted => ?_⟩
    exact existsUnique_of_apart hapart ((leads_iff_isWanted hwell h).mpr hwanted)

end

/-- A run has its paths unless there are none to have or a path that is given is not one to a file; the error
names the first such path. The paths begin with those given, each document that is wanted is at the end of one
of them and no path that is added leads to where another one leads. So exactly one leads to each document unless
two of the paths given lead to one file. -/
theorem ruleSetPaths_leadTo {t : FileTree} (hwell : t.root.WellNamed) (o : RunOptions) (c : Config) :
    (∀ e, ruleSetPaths t o c = .error e ↔ PathsError t o e) ∧
    ∀ paths, ruleSetPaths t o c = .ok paths →
      (∃ added, paths = o.rulePaths ++ added ∧ (added.Pairwise fun p q => ¬ t.SameFile p q) ∧
        ∀ p ∈ o.rulePaths, ∀ q ∈ added, ¬ t.SameFile p q) ∧
      (∀ names, (∃ p ∈ paths, t.canonicalNames p = .ok names) ↔ IsWanted t o c names) ∧
      (EachOnce t o c paths ↔ o.rulePaths.Pairwise fun p q => ¬ t.SameFile p q) := by
  refine ⟨fun e => ruleSetPaths_eq_error, fun paths h => ⟨?_, ?_, eachOnce_iff hwell h⟩⟩
  · obtain ⟨added, hpaths, hadded⟩ := exists_added hwell h
    exact ⟨added, hpaths, hadded.apart, hadded.new⟩
  · exact fun names => leads_iff_isWanted hwell h

/-- A directory with two documents, of which one is also given by a path with a detour. -/
def keptDocuments : FileTree :=
  ⟨.dir [("d", .dir [("a.rules.json", .file (.text "")), ("b.rules.json", .file (.text ""))])], []⟩

def keptOptions : RunOptions := ⟨[⟨"d/../d/b.rules.json"⟩], true, ⟨"/"⟩, none, none⟩

def keptConfig : Config := { Config.default with domainsDir := ⟨"d"⟩ }

theorem paths_keptDocuments : ruleSetPaths keptDocuments keptOptions keptConfig =
    .ok [⟨"d/../d/b.rules.json"⟩, ⟨"/d/a.rules.json"⟩] := by
  have hfile : keptDocuments.isFile ⟨"d/../d/b.rules.json"⟩ := by cbv
  have hdir : (⟨"/"⟩ : FilePath).join keptConfig.domainsDir = ⟨"/d"⟩ := by rfl
  have hfound : Discovery.ruleSetsIn keptDocuments ⟨"/d"⟩ = [⟨"/d/a.rules.json"⟩, ⟨"/d/b.rules.json"⟩] := by
    have hentries : keptDocuments.entries ⟨"/d"⟩ =
        .ok [("a.rules.json", .file (.text "")), ("b.rules.json", .file (.text ""))] := by cbv
    rw [Discovery.ruleSetsIn, hentries]
    rfl
  have hnew : sameFile keptDocuments ⟨"d/../d/b.rules.json"⟩ ⟨"/d/a.rules.json"⟩ = false := by cbv
  have hknown : sameFile keptDocuments ⟨"d/../d/b.rules.json"⟩ ⟨"/d/b.rules.json"⟩ := by cbv
  simp [ruleSetPaths, keptOptions, hfile, hdir, hfound, addPaths, hnew, hknown]

theorem ruleSetPaths_keptDocuments : keptDocuments.root.WellNamed ∧
    ruleSetPaths keptDocuments keptOptions keptConfig = .ok [⟨"d/../d/b.rules.json"⟩, ⟨"/d/a.rules.json"⟩] ∧
    EachOnce keptDocuments keptOptions keptConfig [⟨"d/../d/b.rules.json"⟩, ⟨"/d/a.rules.json"⟩] := by
  have hwell : keptDocuments.root.WellNamed := by
    refine Node.wellNamed_dir (by decide) (by decide) (List.forall_mem_singleton.mpr ?_)
    refine Node.wellNamed_dir (by decide) (by decide) ?_
    simp only [List.forall_mem_cons]
    exact ⟨Node.wellNamed_file _, Node.wellNamed_file _, nofun⟩
  obtain ⟨-, hok⟩ := ruleSetPaths_leadTo hwell keptOptions keptConfig
  obtain ⟨-, -, honce⟩ := hok _ paths_keptDocuments
  exact ⟨hwell, paths_keptDocuments, honce.mpr (List.pairwise_singleton _ _)⟩

/-- Two spellings of one path are both kept, and the document is linted twice. -/
theorem document_linted_twice : twoDocuments.root.WellNamed ∧
    ruleSetPaths twoDocuments { plainOptions with rulePaths := [⟨"r"⟩, ⟨"./r"⟩] } Config.default =
      .ok [⟨"r"⟩, ⟨"./r"⟩] ∧
    ¬ EachOnce twoDocuments { plainOptions with rulePaths := [⟨"r"⟩, ⟨"./r"⟩] } Config.default
      [⟨"r"⟩, ⟨"./r"⟩] := by
  refine ⟨?_, ?_, fun honce => ?_⟩
  · refine Node.wellNamed_dir (by decide) (by decide) ?_
    simp only [List.forall_mem_cons]
    exact ⟨Node.wellNamed_file _, Node.wellNamed_file _, Node.wellNamed_file _, nofun⟩
  · cbv
  · have hsame : twoDocuments.SameFile ⟨"r"⟩ ⟨"./r"⟩ := ⟨["r"], by cbv, by cbv⟩
    exact List.rel_of_pairwise_cons honce.apart (List.mem_singleton_self _) hsame

end Linting

end RuleLint
