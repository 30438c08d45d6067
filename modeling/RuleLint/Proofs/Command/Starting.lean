import Mathlib.Data.List.Permutation
import RuleLint.Command.Program
import RuleLint.Proofs.FileTree.Directories

/-!
# Starting a project

The first configuration is written before the directory of rule documents is made, and it stays if the directory cannot
be made (`Unfinished`). So a project is complete (`Complete`), or left with nothing but its configuration, or nothing is
changed (`startProject_outcome`). A later start is refused then as in any project that has a configuration.
-/

namespace RuleLint.Command

open FileTree

def outerDir : FilePath := ⟨".flight"⟩

theorem join_domainsDir (dir : FilePath) :
    dir.join Discovery.domainsDir = (dir.join outerDir).join ⟨"domains"⟩ := by
  rw [FilePath.join_join (by decide) (by decide)]
  have hjoin : outerDir.join ⟨"domains"⟩ = Discovery.domainsDir := by decide
  rw [hjoin]

theorem isName_fileName : IsName Config.fileName.text := by decide

theorem isName_outerDir : IsName outerDir.text := by decide

/-! ## Trees of projects -/

/-- A tree in which a project has its first configuration and some directories more. The path of the configuration may
lead to a file elsewhere. -/
structure Configured (t t' : FileTree) (dir : FilePath) (names : List String) (made : List (List String)) : Prop where
  current : t'.current = t.current
  leads : t'.canonicalNames (dir.join Config.fileName) = .ok names
  config : t'.root.at? names = some (.file (.text Config.starter))
  replaced : ∀ n, t.root.at? names = some n → n.IsFile
  new : ∀ d ∈ made, t.root.at? d = none ∧ (∃ entries, t'.root.at? d = some (.dir entries)) ∧
    (t'.canonicalNames (dir.join outerDir) = .ok d ∨ t'.canonicalNames (dir.join Discovery.domainsDir) = .ok d)
  other : ∀ others, others ≠ names → others ∉ made →
    (t'.root.at? others).map Node.kind = (t.root.at? others).map Node.kind

section
variable {t t₁ t' : FileTree} {dir : FilePath} {names d : List String} {made : List (List String)}

theorem Configured.keeps (h : Configured t t' dir names made) : t.root.Keeps t'.root := by
  intro others n hn
  by_cases hnames : others = names
  · subst hnames
    exact ⟨_, h.config, .inr ⟨h.replaced n hn, _, rfl⟩⟩
  · have hmade : others ∉ made := by
      intro hmem
      rw [(h.new others hmem).1] at hn
      cases hn
    have hother := h.other others hnames hmade
    rw [hn, Option.map_some, Option.map_eq_some_iff] at hother
    obtain ⟨m, hm, hkind⟩ := hother
    exact ⟨m, hm, .inl hkind⟩

theorem Configured.readText (h : Configured t t' dir names made) :
    t'.readText (dir.join Config.fileName) = .ok Config.starter := by
  have hnode : t'.node (dir.join Config.fileName) = .ok (.file (.text Config.starter)) :=
    node_eq_ok.mpr ⟨names, h.leads, h.config⟩
  rw [FileTree.readText, hnode]
  rfl

theorem configured_of_written (h : Written t t' (dir.join Config.fileName) Config.starter names) :
    Configured t t' dir names [] where
  current := h.current
  leads := canonicalNames_eq_ok.mpr h.locate
  config := h.nodes.self
  replaced := h.nodes.before
  new := nofun
  other := fun others hne _ => h.nodes.other others hne

theorem Configured.madeDir (h : Configured t t₁ dir names made) {p : FilePath}
    (hp : p = dir.join outerDir ∨ p = dir.join Discovery.domainsDir) (hmade : MadeDir t₁ t' p d) :
    Configured t t' dir names (d :: made) where
  current := hmade.current.trans h.current
  leads := canonicalNames_keeps hmade.keeps hmade.current h.leads
  config := by
    have hne : names ≠ d := by
      rintro rfl
      have hconfig := h.config
      rw [hmade.before] at hconfig
      cases hconfig
    exact hmade.nodes.at?_file hne h.config
  replaced := h.replaced
  new := by
    intro d' hd'
    rcases List.mem_cons.mp hd' with rfl | hd'
    · refine ⟨h.keeps.at?_eq_none hmade.before, ⟨[], hmade.nodes.self⟩, ?_⟩
      rcases hp with rfl | rfl
      · exact .inl hmade.leads
      · exact .inr hmade.leads
    · obtain ⟨hbefore, ⟨entries, hdir⟩, hleads⟩ := h.new d' hd'
      exact ⟨hbefore, hmade.keeps.exists_dir hdir, hleads.imp (canonicalNames_keeps hmade.keeps hmade.current)
        (canonicalNames_keeps hmade.keeps hmade.current)⟩
  other := by
    intro others hnames hmade'
    obtain ⟨hd, hrest⟩ := not_or.mp (mt List.mem_cons.mpr hmade')
    rw [hmade.nodes.other others hd, h.other others hnames hrest]

end

structure Complete (t t' : FileTree) (dir : FilePath) (names : List String) (made : List (List String)) : Prop
    extends Configured t t' dir names made where
  domains : t'.isDir (dir.join Discovery.domainsDir)

/-- A project that has its first configuration but no directory of rule documents, since this cannot be made. There is
no other change. -/
structure Unfinished (t t' : FileTree) (dir : FilePath) (names : List String) (e : FileError) : Prop where
  config : Written t t' (dir.join Config.fileName) Config.starter names
  directories : t'.makeInTurn (pathsTo (dir.join Discovery.domainsDir)) = (t', some e)
  domains : t'.isDir (dir.join Discovery.domainsDir) = false

def alreadyThere : LintError :=
  .config (Config.fileName.text ++ " already exists. Use --force to overwrite.")

/-- What a start comes to: the changes that are made, the tree then, and the error. -/
inductive Starts (t : FileTree) (dir : FilePath) (force : Bool) : List Change × FileTree × Option LintError → Prop
  | kept (there : t.isThere (dir.join Config.fileName)) (noForce : force = false) :
      Starts t dir force ([], t, some alreadyThere)
  | unwritable {e : FileError} (go : t.isThere (dir.join Config.fileName) → force)
      (noRoom : ¬ t.CanWrite (dir.join Config.fileName)) : Starts t dir force ([], t, some (.file e))
  | unfinished {t' : FileTree} {names : List String} {e : FileError} (go : t.isThere (dir.join Config.fileName) → force)
      (tree : Unfinished t t' dir names e) :
      Starts t dir force ([.write (dir.join Config.fileName) Config.starter], t', some (.file e))
  | complete {t' : FileTree} {names : List String} {made : List (List String)}
      (go : t.isThere (dir.join Config.fileName) → force) (tree : Complete t t' dir names made) :
      Starts t dir force
        ([.write (dir.join Config.fileName) Config.starter, .makeDirs (dir.join Discovery.domainsDir)], t', none)

/-! ## Starting -/

section
variable {t t₁ t' : FileTree} {dir : FilePath} {force : Bool} {e : Option FileError}
  {error : Option LintError}

theorem startProject_refused (h : t.isThere (dir.join Config.fileName)) :
    startProject t dir false = ([], t, some alreadyThere) := by
  rw [startProject]
  exact if_pos (by simp [h])

theorem startProject_eq (h : t.isThere (dir.join Config.fileName) → force) : startProject t dir force =
    let (made, t', e) := t.applyAll [.write (dir.join Config.fileName) Config.starter,
      .makeDirs (dir.join Discovery.domainsDir)]
    (made, t', e.map .file) := by
  rw [startProject]
  exact if_neg (by cases force <;> simp_all)

theorem startProject_of_error (h : t.isThere (dir.join Config.fileName) → force) {e : FileError}
    (hw : t.write (dir.join Config.fileName) Config.starter = .error e) :
    startProject t dir force = ([], t, some (.file e)) := by
  rw [startProject_eq h, applyAll, FileTree.apply, hw]
  rfl

theorem startProject_of_ok (h : t.isThere (dir.join Config.fileName) → force)
    (hw : t.write (dir.join Config.fileName) Config.starter = .ok t₁)
    (hmade : t₁.makeInTurn (pathsTo (dir.join Discovery.domainsDir)) = (t', e)) :
    startProject t dir force =
      match e with
      | none =>
        ([.write (dir.join Config.fileName) Config.starter, .makeDirs (dir.join Discovery.domainsDir)], t', none)
      | some e => ([.write (dir.join Config.fileName) Config.starter], t₁, some (.file e)) := by
  rw [startProject_eq h]
  simp only [applyAll, FileTree.apply, hw, makeFirst_eq, hmade]
  cases e <;> rfl

/-- With a configuration written, the directories are all there in the end or nothing more is changed. -/
theorem started_or_unchanged {names : List String}
    (hw : Written t t₁ (dir.join Config.fileName) Config.starter names)
    (h : t₁.makeInTurn (pathsTo (dir.join Discovery.domainsDir)) = (t', e)) :
    e = none ∧ (∃ made, Complete t t' dir names made) ∨
      e ≠ none ∧ t' = t₁ ∧ t₁.isDir (dir.join Discovery.domainsDir) = false := by
  have hconfigured := configured_of_written hw
  have hfirst : t₁.makeDir (dir.join outerDir) ≠ .error .notFound :=
    makeDir_join_ne_notFound isName_fileName isName_outerDir hw.locate
  -- the configuration has been written, so the directory it is in is there and at most two directories are missing
  have hlast := join_domainsDir dir
  rw [hlast] at h ⊢
  rcases makeInTurn_join (dir.endsWith_join isName_outerDir) (by decide) hfirst h with
    ⟨rfl, hdir⟩ | ⟨rfl, hmade | ⟨t₂, houter, hmade⟩⟩
  · by_cases he : e = none
    · exact .inl ⟨he, [], hconfigured, hlast ▸ hdir.mp he⟩
    · exact .inr ⟨he, rfl, Bool.eq_false_iff.mpr (mt hdir.mpr he)⟩
  · obtain ⟨d, hd⟩ := madeDir_of_makeDir hmade
    exact .inl ⟨rfl, [d], hconfigured.madeDir (.inr hlast.symm) hd, hlast ▸ hd.isDir⟩
  · obtain ⟨d₁, hd₁⟩ := madeDir_of_makeDir houter
    obtain ⟨d₂, hd₂⟩ := madeDir_of_makeDir hmade
    exact .inl ⟨rfl, [d₂, d₁], (hconfigured.madeDir (.inl rfl) hd₁).madeDir (.inr hlast.symm) hd₂, hlast ▸ hd₂.isDir⟩

theorem starts (t : FileTree) (dir : FilePath) (force : Bool) : Starts t dir force (startProject t dir force) := by
  by_cases hgo : t.isThere (dir.join Config.fileName) → force
  · by_cases hcan : t.CanWrite (dir.join Config.fileName)
    · obtain ⟨t₁, hw⟩ := exists_write_iff.mpr hcan
      obtain ⟨names, hwritten⟩ := written_of_write hw
      cases hmade : t₁.makeInTurn (pathsTo (dir.join Discovery.domainsDir)) with
      | mk t' e =>
        rw [startProject_of_ok hgo hw hmade]
        rcases started_or_unchanged hwritten hmade with ⟨rfl, made, hstarted⟩ | ⟨he, rfl, hmissing⟩
        · exact .complete hgo hstarted
        · obtain ⟨e, rfl⟩ := Option.ne_none_iff_exists'.mp he
          exact .unfinished hgo ⟨hwritten, hmade, hmissing⟩
    · obtain ⟨e, hw⟩ := exists_write_error hcan Config.starter
      rw [startProject_of_error hgo hw]
      exact .unwritable hgo hcan
  · obtain ⟨hthere, hforce⟩ := Classical.not_imp.mp hgo
    obtain rfl := Bool.eq_false_iff.mpr hforce
    rw [startProject_refused hthere]
    exact .kept hthere rfl

theorem Unfinished.isThere {names : List String} {error : FileError} (h : Unfinished t t' dir names error) :
    t'.isThere (dir.join Config.fileName) := by
  have hnode : t'.node (dir.join Config.fileName) = .ok (.file (.text Config.starter)) :=
    node_eq_ok.mpr ⟨names, canonicalNames_eq_ok.mpr h.config.locate, h.config.nodes.self⟩
  rw [FileTree.isThere, hnode]

/-- A start makes a project complete or ends in an error. With an error nothing is changed, unless a configuration could
be written and the directory of rule documents could not be made: then the configuration is all that is changed, and a
start without force is refused from then on. Without force a configuration that is there is kept. -/
theorem startProject_outcome {changes : List Change} (h : startProject t dir force = (changes, t', error)) :
    (error = none → t'.readText (dir.join Config.fileName) = .ok Config.starter ∧
        t'.isDir (dir.join Discovery.domainsDir) ∧ ∃ names made, Configured t t' dir names made) ∧
      (error ≠ none →
        (t' = t ∧ changes = [] ∧
          (t.isThere (dir.join Config.fileName) ∧ force = false ∨ ¬ t.CanWrite (dir.join Config.fileName))) ∨
        ∃ names e, Unfinished t t' dir names e ∧ error = some (.file e) ∧
          changes = [.write (dir.join Config.fileName) Config.starter] ∧
          t'.readText (dir.join Config.fileName) = .ok Config.starter ∧
          startProject t' dir false = ([], t', some alreadyThere)) ∧
      (t.isThere (dir.join Config.fileName) → force = false → t' = t ∧ error = some alreadyThere) := by
  have hstarts := starts t dir force
  rw [h] at hstarts
  have hkept : (t.isThere (dir.join Config.fileName) → force) → t.isThere (dir.join Config.fileName) →
      force ≠ false := fun hgo hthere hforce => absurd (hforce ▸ hgo hthere) nofun
  cases hstarts with
  | kept there noForce => exact ⟨nofun, fun _ => .inl ⟨rfl, rfl, .inl ⟨there, noForce⟩⟩, fun _ _ => ⟨rfl, rfl⟩⟩
  | unwritable go noRoom =>
    exact ⟨nofun, fun _ => .inl ⟨rfl, rfl, .inr noRoom⟩, fun there noForce => absurd noForce (hkept go there)⟩
  | unfinished go tree =>
    exact ⟨nofun, fun _ => .inr ⟨_, _, tree, rfl, rfl, tree.config.readText, startProject_refused tree.isThere⟩,
      fun there noForce => absurd noForce (hkept go there)⟩
  | complete go tree =>
    exact ⟨fun _ => ⟨tree.readText, tree.domains, _, _, tree.toConfigured⟩, fun hne => absurd rfl hne,
      fun there noForce => absurd noForce (hkept go there)⟩

end

/-! ## Two trees -/

def linked (notes : String) : FileTree :=
  ⟨.dir [(".flight-lint.toml", .link ⟨"notes.txt"⟩), ("notes.txt", .file (.text notes))], []⟩

def linkedStarted (notes : String) : FileTree :=
  ⟨.dir [(".flight", .dir [("domains", .dir [])]), (".flight-lint.toml", .link ⟨"notes.txt"⟩),
    ("notes.txt", .file (.text notes))], []⟩

theorem path_here : here.join Config.fileName = ⟨"./.flight-lint.toml"⟩ := by decide

theorem pathsTo_here : pathsTo (here.join Discovery.domainsDir) = [⟨"./.flight/domains"⟩, ⟨"./.flight"⟩, ⟨"."⟩] := by
  decide

theorem startProject_linked (notes : String) : startProject (linked notes) here true =
    ([.write (here.join Config.fileName) Config.starter, .makeDirs (here.join Discovery.domainsDir)],
      linkedStarted Config.starter, none) := by
  have hw : ∀ text, (linked notes).write ⟨"./.flight-lint.toml"⟩ text = .ok (linked text) := by
    intro text
    cbv
  have hmade : ∀ text, (linked text).makeInTurn [⟨"./.flight/domains"⟩, ⟨"./.flight"⟩, ⟨"."⟩] =
      (linkedStarted text, none) := by
    intro text
    cbv
  exact startProject_of_ok (fun _ => rfl) (path_here ▸ hw Config.starter) (pathsTo_here ▸ hmade Config.starter)

theorem startProject_outcome_linked : ∃ changes t', startProject (linked "mine") here true = (changes, t', none) ∧
    t'.readText (here.join Config.fileName) = .ok Config.starter ∧ t'.isDir (here.join Discovery.domainsDir) ∧
    ∃ names made, Configured (linked "mine") t' here names made :=
  ⟨_, _, startProject_linked "mine", (startProject_outcome (startProject_linked "mine")).1 rfl⟩

def blocked : FileTree := ⟨.dir [(".flight", .file (.text ""))], []⟩

def blockedConfigured (config : String) : FileTree :=
  ⟨.dir [(".flight", .file (.text "")), (".flight-lint.toml", .file (.text config))], []⟩

theorem startProject_blocked_here : startProject blocked here false =
    ([.write (here.join Config.fileName) Config.starter], blockedConfigured Config.starter,
      some (.file .notDirectory)) := by
  have hthere : blocked.isThere ⟨"./.flight-lint.toml"⟩ = false := by cbv
  have hw : ∀ text, blocked.write ⟨"./.flight-lint.toml"⟩ text = .ok (blockedConfigured text) := by
    intro text
    cbv
  have hmade : ∀ text, (blockedConfigured text).makeInTurn [⟨"./.flight/domains"⟩, ⟨"./.flight"⟩, ⟨"."⟩] =
      (blockedConfigured text, some .notDirectory) := by
    intro text
    cbv
  refine startProject_of_ok ?_ (path_here ▸ hw Config.starter) (pathsTo_here ▸ hmade Config.starter)
  rw [path_here, hthere]
  exact fun h => absurd h Bool.false_ne_true

/-- An error can leave the configuration written, and a start that is complete can have replaced another file. -/
theorem startProject_not_atomic :
    (∃ changes t' error, startProject blocked here false = (changes, t', some error) ∧ t' ≠ blocked) ∧
      ∃ changes t', startProject (linked "mine") here true = (changes, t', none) ∧
        t'.readText ⟨"notes.txt"⟩ ≠ (linked "mine").readText ⟨"notes.txt"⟩ := by
  refine ⟨⟨_, _, _, startProject_blocked_here, fun heq => ?_⟩, _, _, startProject_linked "mine", fun heq => ?_⟩
  · have hthere : ∀ text, (blockedConfigured text).isThere ⟨".flight-lint.toml"⟩ = true := by
      intro text
      cbv
    have hmissing : blocked.isThere ⟨".flight-lint.toml"⟩ = false := by cbv
    rw [← heq, hthere] at hmissing
    cases hmissing
  · have hread : ∀ text, (linked text).readText ⟨"notes.txt"⟩ = .ok text := by
      intro text
      cbv
    have hread' : ∀ text, (linkedStarted text).readText ⟨"notes.txt"⟩ = .ok text := by
      intro text
      cbv
    rw [hread, hread', Except.ok.injEq] at heq
    exact absurd heq (by decide +kernel)

end RuleLint.Command
