import RuleLint.FileTree.Change
import RuleLint.Proofs.FilePath.Resolution
import RuleLint.Proofs.FileTree.Below

/-!
# Paths written from components

The paths that a path goes through are written from its components, so without the empty parts and the `.` that it may
have been written with. As a step such a part stays where it is, which makes no difference as long as another step
follows (`follow_filter`). So a path whose last part is a name leads to the same place when it is written from its
components (`locate_ofComponents`).
-/

namespace RuleLint

def Component.step : Component → FileTree.Step
  | root => .top
  | here => .stay
  | parent => .up
  | name s => .down (String.ofList s)

namespace FileTree

/-! ## Steps that stay -/

section
variable {root : Node} {final : Bool} {step : Step}

theorem follow_eq_error {at_ : List String} (h : ∀ entries, root.at? at_ ≠ some (.dir entries)) (links : Nat)
    (todo : List Step) (hstep : step ≠ .top) :
    follow root final links at_ (step :: todo) = .error .notDirectory := by
  rw [follow]
  · split
    · exact absurd ‹_› (h _)
    · rfl
  · exact hstep

theorem follow_drop_stay (hstep : step ≠ .top) (links : Nat) (at_ : List String) (before after : List Step) :
    follow root final links at_ (before ++ .stay :: step :: after) =
      follow root final links at_ (before ++ step :: after) := by
  -- a link that is followed has its steps put before the others, so the links that are left decrease first
  by_cases hdir : ∃ entries, root.at? at_ = some (.dir entries)
  · obtain ⟨entries, hdir⟩ := hdir
    match before with
    | [] => simp only [List.nil_append, follow, hdir]
    | .top :: before =>
      simp only [List.cons_append, follow]
      exact follow_drop_stay hstep links [] before after
    | .stay :: before =>
      simp only [List.cons_append, follow, hdir]
      exact follow_drop_stay hstep links at_ before after
    | .up :: before =>
      simp only [List.cons_append, follow, hdir]
      exact follow_drop_stay hstep links at_.dropLast before after
    | .down name :: before =>
      have hmore : (before ++ .stay :: step :: after).isEmpty = false := by simp
      have hmore' : (before ++ step :: after).isEmpty = false := by simp
      cases hname : Node.child? entries name with
      | none => simp [follow, hdir, hname]
      | some n =>
        cases n with
        | file _ | dir _ =>
          simp only [List.cons_append, follow, hdir, hname]
          exact follow_drop_stay hstep links (at_ ++ [name]) before after
        | link target =>
          cases links with
          | zero => simp [follow, hdir, hname, hmore, hmore']
          | succ links =>
            have ih := follow_drop_stay hstep links at_ (steps target ++ before) after
            simp only [List.append_assoc] at ih
            simp [follow, hdir, hname, hmore, hmore', ih]
  · have hdir' : ∀ entries, root.at? at_ ≠ some (.dir entries) := fun entries h => hdir ⟨entries, h⟩
    match before with
    | [] =>
      rw [List.nil_append, List.nil_append, follow_eq_error hdir' links _ hstep, follow_eq_error hdir']
      exact nofun
    | .top :: before =>
      simp only [List.cons_append, follow]
      exact follow_drop_stay hstep links [] before after
    | .stay :: before | .up :: before | .down name :: before =>
      rw [List.cons_append, List.cons_append, follow_eq_error hdir', follow_eq_error hdir'] <;> exact nofun
termination_by (links, before.length)

/-- Steps that stay make no difference before another step. -/
theorem follow_filter {todo after : List Step} (htodo : ∀ s ∈ todo ++ after, s ≠ .top) (hafter : after ≠ [])
    (links : Nat) (at_ : List String) (before : List Step) :
    follow root final links at_ (before ++ (todo.filter (· ≠ .stay) ++ after)) =
      follow root final links at_ (before ++ (todo ++ after)) := by
  induction todo generalizing before with
  | nil => rfl
  | cons s todo ih =>
    obtain ⟨-, hrest⟩ := List.forall_mem_cons.mp htodo
    by_cases hs : s = .stay
    · subst hs
      obtain ⟨next, more, hnext⟩ := List.exists_cons_of_ne_nil (List.append_ne_nil_of_right_ne_nil todo hafter)
      have hne : next ≠ .top := hrest next (by simp [hnext])
      rw [List.filter_cons_of_neg (by simp), ih hrest, List.cons_append, hnext, follow_drop_stay hne]
    · have hinner := ih hrest (before ++ [s])
      rw [List.filter_cons_of_pos (by simpa using hs)]
      simpa using hinner

/-- Where a path leads that ends with a name depends on its other steps only if they do not stay. -/
theorem follow_eq_of_filter_eq {a b : List Step} (ha : ∀ s ∈ a.tail, s ≠ .top) (hb : ∀ s ∈ b.tail, s ≠ .top)
    (h : a.filter (· ≠ .stay) = b.filter (· ≠ .stay)) (links : Nat) (at_ : List String) (name : String) :
    follow root final links at_ (a ++ [.down name]) = follow root final links at_ (b ++ [.down name]) := by
  have hfilter : ∀ todo : List Step, (∀ s ∈ todo.tail, s ≠ .top) →
      follow root final links at_ (todo.filter (· ≠ .stay) ++ [.down name]) =
        follow root final links at_ (todo ++ [.down name]) := by
    intro todo htodo
    cases todo with
    | nil => rfl
    | cons s todo =>
      have hrest : ∀ s ∈ todo ++ [Step.down name], s ≠ .top :=
        List.forall_mem_append.mpr ⟨htodo, List.forall_mem_singleton.mpr nofun⟩
      by_cases hs : s = .top
      · subst hs
        rw [List.filter_cons_of_pos (by decide), List.cons_append, List.cons_append, follow, follow]
        exact follow_filter hrest (by simp) links [] []
      · have hall : ∀ s' ∈ s :: todo ++ [Step.down name], s' ≠ .top := List.forall_mem_cons.mpr ⟨hs, hrest⟩
        exact follow_filter hall (by simp) links at_ []
  rw [← hfilter a ha, h, hfilter b hb]

end

/-! ## Steps of components -/

theorem steps_eq (p : FilePath) : steps p =
    match FilePath.splitOn '/' p.text.toList with
    | [] :: parts => .top :: parts.map stepOf
    | parts => parts.map stepOf := rfl

theorem ne_top_of_mem_tail_steps {p : FilePath} : ∀ step ∈ (steps p).tail, step ≠ .top := by
  intro step hstep
  rw [steps_eq] at hstep
  have hmap : ∃ parts : List (List Char), step ∈ parts.map stepOf := by
    split at hstep
    · exact ⟨_, hstep⟩
    · exact ⟨_, List.mem_of_mem_tail hstep⟩
  obtain ⟨parts, hmap⟩ := hmap
  obtain ⟨part, -, rfl⟩ := List.mem_map.mp hmap
  exact stepOf_ne_top part

/-- A part that is no component is a step that stays. -/
theorem stepOf_eq (part : List Char) : stepOf part = (FilePath.componentOf part).elim .stay Component.step := by
  by_cases hstay : part = [] ∨ part = ['.']
  · rcases hstay with rfl | rfl <;> rfl
  by_cases hup : part = ['.', '.']
  · rw [hup]
    rfl
  obtain ⟨hnil, hhere⟩ := not_or.mp hstay
  rw [stepOf, if_neg hstay, if_neg hup]
  simp [FilePath.componentOf, Component.step]

theorem step_ne_stay {part : List Char} {c : Component} (h : FilePath.componentOf part = some c) :
    c.step ≠ .stay := by
  unfold FilePath.componentOf at h
  split at h <;> cases h <;> exact nofun

theorem filter_map_stepOf (parts : List (List Char)) :
    (parts.map stepOf).filter (· ≠ .stay) = (parts.filterMap FilePath.componentOf).map Component.step := by
  induction parts with
  | nil => rfl
  | cons part parts ih =>
    rw [List.map_cons, List.filterMap_cons, stepOf_eq]
    cases hpart : FilePath.componentOf part with
    | none => simpa using ih
    | some c =>
      rw [Option.elim_some, List.filter_cons_of_pos (by simpa using step_ne_stay hpart), ih]
      rfl

end FileTree

namespace FilePath

/-- The component that a path has because of the way it starts. -/
def start (p : FilePath) : List Component :=
  if p.isAbsolute then [.root] else if (splitOn '/' p.text.toList).head? = some ['.'] then [.here] else []

theorem components_eq (p : FilePath) :
    p.components = p.start ++ (splitOn '/' p.text.toList).filterMap componentOf := by
  unfold components start
  dsimp only
  split
  · rfl
  · split <;> rfl

/-- What a path loses when it is written from its components are steps that stay. -/
theorem filter_steps {p : FilePath} (h : p.text ≠ "") :
    (FileTree.steps p).filter (· ≠ .stay) = (p.components.map Component.step).filter (· ≠ .stay) := by
  have hparts := FileTree.filter_map_stepOf (splitOn '/' p.text.toList)
  obtain ⟨c, cs, hcs⟩ := List.exists_cons_of_ne_nil fun hnil => h (String.toList_eq_nil_iff.mp hnil)
  rw [components_eq, List.map_append, List.filter_append, ← hparts, List.filter_filter, FileTree.steps_eq]
  by_cases hc : c = '/'
  · have habsolute : p.isAbsolute := by simp [isAbsolute, hcs, hc]
    have hsplit : splitOn '/' p.text.toList = [] :: splitOn '/' cs := by rw [hcs, splitOn, if_pos hc]
    have hempty : FileTree.stepOf [] = .stay := rfl
    rw [hsplit, start, if_pos habsolute]
    simp [Component.step, hempty]
  · have hrelative : ¬ p.isAbsolute := by simp [isAbsolute, hcs, hc]
    have hfirst : ∀ parts, splitOn '/' p.text.toList ≠ [] :: parts := by
      intro parts hsplit
      rw [hcs, splitOn, if_neg hc] at hsplit
      split at hsplit <;> cases hsplit
    have hstart : (p.start.map Component.step).filter (· ≠ .stay) = [] := by
      rw [start, if_neg hrelative]
      split <;> rfl
    rw [hstart, List.nil_append]
    split
    · exact absurd ‹_› (hfirst _)
    · simp

/-! ## Writing components -/

/-- The path that is written from parts, of which the first can be the separator. -/
def ofParts : List String → FilePath
  | "/" :: names => ⟨"/" ++ "/".intercalate names⟩
  | names => ⟨"/".intercalate names⟩

def ofComponents (components : List Component) : FilePath :=
  ofParts ((components.map Component.text).map String.ofList)

section
variable {parts : List (List Char)} (hne : parts ≠ []) (hsep : ∀ part ∈ parts, '/' ∉ part)
include hne hsep

theorem splitOn_intercalate_ofList :
    splitOn '/' ("/".intercalate (parts.map String.ofList)).toList = parts := by
  rw [String.toList_intercalate, List.map_map]
  have hid : String.toList ∘ String.ofList = id := funext fun cs => String.toList_ofList
  rw [hid, List.map_id]
  exact splitOn_intercalate hne hsep

theorem steps_absolute :
    FileTree.steps ⟨"/" ++ "/".intercalate (parts.map String.ofList)⟩ = .top :: parts.map FileTree.stepOf := by
  have hparts := splitOn_intercalate_ofList hne hsep
  rw [FileTree.steps_eq, String.toList_append]
  have hslash : "/".toList = ['/'] := rfl
  rw [hslash, List.singleton_append, splitOn, if_pos rfl, hparts]

theorem steps_relative (hfirst : [] ∉ parts) :
    FileTree.steps ⟨"/".intercalate (parts.map String.ofList)⟩ = parts.map FileTree.stepOf := by
  rw [FileTree.steps_eq, splitOn_intercalate_ofList hne hsep]
  split
  · exact absurd List.mem_cons_self hfirst
  · rfl

end

/-! ## Components of paths -/

theorem text_of_componentOf {part : List Char} {c : Component} (h : componentOf part = some c) : c.text = part := by
  unfold componentOf at h
  split at h <;> cases h <;> rfl

section
variable {p : FilePath} {c : Component}

theorem mem_splitOn_of_mem_filterMap (h : c ∈ (splitOn '/' p.text.toList).filterMap componentOf) :
    c.text ∈ splitOn '/' p.text.toList ∧ componentOf c.text = some c := by
  obtain ⟨part, hpart, hc⟩ := List.mem_filterMap.mp h
  obtain rfl := text_of_componentOf hc
  exact ⟨hpart, hc⟩

/-- A component of a path but the root is written as a part that stands for it. -/
theorem of_mem_components (h : c ∈ p.components) (hroot : c ≠ .root) :
    '/' ∉ c.text ∧ c.text ≠ [] ∧ FileTree.stepOf c.text = c.step := by
  rw [components_eq, List.mem_append] at h
  rcases h with h | h
  · have hhere : c = .here := by
      unfold start at h
      split at h
      · exact absurd (List.mem_singleton.mp h) hroot
      · split at h
        · exact List.mem_singleton.mp h
        · cases h
    rw [hhere]
    decide
  · obtain ⟨hmem, hc⟩ := mem_splitOn_of_mem_filterMap h
    refine ⟨not_mem_of_mem_splitOn hmem, ?_, ?_⟩
    · intro hnil
      rw [hnil] at hc
      cases hc
    · rw [FileTree.stepOf_eq, hc, Option.elim_some]

theorem components_cases (p : FilePath) :
    (∃ rest, p.components = .root :: rest ∧ .root ∉ rest) ∨ .root ∉ p.components := by
  have hroot : .root ∉ (splitOn '/' p.text.toList).filterMap componentOf := by
    intro h
    cases (mem_splitOn_of_mem_filterMap h).2
  rw [components_eq, start]
  split
  · exact .inl ⟨_, rfl, hroot⟩
  · split <;> exact .inr (by simpa using hroot)

theorem ofComponents_of_not_mem {components : List Component} (h : ∀ c ∈ components, '/' ∉ c.text) :
    ofComponents components = ⟨"/".intercalate ((components.map Component.text).map String.ofList)⟩ := by
  unfold ofComponents ofParts
  split
  · rename_i names hnames
    obtain ⟨c, hc, htext⟩ : ∃ c ∈ components, String.ofList c.text = "/" := by
      have hmem : "/" ∈ (components.map Component.text).map String.ofList := hnames ▸ List.mem_cons_self
      simpa using hmem
    have hslash : c.text = ['/'] := by rw [← String.toList_ofList (l := c.text), htext]; rfl
    exact absurd (hslash ▸ List.mem_cons_self) (h c hc)
  · rfl

/-- A path that ends with a name is written again step by step. -/
theorem steps_ofComponents {init : List Component} {s : List Char} (h : p.components = init ++ [.name s]) :
    FileTree.steps (ofComponents p.components) = p.components.map Component.step := by
  have hregular : ∀ components ⊆ p.components, .root ∉ components →
      (∀ part ∈ components.map Component.text, '/' ∉ part ∧ part ≠ []) ∧
        (components.map Component.text).map FileTree.stepOf = components.map Component.step := by
    intro components hsub hroot
    have hof : ∀ c ∈ components, _ := fun c hc =>
      of_mem_components (hsub hc) fun heq => hroot (heq ▸ hc)
    refine ⟨List.forall_mem_map.mpr fun c hc => ⟨(hof c hc).1, (hof c hc).2.1⟩, ?_⟩
    rw [List.map_map]
    exact List.map_congr_left fun c hc => (hof c hc).2.2
  rcases components_cases p with ⟨rest, hrest, hroot⟩ | hroot
  · obtain ⟨hparts, hsteps⟩ := hregular rest (by simp [hrest]) hroot
    have hne : rest.map Component.text ≠ [] := by
      intro hnil
      obtain rfl := List.map_eq_nil_iff.mp hnil
      rw [hrest] at h
      cases init with
      | nil => cases h
      | cons c init => cases init <;> cases h
    rw [hrest, List.map_cons, ← hsteps]
    exact steps_absolute hne fun part hpart => (hparts part hpart).1
  · obtain ⟨hparts, hsteps⟩ := hregular p.components (List.Subset.refl _) hroot
    have hne : p.components.map Component.text ≠ [] := by simp [h]
    have hsep : ∀ part ∈ p.components.map Component.text, '/' ∉ part := fun part hpart => (hparts part hpart).1
    rw [ofComponents_of_not_mem fun c hc => hsep _ (List.mem_map_of_mem hc), ← hsteps]
    exact steps_relative hne hsep fun hnil => (hparts _ hnil).2 rfl

end

/-! ## Paths that go on -/

/-- A path as a relative path is written after it. -/
def lead (p : FilePath) : String :=
  if p.text = "" ∨ p.text.toList.getLast? = some '/' then p.text else p.text ++ "/"

section
variable {p q r : FilePath}

theorem join_of_relative (h : q.isAbsolute = false) : p.join q = ⟨p.lead ++ q.text⟩ := by
  unfold join lead
  rw [if_neg (by simp [h])]
  split <;> rfl

theorem lead_append (p : FilePath) (s : String) : lead ⟨p.lead ++ s⟩ = p.lead ++ lead ⟨s⟩ := by
  by_cases hs : s = ""
  · subst hs
    have hlead : p.lead = "" ∨ p.lead.toList.getLast? = some '/' := by
      unfold lead
      split
      · assumption
      · exact .inr (by simp)
    rw [String.append_empty, lead, if_pos hlead]
    exact (String.append_empty).symm
  · have hlist : s.toList ≠ [] := fun hnil => hs (String.toList_eq_nil_iff.mp hnil)
    have hne : p.lead ++ s ≠ "" := fun heq => hs (String.append_eq_empty_iff.mp heq).2
    have hlast : (p.lead ++ s).toList.getLast? = s.toList.getLast? := by
      rw [String.toList_append, List.getLast?_append_of_ne_nil _ hlist]
    by_cases hend : s.toList.getLast? = some '/'
    · have hleft : lead ⟨p.lead ++ s⟩ = p.lead ++ s := if_pos (.inr (hlast.trans hend))
      have hright : lead ⟨s⟩ = s := if_pos (.inr hend)
      rw [hleft, hright]
    · have hleft : lead ⟨p.lead ++ s⟩ = p.lead ++ s ++ "/" := if_neg (not_or.mpr ⟨hne, hlast ▸ hend⟩)
      have hright : lead ⟨s⟩ = s ++ "/" := if_neg (not_or.mpr ⟨hs, hend⟩)
      rw [hleft, hright, String.append_assoc]

theorem isAbsolute_join_of_relative (hq : q.isAbsolute = false) (hr : r.isAbsolute = false) :
    (q.join r).isAbsolute = false := by
  rw [join_of_relative hr]
  unfold isAbsolute at *
  rw [String.toList_append, List.head?_append]
  by_cases hnil : q.text = ""
  · have hlead : q.lead = "" := (if_pos (.inl hnil)).trans hnil
    rw [hlead]
    exact hr
  · obtain ⟨c, cs, hcs⟩ := List.exists_cons_of_ne_nil fun heq => hnil (String.toList_eq_nil_iff.mp heq)
    have hhead : q.lead.toList.head? = some c := by
      unfold lead
      split <;> simp [hcs]
    rw [hhead]
    simpa [hcs] using hq

/-- Joining one after the other is joining what has been joined. -/
theorem join_join (hq : q.isAbsolute = false) (hr : r.isAbsolute = false) :
    (p.join q).join r = p.join (q.join r) := by
  rw [join_of_relative hr, join_of_relative hq, join_of_relative (isAbsolute_join_of_relative hq hr),
    join_of_relative hr, lead_append, String.append_assoc]

end

theorem start_append (a b : String) : start ⟨a ++ "/" ++ b⟩ = if a = "" then [.root] else start ⟨a⟩ := by
  by_cases ha : a = ""
  · rw [if_pos ha, ha, start, if_pos (by simp [isAbsolute])]
  · obtain ⟨c, cs, hcs⟩ := List.exists_cons_of_ne_nil fun hnil => ha (String.toList_eq_nil_iff.mp hnil)
    have habsolute : isAbsolute ⟨a ++ "/" ++ b⟩ = isAbsolute ⟨a⟩ := by simp [isAbsolute, hcs]
    have hparts : splitOn '/' (a ++ "/" ++ b).toList = splitOn '/' a.toList ++ splitOn '/' b.toList := by
      rw [← splitOn_append]
      simp
    have hfirst : (splitOn '/' (a ++ "/" ++ b).toList).head? = (splitOn '/' a.toList).head? := by
      rw [hparts, List.head?_append_of_ne_nil _ (FileTree.splitOn_ne_nil '/' _)]
    rw [if_neg ha, start, start, habsolute, hfirst]

/-- A name that is joined to a path is one component more. -/
theorem components_join_name {p : FilePath} (hp : p.text ≠ "") {name : String} (hname : IsName name) :
    (p.join ⟨name⟩).components = p.components ++ [.name name.toList] := by
  obtain ⟨a, ha, hjoin⟩ := FileTree.exists_join_eq hname.separator hp
  have hlast : [name.toList].filterMap componentOf = [.name name.toList] := by
    simp [FileTree.componentOf_name hname]
  rw [hjoin, components_eq, components_eq p, splitOn_text_append a hname.separator, List.filterMap_append, hlast,
    start_append, ← List.append_assoc]
  rcases ha with rfl | rfl
  · rw [if_neg hp]
  · have hslash : a ++ "/" = a ++ "/" ++ "" := String.append_empty.symm
    have hempty : '/' ∉ "".toList := nofun
    rw [hslash, start_append, splitOn_text_append a hempty]
    simp [componentOf]

/-! ## Paths that end with a name -/

structure EndsWith (p : FilePath) (name : String) : Prop where
  isName : IsName name
  last : ∃ parts, splitOn '/' p.text.toList = parts ++ [name.toList]

section
variable {p : FilePath} {name : String}

theorem endsWith_join (hname : IsName name) (dir : FilePath) : (dir.join ⟨name⟩).EndsWith name := by
  refine ⟨hname, ?_⟩
  by_cases hdir : dir.text = ""
  · refine ⟨[], ?_⟩
    rw [join, if_neg (by simp [isAbsolute_of_not_mem hname.separator]), if_pos (.inl hdir), hdir, String.empty_append,
      splitOn_of_not_mem hname.separator, List.nil_append]
  · obtain ⟨a, -, hjoin⟩ := FileTree.exists_join_eq hname.separator hdir
    rw [hjoin]
    exact ⟨_, splitOn_text_append a hname.separator⟩

theorem EndsWith.text_ne_empty (h : p.EndsWith name) : p.text ≠ "" := by
  intro hempty
  obtain ⟨parts, hparts⟩ := h.last
  rw [hempty] at hparts
  have hnil : name.toList = [] := (List.append_eq_singleton_iff.mp hparts.symm).elim (fun h => by simpa using h.2)
    fun h => by simpa using h.2
  exact h.isName.toList_ne.1 hnil

theorem EndsWith.components (h : p.EndsWith name) : ∃ init, p.components = init ++ [.name name.toList] := by
  obtain ⟨parts, hparts⟩ := h.last
  refine ⟨p.start ++ parts.filterMap componentOf, ?_⟩
  rw [components_eq, hparts, List.filterMap_append, List.append_assoc]
  simp [FileTree.componentOf_name h.isName]

theorem EndsWith.steps (h : p.EndsWith name) : ∃ todo, FileTree.steps p = todo ++ [.down name] := by
  obtain ⟨parts, hparts⟩ := h.last
  have hlast : FileTree.stepOf name.toList = .down name := FileTree.stepOf_name h.isName
  rw [FileTree.steps_eq, hparts]
  split
  · rename_i rest hrest
    cases parts with
    | nil => exact absurd (List.cons.inj hrest).1 h.isName.toList_ne.1
    | cons part parts =>
      obtain ⟨-, rfl⟩ := List.cons.inj hrest
      exact ⟨.top :: parts.map FileTree.stepOf, by simp [hlast]⟩
  · exact ⟨parts.map FileTree.stepOf, by simp [hlast]⟩

end

end FilePath

namespace FileTree

/-- A path that ends with a name leads to the same place when it is written from its components. -/
theorem locate_ofComponents {p : FilePath} {name : String} (h : p.EndsWith name) (t : FileTree) (final : Bool) :
    t.locate (.ofComponents p.components) final = t.locate p final := by
  obtain ⟨init, hinit⟩ := h.components
  obtain ⟨todo, htodo⟩ := h.steps
  have hsteps : steps (.ofComponents p.components) = init.map Component.step ++ [.down name] := by
    rw [FilePath.steps_ofComponents hinit, hinit, List.map_append, List.map_singleton, Component.step,
      String.ofList_toList]
  have hne : (FilePath.ofComponents p.components).text ≠ "" := by
    intro hempty
    have hroot : steps (.ofComponents p.components) = [.top] := by rw [steps_eq, hempty]; rfl
    have hlast : [Step.top].getLast? = some (.down name) := by rw [← hroot, hsteps, List.getLast?_concat]
    cases hlast
  have hfilter : todo.filter (· ≠ .stay) = (init.map Component.step).filter (· ≠ .stay) := by
    have hall := FilePath.filter_steps h.text_ne_empty
    rw [htodo, hinit, List.map_append, List.filter_append, List.filter_append, List.map_singleton, Component.step,
      String.ofList_toList] at hall
    exact List.append_cancel_right hall
  have htail : ∀ {a : List Step} {q : FilePath}, steps q = a ++ [.down name] → ∀ s ∈ a.tail, s ≠ .top := by
    intro a q hq s hs
    refine ne_top_of_mem_tail_steps (p := q) s ?_
    rw [hq]
    cases a with
    | nil => cases hs
    | cons first a => exact List.mem_append_left _ hs
  rw [locate, locate, if_neg hne, if_neg h.text_ne_empty, hsteps, htodo]
  exact (follow_eq_of_filter_eq (htail htodo) (htail hsteps) hfilter linkLimit t.current name).symm

/-! ## Paths that a path goes through -/

/-- The paths that are written from more and more components, the longest first. -/
def pathsThrough (components : List Component) : List FilePath :=
  (((List.range (components.length + 1)).map fun n => FilePath.ofComponents (components.take n)).drop 1).reverse

theorem pathsThrough_concat (components : List Component) (c : Component) :
    pathsThrough (components ++ [c]) = .ofComponents (components ++ [c]) :: pathsThrough components := by
  have hbefore : (List.range (components.length + 1)).map (fun n => .ofComponents ((components ++ [c]).take n)) =
      (List.range (components.length + 1)).map fun n => FilePath.ofComponents (components.take n) := by
    refine List.map_congr_left fun n hn => ?_
    rw [List.take_append_of_le_length (Nat.le_of_lt_succ (List.mem_range.mp hn))]
  have hall : (components ++ [c]).take (components.length + 1) = components ++ [c] :=
    List.take_of_length_le (by simp)
  rw [pathsThrough, List.length_append, List.length_singleton, List.range_succ, List.map_append, hbefore,
    List.drop_append_of_le_length (by simp), List.reverse_append, List.map_singleton, hall, List.reverse_singleton,
    List.singleton_append, pathsThrough]

theorem pathsTo_eq (p : FilePath) : pathsTo p = pathsThrough p.components := by
  have hparts : pathsTo p = (((List.range (((p.components.map Component.text).map String.ofList).length + 1)).map
      fun n => FilePath.ofParts (((p.components.map Component.text).map String.ofList).take n)).drop 1).reverse := rfl
  rw [hparts]
  simp only [pathsThrough, FilePath.ofComponents, List.map_take, List.length_map]

/-- A path that ends with a name goes through itself first. -/
theorem exists_pathsTo_eq {p : FilePath} {name : String} (h : p.EndsWith name) :
    ∃ outer, pathsTo p = .ofComponents p.components :: outer := by
  obtain ⟨init, hinit⟩ := h.components
  rw [pathsTo_eq, hinit, pathsThrough_concat]
  exact ⟨_, rfl⟩

/-- A path that goes on with a name goes through itself and then through what the path before goes through. -/
theorem pathsTo_join {p : FilePath} {name : String} (hp : p.text ≠ "") (hname : IsName name) :
    pathsTo (p.join ⟨name⟩) = .ofComponents (p.join ⟨name⟩).components :: pathsTo p := by
  rw [pathsTo_eq, FilePath.components_join_name hp hname, pathsThrough_concat, pathsTo_eq]

end FileTree

end RuleLint
