/-
  File:      Portfolio/Proofs/Filesystem/Projects.lean
  Subject:   Projects by their slugs: in the tree, in the log and in lookups.

  * `idOf?`: the id that a record brings. Only the directory of a project
    carries one, nothing below it does (`anonymous_below`).
  * `branch_cases`: where names lead from the root of such a tree.
  * `projectIdOf_of_within`: what lies within the directory of a project is
    found to belong to it, by its own id or by the names that lead there.
  * `projectIdOf_of_outside`: all else belongs to no project.
  * `KeyedBySlug`: what holds of the projects of a filesystem that was made
    from records; `keyedBySlug`: it always does.
-/
import Portfolio.Proofs.Filesystem.Addresses
import Portfolio.Proofs.Site.Projects

namespace Portfolio.Filesystem

open Json (Value)

variable {fs : Filesystem} {path : Option String} {cwd : String} {root n d : Node}
  {p : Profile} {projects : List Node} {r : Record}

/-! ## 1. Which nodes carry an id -/

/-- The id that a record brings; `null` is none. -/
def idOf? (r : Record) : Option Value :=
  match r.id with
  | .null => none
  | id => some id

theorem ownId?_of_shows (h : Site.Shows d r) : ownId? d = idOf? r := by
  obtain ⟨attachments, rfl⟩ := h.eq_directoryOf
  rfl

/-- The node carries no id, and no node below it does. -/
def Anonymous (n : Node) : Prop :=
  n.Everywhere fun m => ownId? m = none

theorem anonymous_of_file (h : n.isDirectory = false) : Anonymous n := by
  cases n with
  | file => exact Node.everywhere_iff.mpr ⟨rfl, fun _ hc => absurd hc List.not_mem_nil⟩
  | directory => cases h

theorem anonymous_of_files {name path : String} {files : List Node}
    (h : ∀ f ∈ files, f.isDirectory = false) :
    Anonymous (.directory name path files .null) :=
  Node.everywhere_iff.mpr ⟨rfl, fun f hf => anonymous_of_file (h f hf)⟩

theorem anonymous_base (p : Profile) : Anonymous (Site.baseDirectory p) := by
  refine anonymous_of_files ?_
  simp only [List.forall_mem_cons]
  exact ⟨rfl, rfl, rfl, List.forall_mem_nil _⟩

theorem anonymous_meta (p : Profile) : Anonymous (Site.metaDirectory p) := by
  refine anonymous_of_files ?_
  simp only [List.forall_mem_cons]
  exact ⟨rfl, rfl, List.forall_mem_nil _⟩

/-- Nothing below the directory of a project carries an id. -/
theorem anonymous_below (h : Site.Shows d r) {c : Node} (hc : c ∈ d.children) : Anonymous c := by
  have hpages : ∀ f ∈ Site.pagesOf r, f.isDirectory = false := by
    unfold Site.pagesOf
    simp only [List.forall_mem_cons]
    exact ⟨rfl, rfl, rfl, rfl, List.forall_mem_nil _⟩
  by_cases ha : r.attachments = []
  · rw [h.bare ha] at hc
    rcases List.mem_append.mp hc with hc | hc
    · exact anonymous_of_file (hpages c hc)
    · exact absurd hc List.not_mem_nil
  · obtain ⟨files, e, _, hf⟩ := h.full ha
    rw [e] at hc
    rcases List.mem_append.mp hc with hc | hc
    · exact anonymous_of_file (hpages c hc)
    · rw [List.mem_singleton.mp hc]
      exact anonymous_of_files hf

/-! ## 2. The id by the node that a path resolves to -/

/-- The name of a project directory is read off a path that leads into it, and
    off no other. -/
theorem projectNameOf?_render {names : List String} (hs : ∀ s ∈ names, Path.IsSegment s)
    {name : String} :
    projectNameOf? (Path.render names) = some name ↔
      ∃ rest, names = "projects" :: name :: rest := by
  unfold projectNameOf?
  rw [Path.segments_render_of_isSegment hs]
  constructor
  · intro h
    split at h
    · rename_i first name' rest
      by_cases hf : first = "projects"
      · rw [if_pos hf] at h
        exact ⟨rest, by rw [hf, Option.some.inj h]⟩
      · rw [if_neg hf] at h
        cases h
    · cases h
  · rintro ⟨rest, rfl⟩
    rfl

theorem projectIdOf_of_none (hr : fs.resolve path cwd = .ok none) :
    fs.projectIdOf path cwd = .ok none := by
  unfold projectIdOf
  rw [hr]
  rfl

/-- A node without an id, and with a path that does not lead into a project. -/
theorem projectIdOf_of_unnamed (hr : fs.resolve path cwd = .ok (some n)) (ho : ownId? n = none)
    (hn : projectNameOf? n.path = none) : fs.projectIdOf path cwd = .ok none := by
  unfold projectIdOf
  rw [hr, ok_bind]
  dsimp only
  rw [ho]
  dsimp only
  rw [hn]
  rfl

/-- A node whose path leads into the directory of a project. It is this
    directory, or it has no id. -/
theorem projectIdOf_of_named {name : String} (hr : fs.resolve path cwd = .ok (some n))
    (ho : n = d ∨ ownId? n = none) (hn : projectNameOf? n.path = some name)
    (hd : fs.resolve (some (Path.join Site.projectsPath name)) "/" = .ok (some d)) :
    fs.projectIdOf path cwd = .ok (ownId? d) := by
  unfold projectIdOf
  rw [hr, ok_bind]
  dsimp only
  cases hi : ownId? n with
  | some id =>
    have e : n = d := ho.resolve_right (by rw [hi]; exact Option.some_ne_none id)
    rw [← e, hi]
    rfl
  | none =>
    dsimp only
    rw [hn]
    dsimp only
    rw [hd]
    rfl

/-! ## 3. Within and outside of the projects of a tree -/

theorem join_projectsPath (name : String) :
    Path.join Site.projectsPath name = Path.render ["projects", name] :=
  Path.join_render (List.cons_ne_nil "projects" []) (by decide) name

/-- A tree with the three directories at its root. -/
def Branched (root : Node) (p : Profile) (projects : List Node) : Prop :=
  root = .directory "" "/" (Site.branches p projects) .null

theorem projects_mem_children (hb : Branched root p projects) :
    .directory "projects" Site.projectsPath projects .null ∈ root.children := by
  rw [hb]
  exact List.mem_cons_of_mem _ List.mem_cons_self

/-- The names that lead to a project lead on as they do from its directory. -/
theorem descend_project (ha : root.Addressed) (hb : Branched root p projects) (hd : d ∈ projects)
    (names : List String) : root.descend ("projects" :: d.name :: names) = d.descend names := by
  have hp := projects_mem_children hb
  have h1 := Node.descend_cons_of_nodup ha.distinct.self hp (d.name :: names)
  have h2 := Node.descend_cons_of_nodup (ha.distinct.child hp).self hd names
  exact h1.trans h2

/-- What lies within the directory of a project is reached only by names that
    lead through it. -/
theorem names_within (ha : root.Addressed) (hb : Branched root p projects) (hd : d ∈ projects)
    (hw : (n.path, n) ∈ d.walk) {names : List String} (hn : root.descend names = some n) :
    ∃ rest, names = "projects" :: d.name :: rest ∧ d.descend rest = some n := by
  have hp := projects_mem_children hb
  have hdist : d.Everywhere Node.ChildrenDistinct := (ha.distinct.child hp).child hd
  obtain ⟨_, rest, hrest⟩ := (Node.mem_walk_iff_descend hdist).mp hw
  have hn' : root.descend ("projects" :: d.name :: rest) = some n := by
    rw [descend_project ha hb hd, hrest]
  exact ⟨rest, ha.names_eq _ _ _ _ hn hn' rfl, hrest⟩

/-- The path of the directory of a project leads to it, unless its slug is
    empty. -/
theorem resolve_project (ht : fs.tree = some root) (ha : root.Addressed)
    (hb : Branched root p projects) (hd : d ∈ projects) (hs : Site.Shows d r) (hne : d.name ≠ "")
    (cwd : String) : fs.resolve (some (Path.join Site.projectsPath d.name)) cwd = .ok (some d) := by
  have hname : Path.IsName d.name := by
    rw [hs.name_eq] at hne ⊢
    exact Slug.isName_ofTitle hne
  have hnames : ∀ s ∈ ["projects", d.name], Path.IsName s :=
    List.forall_mem_cons.mpr ⟨by decide, List.forall_mem_singleton.mpr hname⟩
  rw [resolve_of_tree ht, join_projectsPath, Path.namesFrom_render hnames,
    descend_project ha hb hd]
  rfl

/-- What names lead to from the directory of a project is this directory, or it
    has no id. -/
theorem self_or_anonymous (hs : Site.Shows d r) {names : List String}
    (hn : d.descend names = some n) : n = d ∨ ownId? n = none := by
  cases names with
  | nil => exact Or.inl (Option.some.inj hn).symm
  | cons first rest =>
    obtain ⟨c, hc, _, hdesc⟩ := Node.descend_cons_eq_some hn
    exact Or.inr (anonymous_below hs hc _ (Node.mem_walk_of_descend hdesc))

/-- **What lies within the directory of a project belongs to it.** -/
theorem projectIdOf_of_within (ht : fs.tree = some root) (ha : root.Addressed)
    (hb : Branched root p projects) (hd : d ∈ projects) (hs : Site.Shows d r)
    (hw : (n.path, n) ∈ d.walk) (hr : fs.resolve path cwd = .ok (some n)) :
    fs.projectIdOf path cwd = .ok (idOf? r) := by
  have hn : root.descend (Path.namesFrom path cwd) = some n := by
    rw [resolve_of_tree ht] at hr
    exact Except.ok.inj hr
  obtain ⟨rest, e, hrest⟩ := names_within ha hb hd hw hn
  have hseg : ∀ s ∈ "projects" :: d.name :: rest, Path.IsSegment s := fun s hm =>
    Path.isSegment_of_mem_namesFrom (e ▸ hm)
  have hname : projectNameOf? n.path = some d.name := by
    rw [ha.path_eq_render hn, e, projectNameOf?_render hseg]
    exact ⟨rest, rfl⟩
  -- a path led through the name of the directory, so the slug is not empty
  have hne : d.name ≠ "" := (hseg d.name (List.mem_cons_of_mem _ List.mem_cons_self)).ne_empty
  have hdir := resolve_project ht ha hb hd hs hne "/"
  rw [projectIdOf_of_named hr (self_or_anonymous hs hrest) hname hdir, ownId?_of_shows hs]

/-- Where names lead from the root: nowhere else than to itself, into one of the fixed
    directories, to the directory of all projects, or into a project. -/
theorem branch_cases (hb : Branched root p projects) {names : List String}
    (hn : root.descend names = some n) :
    (names = [] ∧ n = root) ∨
      (∃ rest, names = "base" :: rest ∧ (n.path, n) ∈ (Site.baseDirectory p).walk) ∨
      (names = ["projects"] ∧ n = .directory "projects" Site.projectsPath projects .null) ∨
      (∃ d ∈ projects, ∃ rest, names = "projects" :: d.name :: rest ∧ (n.path, n) ∈ d.walk) ∨
      ∃ rest, names = "meta" :: rest ∧ (n.path, n) ∈ (Site.metaDirectory p).walk := by
  cases names with
  | nil => exact Or.inl ⟨rfl, (Option.some.inj hn).symm⟩
  | cons first rest =>
    rw [hb] at hn
    obtain ⟨c, hc, rfl, hdesc⟩ := Node.descend_cons_eq_some hn
    have hm := Node.mem_walk_of_descend hdesc
    change c ∈ Site.branches p projects at hc
    unfold Site.branches at hc
    simp only [List.mem_cons, List.not_mem_nil, or_false] at hc
    rcases hc with rfl | rfl | rfl
    · exact Or.inr (Or.inl ⟨rest, rfl, hm⟩)
    · cases rest with
      | nil => exact Or.inr (Or.inr (Or.inl ⟨rfl, (Option.some.inj hdesc).symm⟩))
      | cons name rest =>
        obtain ⟨d, hd, rfl, hrest⟩ := Node.descend_cons_eq_some hdesc
        exact Or.inr (Or.inr (Or.inr (Or.inl
          ⟨d, hd, rest, rfl, Node.mem_walk_of_descend hrest⟩)))
    · exact Or.inr (Or.inr (Or.inr (Or.inr ⟨rest, rfl, hm⟩)))

/-- A node outside of all projects carries no id, and no names that lead to it
    lead into a project. -/
theorem outside (hb : Branched root p projects) {names : List String}
    (hn : root.descend names = some n) (ho : ∀ d ∈ projects, (n.path, n) ∉ d.walk) :
    ownId? n = none ∧ ∀ name rest, names ≠ "projects" :: name :: rest := by
  rcases branch_cases hb hn with ⟨rfl, rfl⟩ | ⟨rest, rfl, hm⟩ | ⟨rfl, rfl⟩ | ⟨d, hd, _, _, hw⟩ |
    ⟨rest, rfl, hm⟩
  · rw [hb]
    exact ⟨rfl, fun name rest e => nomatch e⟩
  · refine ⟨anonymous_base p _ hm, fun name rest e => ?_⟩
    exact absurd (List.cons.inj e).1 (by decide : "base" ≠ "projects")
  · exact ⟨rfl, fun name rest e => nomatch e⟩
  · exact absurd hw (ho d hd)
  · refine ⟨anonymous_meta p _ hm, fun name rest e => ?_⟩
    exact absurd (List.cons.inj e).1 (by decide : "meta" ≠ "projects")

/-- **What lies outside of all projects, or nowhere, belongs to none.** -/
theorem projectIdOf_of_outside (ht : fs.tree = some root) (ha : root.Addressed)
    (hb : Branched root p projects)
    (ho : ∀ n, fs.resolve path cwd = .ok (some n) → ∀ d ∈ projects, (n.path, n) ∉ d.walk) :
    fs.projectIdOf path cwd = .ok none := by
  have hr := resolve_of_tree ht path cwd
  cases hn : root.descend (Path.namesFrom path cwd) with
  | none =>
    rw [hn] at hr
    exact projectIdOf_of_none hr
  | some n =>
    rw [hn] at hr
    obtain ⟨hid, hnames⟩ := outside hb hn (ho n hr)
    refine projectIdOf_of_unnamed hr hid ?_
    rw [Option.eq_none_iff_forall_ne_some]
    intro name hname
    have hseg : ∀ s ∈ Path.namesFrom path cwd, Path.IsSegment s := fun s hm =>
      Path.isSegment_of_mem_namesFrom hm
    rw [ha.path_eq_render hn, projectNameOf?_render hseg] at hname
    obtain ⟨rest, e⟩ := hname
    exact hnames name rest e

/-! ## 4. Filesystems that were made from records -/

/-- The warnings in a log. -/
def warnings (log : List Log.Entry) : List Log.Entry :=
  log.filter fun e => e.level = .warning

/-- The children of `/projects` are the slugs of the titles, each once and in
    the order in which they first occur. Each shows the last record that has
    its slug; each record that is not shown gave one warning. A path belongs to
    the record that is shown where it leads, and else to none. -/
structure KeyedBySlug (fs : Filesystem) (records : List Record) (log : List Log.Entry)
    (projects : List Node) : Prop where
  directory : ∀ cwd, fs.resolve (some "/projects") cwd =
    .ok (some (.directory "projects" "/projects" projects .null))
  names : projects.map Node.name = (Site.slugs records).eraseDups
  shown : ∀ d ∈ projects, ∃ r, Site.IsLast d.name records r ∧ Site.Shows d r
  warned : (warnings log).length + projects.length = records.length
  within : ∀ path cwd n d r, fs.resolve path cwd = .ok (some n) → d ∈ projects →
    (n.path, n) ∈ d.walk → Site.IsLast d.name records r →
    fs.projectIdOf path cwd = .ok (idOf? r)
  outside : ∀ path cwd,
    (∀ n, fs.resolve path cwd = .ok (some n) → ∀ d ∈ projects, (n.path, n) ∉ d.walk) →
    fs.projectIdOf path cwd = .ok none

theorem resolve_projects (ht : fs.tree = some root) (hb : Branched root p projects) (cwd : String) :
    fs.resolve (some "/projects") cwd =
      .ok (some (.directory "projects" "/projects" projects .null)) := by
  have hpath : "/projects" = Path.render ["projects"] := by decide
  have hname : ∀ s ∈ ["projects"], Path.IsName s := List.forall_mem_singleton.mpr (by decide)
  rw [hpath, resolve_of_tree ht, Path.namesFrom_render hname, hb]
  rfl

/-- What is logged besides about building a tree is no warning. -/
theorem length_warnings {records : List Record} {placed : Site.Built (List Node)}
    (h : Site.projectDirectories [] records = .ok placed) (directories count : Nat) :
    (warnings (placed.log ++ [Site.builtEntry directories count] ++ [initializedEntry])).length +
      placed.result.length = records.length := by
  obtain ⟨hw, hl⟩ := Site.length_log_projectDirectories h
  have hlog : warnings placed.log = placed.log :=
    List.filter_eq_self.mpr fun e he => decide_eq_true (hw e he)
  have hmore : warnings [Site.builtEntry directories count, initializedEntry] = [] := rfl
  unfold warnings at hlog hmore ⊢
  rw [List.append_assoc, List.filter_append, hlog]
  show (placed.log ++ List.filter _ [Site.builtEntry directories count, initializedEntry]).length +
    placed.result.length = records.length
  rw [hmore, List.append_nil, hl, List.length_nil, Nat.zero_add]

/-- **Projects are keyed by their slugs, and the last record wins**, whatever
    the records are that a filesystem is made from. -/
theorem keyedBySlug {records : List Record} {made : Site.Built Filesystem}
    (h : ofRecords p records = .ok made) :
    ∃ projects, KeyedBySlug made.result records made.log projects := by
  obtain ⟨built, hbuild, ht, hlog⟩ := ofRecords_eq_ok h
  have ha := Site.build_addressed hbuild
  obtain ⟨placed, hp, hb, hlog'⟩ := Site.build_eq_ok hbuild
  refine ⟨placed.result, resolve_projects ht hb, Site.names_projects hp,
    fun d hd => Site.shows_projects hp hd, ?_, ?_, ?_⟩
  · rw [hlog, hlog']
    exact length_warnings hp _ _
  · intro path cwd n d r hr hd hw hlast
    obtain ⟨r', hlast', hs⟩ := Site.shows_projects hp hd
    rw [hlast.eq hlast']
    exact projectIdOf_of_within ht ha hb hd hs hw hr
  · intro path cwd ho
    exact projectIdOf_of_outside ht ha hb ho

/-- Two of three titles have one slug. -/
theorem keyedBySlug_sameName :
    ∃ made projects,
      ofRecords {} [.bare (.int 1) "Same Name", .bare (.int 2) "Other",
        .bare (.int 3) "Same  name!"] = .ok made ∧
      KeyedBySlug made.result [.bare (.int 1) "Same Name", .bare (.int 2) "Other",
        .bare (.int 3) "Same  name!"] made.log projects ∧
      projects.map Node.name = ["same-name", "other"] ∧
      made.result.projectIdOf (some "same-name/impact") "/projects" = .ok (some (.int 3)) := by
  obtain ⟨made, hm⟩ : ∃ made, ofRecords {} [.bare (.int 1) "Same Name", .bare (.int 2) "Other",
      .bare (.int 3) "Same  name!"] = .ok made := ⟨_, rfl⟩
  obtain ⟨projects, hk⟩ := keyedBySlug hm
  refine ⟨made, projects, hm, hk, hk.names.trans (by decide), ?_⟩
  cases hm
  rfl

end Portfolio.Filesystem
