/-
  File:      Portfolio/Proofs/Filesystem/ProjectIds.lean
  Subject:   Projects by their ids: from an id to a path, and back.

  * `firstWith`, `IsFirst`: the first of the directories whose id reads as a text.
  * `pathOfProject_of_branched`: an id leads to the first project whose id reads as it
    does without the blanks at its ends; `projectIdOf_path`: the path of a project
    leads to its id, unless its slug is empty.
  * `IdLookups`: what this says of a project that has an id. Its id leads to the first
    project whose id reads the same exactly if it reads without blanks at its ends, and
    the path of that one leads back exactly if it has a name and an id of its own.
    `idLookups`: this holds of every project of a filesystem that was made from
    records. An id between blanks leads nowhere (`pathOfProject_misses_blanks`).
-/
import Portfolio.Proofs.Filesystem.Projects

namespace Portfolio.Filesystem

open Json (Value)

variable {fs : Filesystem} {root d : Node} {p : Profile} {projects : List Node} {r : Record}
  {text : String}

/-! ## 1. The first project whose id reads as a text -/

/-- The node is a directory whose id, be it `null`, reads as the text. -/
def ReadsAs (text : String) : Node → Prop
  | .directory _ _ _ own => own.display = text
  | .file .. => False

instance (text : String) : DecidablePred (ReadsAs text)
  | .directory _ _ _ own => inferInstanceAs (Decidable (own.display = text))
  | .file .. => inferInstanceAs (Decidable False)

/-- The first of the nodes whose id reads as the text. -/
def firstWith (text : String) (nodes : List Node) : Option Node :=
  nodes.find? fun n => ReadsAs text n

/-- The id of the node reads as the text, and that of no node before it does. -/
def IsFirst (text : String) (nodes : List Node) (n : Node) : Prop :=
  ReadsAs text n ∧ ∃ before after, nodes = before ++ n :: after ∧ ∀ e ∈ before, ¬ ReadsAs text e

theorem firstWith_eq_some_iff {nodes : List Node} {n : Node} :
    firstWith text nodes = some n ↔ IsFirst text nodes n := by
  unfold firstWith IsFirst
  rw [List.find?_eq_some_iff_append, decide_eq_true_iff]
  simp only [Bool.not_eq_true', decide_eq_false_iff_not]

theorem IsFirst.mem {nodes : List Node} {n : Node} (h : IsFirst text nodes n) : n ∈ nodes := by
  obtain ⟨_, before, after, rfl, _⟩ := h
  exact List.mem_append_right _ List.mem_cons_self

theorem exists_isFirst {nodes : List Node} (hd : d ∈ nodes) (hr : ReadsAs text d) :
    ∃ n, IsFirst text nodes n := by
  have hs : (firstWith text nodes).isSome := by
    unfold firstWith
    rw [List.find?_isSome]
    exact ⟨d, hd, decide_eq_true hr⟩
  obtain ⟨n, hn⟩ := Option.isSome_iff_exists.mp hs
  exact ⟨n, firstWith_eq_some_iff.mp hn⟩

/-- A directory with an id reads as its id does. -/
theorem readsAs_of_ownId? {id : Value} (h : ownId? d = some id) : ReadsAs id.display d := by
  cases d with
  | file => cases h
  | directory name path nodes own =>
    cases own with
    | null => cases h
    | bool | int | float | text | list | object =>
      cases h
      exact rfl

/-- If a directory that reads as the text has an id, it is this id that does. -/
theorem display_of_readsAs {id : Value} (hr : ReadsAs text d) (h : ownId? d = some id) :
    id.display = text := by
  have hd := readsAs_of_ownId? h
  cases d with
  | file => exact hr.elim
  | directory name path nodes own => exact hd.symm.trans hr

/-! ## 2. From an id to a path -/

/-- The text that an id is looked up by. -/
def wanted (id : Value) : String :=
  String.ofList (Text.strip id.display.toList)

theorem findSome?_path (nodes : List Node) :
    (nodes.findSome? fun
      | .directory _ path _ own => if own.display = text then some path else none
      | .file .. => none) = (firstWith text nodes).map Node.path := by
  induction nodes with
  | nil => rfl
  | cons n rest ih =>
    unfold firstWith at ih ⊢
    rw [List.findSome?_cons, List.find?_cons, ih]
    cases n with
    | file => rfl
    | directory name path nodes own =>
      by_cases h : own.display = text
      · have hd : decide (ReadsAs text (.directory name path nodes own)) = true :=
          decide_eq_true h
        simp only [if_pos h, hd]
        rfl
      · have hd : decide (ReadsAs text (.directory name path nodes own)) = false :=
          decide_eq_false h
        simp only [if_neg h, hd]

/-- **An id leads to the first project whose id reads as it does** without the
    blanks at its ends, and nowhere if there is none. -/
theorem pathOfProject_of_branched (ht : fs.tree = some root) (hb : Branched root p projects)
    (id : Value) : fs.pathOfProject id = .ok ((firstWith (wanted id) projects).map Node.path) := by
  unfold pathOfProject Filesystem.root
  rw [ht, hb, ← findSome?_path]
  rfl

/-! ## 3. From the path of a project to its id -/

/-- The path of a project with the empty slug leads to the directory of all
    projects, which has no id. -/
theorem projectIdOf_nameless (ht : fs.tree = some root) (hb : Branched root p projects)
    (cwd : String) : fs.projectIdOf (some "/projects/") cwd = .ok none := by
  have hnames : Path.walk [] (Path.segments "/projects/") = ["projects"] := by decide
  have hr : fs.resolve (some "/projects/") cwd =
      .ok (some (.directory "projects" Site.projectsPath projects .null)) := by
    rw [resolve_of_tree ht, Path.namesFrom_of_isAbsolute (by decide), hnames, hb]
    rfl
  have hnone : projectNameOf? "/projects" = none := by decide
  exact projectIdOf_of_unnamed hr rfl hnone

/-- **The path of a project leads to its id**, unless its slug is empty. -/
theorem projectIdOf_path (ht : fs.tree = some root) (ha : root.Addressed)
    (hb : Branched root p projects) (hd : d ∈ projects) (hs : Site.Shows d r) (cwd : String) :
    fs.projectIdOf (some d.path) cwd = .ok (if d.name = "" then none else ownId? d) := by
  have hpath : d.path = Path.join Site.projectsPath d.name := by
    rw [hs.name_eq]
    obtain ⟨attachments, rfl⟩ := hs.eq_directoryOf
    rfl
  by_cases hn : d.name = ""
  · rw [if_pos hn, hpath, hn]
    exact projectIdOf_nameless ht hb cwd
  · have hr := resolve_project ht ha hb hd hs hn cwd
    rw [← hpath] at hr
    rw [if_neg hn, projectIdOf_of_within ht ha hb hd hs (Node.self_mem_walk d) hr,
      ownId?_of_shows hs]

/-! ## 4. There and back -/

/-- The lookups by an id that a project has, and by the path of the first project
    whose id reads the same. -/
structure IdLookups (fs : Filesystem) (id : Value) (first : Node) : Prop where
  path_iff : fs.pathOfProject id = .ok (some first.path) ↔ wanted id = id.display
  back_iff : ∀ cwd,
    (∃ own, fs.projectIdOf (some first.path) cwd = .ok (some own) ∧ own.display = id.display) ↔
      first.name ≠ "" ∧ ownId? first ≠ none

/-- Two projects at one path are one. -/
theorem eq_of_path_eq (ha : root.Addressed) (hb : Branched root p projects) {d d' : Node}
    (hd : d ∈ projects) (hd' : d' ∈ projects) (h : d.path = d'.path) : d = d' := by
  have hp := projects_mem_children hb
  have hn : root.descend ["projects", d.name] = some d := descend_project ha hb hd []
  have hn' : root.descend ["projects", d'.name] = some d' := descend_project ha hb hd' []
  have e := ha.names_eq _ _ _ _ hn hn' h
  rw [e, hn'] at hn
  exact (Option.some.inj hn).symm

theorem idLookups_of_isFirst (ht : fs.tree = some root) (ha : root.Addressed)
    (hb : Branched root p projects) {first : Node} (hs : Site.Shows first r) {id : Value}
    (hf : IsFirst id.display projects first) : fs.IdLookups id first where
  path_iff := by
    rw [pathOfProject_of_branched ht hb]
    constructor
    · intro h
      obtain ⟨found, hfound, hpath⟩ := Option.map_eq_some_iff.mp (Except.ok.inj h)
      have hfirst := firstWith_eq_some_iff.mp hfound
      -- what is found lies where the first one lies, so it is the first one
      have e : found = first := eq_of_path_eq ha hb hfirst.mem hf.mem hpath
      have hw := hfirst.1
      have hr := hf.1
      rw [e] at hw
      cases first with
      | file => exact hw.elim
      | directory => exact hw.symm.trans hr
    · intro h
      rw [h, firstWith_eq_some_iff.mpr hf]
      rfl
  back_iff cwd := by
    rw [projectIdOf_path ht ha hb hf.mem hs]
    by_cases hn : first.name = ""
    · rw [if_pos hn]
      exact ⟨fun ⟨_, h, _⟩ => (nomatch h), fun h => absurd hn h.1⟩
    · rw [if_neg hn]
      constructor
      · rintro ⟨own, h, _⟩
        rw [Except.ok.inj h]
        exact ⟨hn, Option.some_ne_none own⟩
      · rintro ⟨_, h⟩
        obtain ⟨own, ho⟩ := Option.ne_none_iff_exists'.mp h
        exact ⟨own, by rw [ho], display_of_readsAs hf.1 ho⟩

/-- **Ids and paths of projects as lookups**, whatever the records are that a
    filesystem is made from: any id leads to the first project whose id reads as it
    does without the blanks at its ends; and of every project that has an id it is
    said exactly when its id leads to the first project that reads the same, and the
    path of that one back. -/
theorem idLookups {records : List Record} {made : Site.Built Filesystem}
    (h : ofRecords p records = .ok made) :
    ∃ projects, (∀ cwd, made.result.resolve (some "/projects") cwd =
        .ok (some (.directory "projects" "/projects" projects .null))) ∧
      (∀ id, made.result.pathOfProject id = .ok ((firstWith (wanted id) projects).map Node.path)) ∧
      ∀ d ∈ projects, ∀ id, ownId? d = some id →
        ∃ first, IsFirst id.display projects first ∧ made.result.IdLookups id first := by
  obtain ⟨built, hbuild, ht, _⟩ := ofRecords_eq_ok h
  have ha := Site.build_addressed hbuild
  obtain ⟨placed, hp, hb, _⟩ := Site.build_eq_ok hbuild
  refine ⟨placed.result, resolve_projects ht hb, pathOfProject_of_branched ht hb, ?_⟩
  intro d hd id hid
  obtain ⟨first, hf⟩ := exists_isFirst hd (readsAs_of_ownId? hid)
  obtain ⟨r, _, hs⟩ := Site.shows_projects hp hf.mem
  exact ⟨first, hf, idLookups_of_isFirst ht ha hb hs hf⟩

/-- Two ids read the same: each leads to the first of the two projects. -/
theorem idLookups_sameText :
    ∃ made projects,
      ofRecords {} [.bare (.int 7) "Gate", .bare (.text "7") "Other"] = .ok made ∧
      made.result.resolve (some "/projects") "/" =
        .ok (some (.directory "projects" "/projects" projects .null)) ∧
      (∀ d ∈ projects, ∀ id, ownId? d = some id →
        ∃ first, IsFirst id.display projects first ∧ made.result.IdLookups id first) ∧
      made.result.pathOfProject (.text "7") = .ok (some "/projects/gate") ∧
      made.result.projectIdOf (some "/projects/gate") "/" = .ok (some (.int 7)) := by
  obtain ⟨made, hm⟩ : ∃ made, ofRecords {} [.bare (.int 7) "Gate", .bare (.text "7") "Other"] =
      .ok made := ⟨_, rfl⟩
  obtain ⟨projects, hd, _, hl⟩ := idLookups hm
  refine ⟨made, projects, hm, hd "/", hl, ?_, ?_⟩
  · cases hm
    rfl
  · cases hm
    rfl

/-- An id between blanks is that of a project, and leads nowhere. -/
theorem pathOfProject_misses_blanks :
    ∃ made d, ofRecords {} [.bare (.text " a ") "x"] = .ok made ∧
      made.result.resolve (some "/projects/x") "/" = .ok (some d) ∧
      ownId? d = some (.text " a ") ∧ made.result.pathOfProject (.text " a ") = .ok none :=
  ⟨_, _, rfl, rfl, rfl, rfl⟩

end Portfolio.Filesystem
