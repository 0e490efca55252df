/-
  File:      Portfolio/Proofs/Site/Shape.lean
  Subject:   The shape of the trees that are built.

  * `Orderly slugs`: a node whose children lie where their names say, under
    names of their own; each name leads on or is one of the given slugs.
  * `Layout`: the same for a list of nodes that is to be the content of a
    directory, with everything below it. Pages make one (`layout_pages`), so do the
    files of attachments (`Kept.layout`), and placing a directory keeps one
    (`Layout.place`).
  * `build_orderly`: every node of a built tree is orderly for the slugs of
    the titles, whatever the records; `build_rooted`: a built tree is rooted.
  * `mem_names_projectDirectories`: the projects bear the slugs of the titles.
-/
import Portfolio.Proofs.Node.Walk
import Portfolio.Proofs.Site.AttachmentFiles

namespace Portfolio.Site

open Node (Everywhere ChildrenPlaced ChildrenDistinct)

/-! ## 1. Orderly nodes -/

/-- The slugs of the titles of records. -/
def slugs (records : List Record) : List String :=
  records.map fun r => Slug.ofTitle r.title

theorem mem_slugs {r : Record} {records : List Record} (h : r ∈ records) :
    Slug.ofTitle r.title ∈ slugs records :=
  List.mem_map_of_mem h

/-- The children lie where their names say, and each has a name of its own
    that leads on or is one of the slugs. -/
structure Orderly (slugs : List String) (n : Node) : Prop where
  placed : n.ChildrenPlaced
  distinct : n.ChildrenDistinct
  named : ∀ c ∈ n.children, Path.IsName c.name ∨ c.name ∈ slugs

/-- What the directory at a path may hold. -/
structure Layout (slugs : List String) (path : String) (nodes : List Node) : Prop where
  placed : ∀ c ∈ nodes, c.path = Path.join path c.name
  distinct : (nodes.map Node.name).Nodup
  named : ∀ c ∈ nodes, Path.IsName c.name ∨ c.name ∈ slugs
  below : ∀ c ∈ nodes, c.Everywhere (Orderly slugs)

variable {slugs : List String} {path : String}

/-- A directory with an orderly content is orderly with all below it. -/
theorem Layout.directory {nodes : List Node} (h : Layout slugs path nodes) (name : String)
    (id : Json.Value) : (Node.directory name path nodes id).Everywhere (Orderly slugs) :=
  Node.everywhere_iff.mpr ⟨⟨h.placed, h.distinct, h.named⟩, h.below⟩

theorem Layout.nil : Layout slugs path [] where
  placed _ h := absurd h List.not_mem_nil
  distinct := List.nodup_nil
  named _ h := absurd h List.not_mem_nil
  below _ h := absurd h List.not_mem_nil

/-- One more node under a new name. -/
theorem Layout.concat {nodes : List Node} (h : Layout slugs path nodes) {n : Node}
    (hp : n.path = Path.join path n.name) (hn : Path.IsName n.name)
    (hd : n.name ∉ nodes.map Node.name) (hb : n.Everywhere (Orderly slugs)) :
    Layout slugs path (nodes ++ [n]) where
  placed c hc := by
    rcases List.mem_append.mp hc with hc | hc
    · exact h.placed c hc
    · exact List.mem_singleton.mp hc ▸ hp
  distinct := by
    rw [List.map_append, List.nodup_append]
    refine ⟨h.distinct, by simp, fun a ha b hb e => ?_⟩
    rw [List.map_cons, List.map_nil, List.mem_singleton] at hb
    exact hd (hb ▸ e ▸ ha)
  named c hc := by
    rcases List.mem_append.mp hc with hc | hc
    · exact h.named c hc
    · exact Or.inl (List.mem_singleton.mp hc ▸ hn)
  below c hc := by
    rcases List.mem_append.mp hc with hc | hc
    · exact h.below c hc
    · exact List.mem_singleton.mp hc ▸ hb

/-- A node placed under one of the slugs. -/
theorem Layout.place {nodes : List Node} (h : Layout slugs path nodes) {n : Node}
    (hp : n.path = Path.join path n.name) (hn : n.name ∈ slugs)
    (hb : n.Everywhere (Orderly slugs)) : Layout slugs path (Node.place n nodes) where
  placed c hc := by
    rcases Node.mem_place hc with rfl | hc
    · exact hp
    · exact h.placed c hc
  distinct := Node.nodup_names_place h.distinct
  named c hc := by
    rcases Node.mem_place hc with rfl | hc
    · exact Or.inr hn
    · exact h.named c hc
  below c hc := by
    rcases Node.mem_place hc with rfl | hc
    · exact hb
    · exact h.below c hc

/-! ## 2. Pages -/

theorem page_orderly (name content : String) (url : Option String) :
    (page path name content url).Everywhere (Orderly slugs) := by
  refine Node.everywhere_iff.mpr ⟨⟨?_, ?_, ?_⟩, ?_⟩
  · exact fun _ h => absurd h List.not_mem_nil
  · exact List.nodup_nil
  · exact fun _ h => absurd h List.not_mem_nil
  · exact fun _ h => absurd h List.not_mem_nil

/-- Pages under different names that lead on. -/
theorem layout_pages (names : List String) (pages : List (String × String × Option String))
    (hp : pages.map Prod.fst = names) (hn : ∀ name ∈ names, Path.IsName name)
    (hd : names.Nodup) :
    Layout slugs path (pages.map fun p => page path p.1 p.2.1 p.2.2) where
  placed c hc := by
    obtain ⟨p, _, rfl⟩ := List.mem_map.mp hc
    rfl
  distinct := by
    rw [List.map_map]
    exact hp.symm ▸ hd
  named c hc := by
    obtain ⟨p, hm, rfl⟩ := List.mem_map.mp hc
    exact Or.inl (hn p.1 (hp ▸ List.mem_map_of_mem hm))
  below c hc := by
    obtain ⟨p, _, rfl⟩ := List.mem_map.mp hc
    exact page_orderly p.1 p.2.1 p.2.2

theorem baseDirectory_orderly (p : Profile) : (baseDirectory p).Everywhere (Orderly slugs) := by
  have h : Layout slugs "/base" (baseDirectory p).children :=
    layout_pages ["about", "contact", "resume"]
      [("about", p.about, none), ("contact", p.contact, none),
        ("resume", "[Resume Link - Opens in browser]", some p.resumeUrl)]
      rfl (by decide) (by decide)
  exact h.directory _ _

theorem metaDirectory_orderly (p : Profile) : (metaDirectory p).Everywhere (Orderly slugs) := by
  have h : Layout slugs "/meta" (metaDirectory p).children :=
    layout_pages ["system.info", "version"]
      [("system.info", p.systemInfo, none), ("version", p.version, none)]
      rfl (by decide) (by decide)
  exact h.directory _ _

/-! ## 3. Attachments -/

/-- The files of attachments lie where their names say, under names of their own. -/
theorem Kept.layout {attachments : List Attachment} {files : List Node}
    (h : Kept path attachments files) : Layout slugs path files where
  placed f hf := by
    obtain ⟨a, _, number, taken, hof⟩ := h.exists_fileOf hf
    obtain ⟨content, url, hpage, _⟩ := hof.eq_page
    exact congrArg Node.path hpage
  distinct := h.distinct
  named f hf := by
    obtain ⟨a, _, number, taken, hof⟩ := h.exists_fileOf hf
    exact Or.inl hof.isName
  below f hf := by
    obtain ⟨a, _, number, taken, hof⟩ := h.exists_fileOf hf
    obtain ⟨content, url, hpage, _⟩ := hof.eq_page
    rw [hpage]
    exact page_orderly _ _ _

/-! ## 4. Projects -/

/-- What is built for a record: its four pages, and what there is for its attachments. -/
theorem project_eq_directory {slug : String} {r : Record} {d : Node}
    (h : project path slug r = .ok d) :
    ∃ attachments, attachmentsDirectory path r.attachments = .ok attachments ∧
      d = .directory slug path
        ([page path "overview" (overview r) none, page path "architecture" (architecture r) none,
          page path "decisions.log" (decisions r) none, page path "impact" (impact r) none] ++
          attachments) r.id := by
  unfold project at h
  rw [bind_eq_ok] at h
  obtain ⟨attachments, ha, h⟩ := h
  exact ⟨attachments, ha, (pure_eq_ok.mp h).symm⟩

/-- The directory of a project: under its slug, at its path, with its id, and
    orderly. -/
theorem project_eq_ok (slugs : List String) {slug : String} {r : Record} {d : Node}
    (h : project path slug r = .ok d) :
    ∃ nodes, d = .directory slug path nodes r.id ∧ Layout slugs path nodes := by
  obtain ⟨attachments, ha, rfl⟩ := project_eq_directory h
  have hp : Layout slugs path [page path "overview" (overview r) none,
      page path "architecture" (architecture r) none,
      page path "decisions.log" (decisions r) none,
      page path "impact" (impact r) none] :=
    layout_pages ["overview", "architecture", "decisions.log", "impact"]
      [("overview", overview r, none), ("architecture", architecture r, none),
        ("decisions.log", decisions r, none), ("impact", impact r, none)]
      rfl (by decide) (by decide)
  refine ⟨_, rfl, ?_⟩
  rcases attachmentsDirectory_eq_ok ha with ⟨_, rfl⟩ | ⟨_, files, rfl, hkept⟩
  · rw [List.append_nil]
    exact hp
  · exact hp.concat rfl (show Path.IsName "attachments" by decide)
      (show "attachments" ∉ ["overview", "architecture", "decisions.log", "impact"] by decide)
      (hkept.layout.directory _ _)

/-- One step of placing projects: the directory of the first record is placed
    under its slug, with a warning if something was there, then the others
    follow. -/
theorem projectDirectories_cons_eq_ok {placed : List Node} {r : Record} {rest : List Record}
    {built : Built (List Node)} (h : projectDirectories placed (r :: rest) = .ok built) :
    ∃ directory more,
      project (Path.join projectsPath (Slug.ofTitle r.title)) (Slug.ofTitle r.title) r =
        .ok directory ∧
      projectDirectories (Node.place directory placed) rest = .ok more ∧
      built.result = more.result ∧
      built.log =
        (if (Node.named? placed (Slug.ofTitle r.title)).isSome then
          [replacedEntry r.title (Path.join projectsPath (Slug.ofTitle r.title))]
        else []) ++ more.log := by
  unfold projectDirectories at h
  rw [bind_eq_ok] at h
  obtain ⟨directory, hd, h⟩ := h
  rw [bind_eq_ok] at h
  obtain ⟨more, hm, h⟩ := h
  have e := pure_eq_ok.mp h
  exact ⟨directory, more, hd, hm, by rw [← e], by rw [← e]⟩

theorem projectDirectories_layout {placed : List Node} {records : List Record}
    {built : Built (List Node)} (hl : Layout slugs projectsPath placed)
    (hs : ∀ r ∈ records, Slug.ofTitle r.title ∈ slugs)
    (h : projectDirectories placed records = .ok built) :
    Layout slugs projectsPath built.result := by
  induction records generalizing placed built with
  | nil =>
    unfold projectDirectories at h
    exact Except.ok.inj h ▸ hl
  | cons r rest ih =>
    obtain ⟨directory, more, hd, hm, e, _⟩ := projectDirectories_cons_eq_ok h
    obtain ⟨nodes, rfl, hn⟩ := project_eq_ok slugs hd
    have hp := hl.place (n := .directory _ _ nodes r.id) rfl (hs r List.mem_cons_self)
      (hn.directory _ _)
    rw [e]
    exact ih hp (fun r hr => hs r (List.mem_cons_of_mem _ hr)) hm

/-- **The projects bear the slugs of the titles**, and whatever was there
    before keeps its name. -/
theorem mem_names_projectDirectories {placed : List Node} {records : List Record}
    {built : Built (List Node)} (h : projectDirectories placed records = .ok built) {s : String} :
    s ∈ built.result.map Node.name ↔ s ∈ placed.map Node.name ∨ s ∈ Site.slugs records := by
  induction records generalizing placed built with
  | nil =>
    unfold projectDirectories at h
    rw [← Except.ok.inj h]
    exact ⟨Or.inl, fun h => h.resolve_right List.not_mem_nil⟩
  | cons r rest ih =>
    obtain ⟨directory, more, hd, hm, e, _⟩ := projectDirectories_cons_eq_ok h
    obtain ⟨nodes, rfl, _⟩ := project_eq_ok [] hd
    have hs : Site.slugs (r :: rest) = Slug.ofTitle r.title :: Site.slugs rest := rfl
    rw [e, ih hm, Node.mem_names_place, hs, List.mem_cons]
    show (s = Slug.ofTitle r.title ∨ _) ∨ _ ↔ _
    rw [or_assoc, or_left_comm]

/-! ## 5. The whole tree -/

/-- The three directories at the root, with the given projects. -/
def branches (p : Profile) (projects : List Node) : List Node :=
  [baseDirectory p, .directory "projects" projectsPath projects .null, metaDirectory p]

theorem names_branches (p : Profile) (projects : List Node) :
    (branches p projects).map Node.name = ["base", "projects", "meta"] := rfl

theorem isName_of_mem_branches {p : Profile} {projects : List Node} {c : Node}
    (h : c ∈ branches p projects) : Path.IsName c.name := by
  have hm := List.mem_map_of_mem (f := Node.name) h
  rw [names_branches] at hm
  exact (by decide : ∀ s ∈ ["base", "projects", "meta"], Path.IsName s) c.name hm

theorem build_eq_ok {p : Profile} {records : List Record} {built : Built Node}
    (h : build p records = .ok built) :
    ∃ placed, projectDirectories [] records = .ok placed ∧
      built.result = .directory "" "/" (branches p placed.result) .null ∧
      built.log = placed.log ++ [builtEntry placed.result.length records.length] := by
  unfold build projects at h
  rw [bind_eq_ok] at h
  obtain ⟨b, hb, h⟩ := h
  rw [bind_eq_ok] at hb
  obtain ⟨placed, hp, hb⟩ := hb
  refine ⟨placed, hp, ?_, ?_⟩
  · rw [← pure_eq_ok.mp h, ← pure_eq_ok.mp hb]
    rfl
  · rw [← pure_eq_ok.mp h, ← pure_eq_ok.mp hb]

theorem layout_branches {p : Profile} {projects : List Node}
    (h : Layout slugs projectsPath projects) : Layout slugs "/" (branches p projects) where
  placed c hc := by
    unfold branches at hc
    simp only [List.mem_cons, List.not_mem_nil, or_false] at hc
    rcases hc with rfl | rfl | rfl <;> rfl
  distinct := by
    rw [names_branches]
    decide
  named _ hc := Or.inl (isName_of_mem_branches hc)
  below c hc := by
    unfold branches at hc
    simp only [List.mem_cons, List.not_mem_nil, or_false] at hc
    rcases hc with rfl | rfl | rfl
    · exact baseDirectory_orderly p
    · exact h.directory _ _
    · exact metaDirectory_orderly p

/-- **Every node of a built tree is orderly**, whatever the records hold. -/
theorem build_orderly {p : Profile} {records : List Record} {built : Built Node}
    (h : build p records = .ok built) :
    built.result.Everywhere (Orderly (Site.slugs records)) := by
  obtain ⟨placed, hp, e, _⟩ := build_eq_ok h
  have hl := projectDirectories_layout Layout.nil (fun _ hr => mem_slugs hr) hp
  rw [e]
  exact (layout_branches hl).directory _ _

/-- **A built tree is rooted.** -/
theorem build_rooted {p : Profile} {records : List Record} {built : Built Node}
    (h : build p records = .ok built) : built.result.Rooted := by
  obtain ⟨placed, _, e, _⟩ := build_eq_ok h
  refine ⟨?_, ?_, (build_orderly h).mono fun _ ho => ho.placed⟩
  · rw [e]
    rfl
  · rw [e]
    rfl

end Portfolio.Site
