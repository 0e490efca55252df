/-
  File:      Portfolio/Proofs/Filesystem/Addresses.lean
  Subject:   Paths as addresses: what a built tree reports can be asked for.

  * `build_addressed`: a built tree is addressed, whatever the records hold.
  * `resolvesByWalk`: on a built tree, resolving a path is looking its absolute
    form up among the paths of the walk, which are all different.
  * `Addressable`: a path leads to a node from everywhere, and the queries at
    the path show the node. `PathsLeadBack`: this holds of every path that a
    query reports.
  * `pathsLeadBack_iff`: on a built tree it holds exactly if no title has the
    empty slug. A project with the empty slug lies at `/projects/`, which
    resolves to the directory of all projects.
-/
import Portfolio.Proofs.Filesystem.Resolve
import Portfolio.Proofs.Node.Lookup
import Portfolio.Proofs.Site.Shape

namespace Portfolio

/-- A record of an id and a title. -/
def Record.bare (id : Json.Value) (title : String) : Record where
  id := id
  title := title
  role := .text ""
  description := .text ""
  problemStatement := none
  architectureImage := none
  technicalHighlights := []
  designDecisions := []
  impactMetrics := []
  links := []
  attachments := []

/-! ## 1. Built trees are addressed -/

namespace Site

variable {p : Profile} {records : List Record} {built : Built Node}

/-- **A built tree is addressed.** -/
theorem build_addressed (h : build p records = .ok built) : built.result.Addressed where
  toRooted := build_rooted h
  distinct := (build_orderly h).mono fun _ ho => ho.distinct
  no_slash := by
    refine (build_orderly h).mono fun m ho c hc => ?_
    rcases ho.named c hc with hn | hs
    · exact hn.no_slash
    · obtain ⟨r, _, e⟩ := List.mem_map.mp hs
      exact e ▸ Slug.slash_notMem_ofTitle r.title
  top_named := by
    obtain ⟨placed, _, e, _⟩ := build_eq_ok h
    rw [e]
    exact fun c hc => (isName_of_mem_branches hc).ne_empty

/-- Where no slug is empty, every name in a built tree leads on. -/
theorem build_isName (h : build p records = .ok built)
    (hs : ∀ r ∈ records, Slug.ofTitle r.title ≠ "") :
    built.result.Everywhere fun n => ∀ c ∈ n.children, Path.IsName c.name := by
  refine (build_orderly h).mono fun n ho c hc => ?_
  rcases ho.named c hc with hn | hm
  · exact hn
  · obtain ⟨r, hr, e⟩ := List.mem_map.mp hm
    exact e ▸ Slug.isName_ofTitle (hs r hr)

end Site

/-- A hit names the path that was given with its node. -/
theorem Search.path_of_hitOf {needle : List Char} {path : String} {n : Node} {hit : Search.Hit}
    (h : Search.hitOf needle path n = some hit) : hit.path = path := by
  unfold Search.hitOf at h
  split at h
  · cases h
  · split at h
    · cases h
    · obtain ⟨offset, _, rfl⟩ := Option.map_eq_some_iff.mp h
      rfl

namespace Filesystem

variable {fs : Filesystem} {root : Node} {p : Profile} {records : List Record}
  {built : Site.Built Node}

/-! ## 2. Resolving is looking up in the walk -/

/-- The walk gives every path once, and the path resolves to what the walk gives
    under its absolute form, if it gives anything; all queries at the path
    answer by that. -/
structure ResolvesByWalk (fs : Filesystem) (path : Option String) (cwd : String)
    (nodes : List (String × Node)) : Prop where
  walk : fs.walk (some "/") "/" = .ok nodes
  nodup : (nodes.map Prod.fst).Nodup
  some_iff : ∀ n, fs.resolve path cwd = .ok (some n) ↔ (Path.resolve path cwd, n) ∈ nodes
  none_iff : fs.resolve path cwd = .ok none ↔ ∀ n, (Path.resolve path cwd, n) ∉ nodes
  path_eq : ∀ n, fs.resolve path cwd = .ok (some n) → n.path = Path.resolve path cwd
  answers : fs.AnswersBy path cwd (nodes.lookup (Path.resolve path cwd))

/-- In an addressed tree a path resolves to what the walk gives under its
    absolute form. -/
theorem resolve_eq_some_iff (ht : fs.tree = some root) (ha : root.Addressed)
    (path : Option String) (cwd : String) (n : Node) :
    fs.resolve path cwd = .ok (some n) ↔ (Path.resolve path cwd, n) ∈ root.walk := by
  rw [resolve_of_tree ht, Path.resolve_eq_render,
    ha.mem_walk_iff fun _ hs => Path.isSegment_of_mem_namesFrom hs]
  exact ⟨Except.ok.inj, congrArg Except.ok⟩

/-- **Resolving agrees with walking**, on every built tree and for every path
    from every directory. -/
theorem resolvesByWalk (hb : Site.build p records = .ok built)
    (ht : fs.tree = some built.result) (path : Option String) (cwd : String) :
    ∃ nodes, fs.ResolvesByWalk path cwd nodes := by
  have ha := Site.build_addressed hb
  have hr := resolve_of_tree ht path cwd
  have hiff := resolve_eq_some_iff ht ha path cwd
  refine ⟨built.result.walk, walk_root ht, ha.nodup_paths, hiff, ⟨?_, ?_⟩, ?_, ?_⟩
  · intro hn n hm
    rw [(hiff n).mpr hm] at hn
    cases hn
  · intro hno
    cases hd : built.result.descend (Path.namesFrom path cwd) with
    | none => rw [hr, hd]
    | some n => exact absurd ((hiff n).mp (by rw [hr, hd])) (hno n)
  · exact fun n hn => (Node.fst_of_mem_walk ((hiff n).mp hn)).symm
  · refine answersBy_of_resolve ?_
    rw [hr, Path.resolve_eq_render, ha.lookup_walk fun _ hs => Path.isSegment_of_mem_namesFrom hs]

theorem resolvesByWalk_gate :
    ∃ built, Site.build {} [.bare (.int 1) "Gate"] = .ok built ∧
      ∃ nodes, ({ tree := some built.result } : Filesystem).ResolvesByWalk
        (some "../projects/./gate") "/base" nodes := by
  obtain ⟨built, hb⟩ : ∃ built, Site.build {} [.bare (.int 1) "Gate"] = .ok built := ⟨_, rfl⟩
  exact ⟨built, hb, resolvesByWalk hb rfl _ _⟩

/-! ## 3. Addresses -/

/-- From everywhere the path leads to the node; reading it gives the text of a
    file, listing it the children of a directory. -/
structure Addressable (fs : Filesystem) (path : String) (n : Node) : Prop where
  resolve : ∀ cwd, fs.resolve (some path) cwd = .ok (some n)
  contentAt : ∀ cwd content, n.content? = some content →
    fs.contentAt (some path) cwd = .ok content
  list : ∀ cwd, n.isDirectory = true →
    ∃ entries, fs.list (some path) cwd = .ok entries ∧ entries.Perm (n.children.map entryOf)

theorem addressable_of_resolve {path : String} {n : Node}
    (h : ∀ cwd, fs.resolve (some path) cwd = .ok (some n)) : fs.Addressable path n where
  resolve := h
  contentAt cwd content hc := by
    rw [contentAt_of_resolve (h cwd)]
    cases n with
    | file => exact congrArg Except.ok (Option.some.inj hc)
    | directory => cases hc
  list cwd hd := by
    rw [list_of_resolve (h cwd)]
    cases n with
    | file => cases hd
    | directory => exact ⟨_, rfl, List.mergeSort_perm _ _⟩

/-- Every path that a query reports is the address of what it was reported
    for: by walking, by listing, by searching, or for the id of a project. -/
structure PathsLeadBack (fs : Filesystem) : Prop where
  walked : ∃ nodes, fs.walk (some "/") "/" = .ok nodes ∧
    ∀ e ∈ nodes, fs.Addressable e.1 e.2
  listed : ∀ path cwd entries, fs.list path cwd = .ok entries → ∀ e ∈ entries,
    ∃ directory n, fs.resolve path cwd = .ok (some directory) ∧ n ∈ directory.children ∧
      e = entryOf n ∧ fs.Addressable e.path n
  found : ∀ keyword hits, fs.search keyword = .ok hits → ∀ hit ∈ hits,
    ∃ n, Search.hitOf (Text.lower keyword.toList) hit.path n = some hit ∧
      fs.Addressable hit.path n
  project : ∀ id path, fs.pathOfProject id = .ok (some path) →
    ∃ name nodes own, own.display = String.ofList (Text.strip id.display.toList) ∧
      fs.Addressable path (.directory name path nodes own)

/-! ### Where every name leads on -/

/-- The path of a node leads to it, if the names that lead there lead on. -/
theorem resolve_path (ht : fs.tree = some root) (ha : root.Addressed)
    (hn : root.Everywhere fun n => ∀ c ∈ n.children, Path.IsName c.name) {e : String × Node}
    (he : e ∈ root.walk) (cwd : String) : fs.resolve (some e.1) cwd = .ok (some e.2) := by
  obtain ⟨path, n⟩ := e
  obtain ⟨rfl, names, hd⟩ := (Node.mem_walk_iff_descend ha.distinct).mp he
  have hnames := Node.forall_names_of_descend hn hd
  rw [resolve_of_tree ht, ha.path_eq_render hd, Path.namesFrom_render hnames, hd]

/-- What is listed is a child of the directory that the path resolves to. -/
theorem exists_child_of_mem_list {path : Option String} {cwd : String}
    {entries : List DirectoryEntry} (h : fs.list path cwd = .ok entries) {e : DirectoryEntry}
    (he : e ∈ entries) :
    ∃ directory n, fs.resolve path cwd = .ok (some directory) ∧ n ∈ directory.children ∧
      e = entryOf n := by
  obtain ⟨d, hr, _, rfl⟩ := list_eq_ok h
  obtain ⟨n, hn, rfl⟩ := List.mem_map.mp (List.mem_mergeSort.mp he)
  exact ⟨d, n, hr, hn, rfl⟩

/-- A hit names the path under which its file was met. -/
theorem exists_mem_walk_of_mem_hits {keyword : String} {nodes : List (String × Node)}
    {hit : Search.Hit} (h : hit ∈ Search.hits keyword nodes) :
    ∃ n, (hit.path, n) ∈ nodes ∧
      Search.hitOf (Text.lower keyword.toList) hit.path n = some hit := by
  obtain ⟨⟨path, n⟩, hm, hh⟩ := List.mem_filterMap.mp h
  have hp : hit.path = path := Search.path_of_hitOf hh
  exact ⟨n, hp ▸ hm, hp ▸ hh⟩

/-- The path of a project is that of a directory below `/projects` whose id
    reads like the given one. -/
theorem pathOfProject_eq_ok (ht : fs.tree = some root) {id : Json.Value} {path : String}
    (h : fs.pathOfProject id = .ok (some path)) :
    ∃ directory name nodes own, directory ∈ root.children ∧
      .directory name path nodes own ∈ directory.children ∧
      own.display = String.ofList (Text.strip id.display.toList) := by
  unfold pathOfProject Filesystem.root at h
  rw [ht] at h
  simp only [mapError_ok, ok_bind] at h
  split at h
  · cases h
  · split at h
    · rename_i name path' projects own hc
      obtain ⟨n, hn, hf⟩ := List.exists_of_findSome?_eq_some (pure_eq_ok.mp h)
      split at hf
      · rename_i name' path'' nodes own'
        by_cases hw : own'.display = String.ofList (Text.strip id.display.toList)
        · rw [if_pos hw] at hf
          cases hf
          exact ⟨_, name', nodes, own', (Node.child?_eq_some hc).1, hn, hw⟩
        · rw [if_neg hw] at hf
          cases hf
      · cases hf
    · cases h

/-- Where every name leads on, every path that a query reports leads back. -/
theorem pathsLeadBack_of_isName (ht : fs.tree = some root) (ha : root.Addressed)
    (hn : root.Everywhere fun n => ∀ c ∈ n.children, Path.IsName c.name) :
    fs.PathsLeadBack := by
  have hadr : ∀ e ∈ root.walk, fs.Addressable e.1 e.2 := fun e he =>
    addressable_of_resolve (resolve_path ht ha hn he)
  have hchild : ∀ d ∈ root.walk, ∀ c ∈ d.2.children, fs.Addressable c.path c := fun d hd c hc =>
    hadr _ (Node.mem_walk_child hd hc)
  refine ⟨⟨_, walk_root ht, hadr⟩, fun path cwd entries hl e he => ?_,
    fun keyword hits hs hit hh => ?_, fun id path hp => ?_⟩
  · obtain ⟨directory, n, hr, hm, rfl⟩ := exists_child_of_mem_list hl he
    rw [resolve_of_tree ht] at hr
    have hw := Node.mem_walk_of_descend (Except.ok.inj hr)
    exact ⟨directory, n, by rw [resolve_of_tree ht, Except.ok.inj hr], hm, rfl, hchild _ hw n hm⟩
  · unfold search at hs
    rw [walk_root ht, ok_bind] at hs
    split at hs
    · cases hs
    · obtain ⟨n, hm, ho⟩ := exists_mem_walk_of_mem_hits (pure_eq_ok.mp hs ▸ hh)
      exact ⟨n, ho, hadr _ hm⟩
  · obtain ⟨directory, name, nodes, own, hd, hm, ho⟩ := pathOfProject_eq_ok ht hp
    have hw := Node.mem_walk_child (Node.self_mem_walk root) hd
    exact ⟨name, nodes, own, ho, hchild _ hw _ hm⟩

/-! ### A project with the empty slug -/

/-- A project with the empty slug is walked at `/projects/`. -/
theorem exists_walked_of_empty_slug (hb : Site.build p records = .ok built) {r : Record}
    (hr : r ∈ records) (he : Slug.ofTitle r.title = "") :
    ∃ n, n.path = "/projects/" ∧ ("/projects/", n) ∈ built.result.walk := by
  obtain ⟨placed, hp, e, _⟩ := Site.build_eq_ok hb
  have hm : "" ∈ placed.result.map Node.name :=
    (Site.mem_names_projectDirectories hp).mpr (Or.inr (he ▸ Site.mem_slugs hr))
  obtain ⟨n, hn, hname⟩ := List.mem_map.mp hm
  have hl := Site.projectDirectories_layout Site.Layout.nil (fun _ hr => Site.mem_slugs hr) hp
  have hpath : n.path = "/projects/" := by
    rw [hl.placed n hn, hname]
    rfl
  refine ⟨n, hpath, ?_⟩
  have hd : Node.directory "projects" Site.projectsPath placed.result .null ∈
      built.result.children := by
    rw [e]
    exact List.mem_cons_of_mem _ List.mem_cons_self
  have hw := Node.mem_walk_child (Node.self_mem_walk _) hd
  exact hpath ▸ Node.mem_walk_child hw hn

/-- What `/projects/` resolves to does not lie there. -/
theorem path_ne_of_resolve (hb : Site.build p records = .ok built)
    (ht : fs.tree = some built.result) {n : Node}
    (hn : fs.resolve (some "/projects/") "/" = .ok (some n)) : n.path ≠ "/projects/" := by
  have hs : Path.namesFrom (some "/projects/") "/" = ["projects"] := by decide
  rw [resolve_of_tree ht, hs] at hn
  rw [(Site.build_addressed hb).path_eq_render (Except.ok.inj hn)]
  decide

/-! ### Which trees report addresses -/

/-- **The paths that a built tree reports lead back exactly if no title has the
    empty slug.** -/
theorem pathsLeadBack_iff (hb : Site.build p records = .ok built)
    (ht : fs.tree = some built.result) :
    fs.PathsLeadBack ↔ ∀ r ∈ records, Slug.ofTitle r.title ≠ "" := by
  constructor
  · intro h r hr he
    obtain ⟨n, hp, hw⟩ := exists_walked_of_empty_slug hb hr he
    obtain ⟨nodes, hnodes, ha⟩ := h.walked
    rw [walk_root ht] at hnodes
    have hn := (ha _ (Except.ok.inj hnodes ▸ hw)).resolve "/"
    exact path_ne_of_resolve hb ht hn hp
  · intro hs
    exact pathsLeadBack_of_isName ht (Site.build_addressed hb) (Site.build_isName hb hs)

theorem pathsLeadBack_gate :
    ∃ built, Site.build {} [.bare (.int 1) "Gate"] = .ok built ∧
      ({ tree := some built.result } : Filesystem).PathsLeadBack := by
  obtain ⟨built, hb⟩ : ∃ built, Site.build {} [.bare (.int 1) "Gate"] = .ok built := ⟨_, rfl⟩
  exact ⟨built, hb, (pathsLeadBack_iff hb rfl).mpr (by decide)⟩

/-- A title without a letter of the Latin alphabet or a digit has the empty
    slug: the path of its project is walked, but leads to another node. -/
theorem not_pathsLeadBack_of_empty_slug :
    ∃ built n, Site.build {} [.bare (.int 1) "日本"] = .ok built ∧
      ("/projects/", n) ∈ built.result.walk ∧
      ({ tree := some built.result } : Filesystem).resolve (some "/projects/") "/" ≠
        .ok (some n) := by
  obtain ⟨built, hb⟩ : ∃ built, Site.build {} [.bare (.int 1) "日本"] = .ok built := ⟨_, rfl⟩
  obtain ⟨n, hp, hw⟩ := exists_walked_of_empty_slug hb List.mem_cons_self (by decide)
  exact ⟨built, n, hb, hw, fun hn => path_ne_of_resolve hb rfl hn hp⟩

end Filesystem

end Portfolio
