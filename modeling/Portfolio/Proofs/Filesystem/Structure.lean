/-
  File:      Portfolio/Proofs/Filesystem/Structure.lean
  Subject:   The structure of the tree in a filesystem.

  * `Structured`: the root lies at `/`, every other node where the path of its
    directory and its name say; a name finds the one child that bears it; and the
    walk meets every place of the tree once, each under a path of its own.
  * `structured`: so is every tree that is built, whatever the titles and the
    captions are. The empty slug is no exception: the paths below it lead
    elsewhere, but no other node has them.
-/
import Portfolio.Proofs.Filesystem.Addresses

namespace Portfolio

/-! ## 1. Children and their paths -/

namespace Node

variable {root n c : Node}

/-- A name finds exactly the child that bears it, if no two children bear one name. -/
theorem child?_eq_some_iff (hd : n.ChildrenDistinct) {name : String} :
    n.child? name = some c ↔ c ∈ n.children ∧ c.name = name := by
  constructor
  · intro h
    exact child?_eq_some h
  · rintro ⟨hc, rfl⟩
    exact named?_of_nodup hd hc

/-- No two nodes in one directory of an addressed tree have one path. -/
theorem Addressed.nodup_child_paths (h : root.Addressed) (hn : (n.path, n) ∈ root.walk) :
    (n.children.map Node.path).Nodup := by
  obtain ⟨_, names, hd⟩ := (mem_walk_iff_descend h.distinct).mp hn
  have hnames : (n.children.map Node.name).Nodup := h.distinct _ hn
  refine List.pairwise_map.mpr ((List.pairwise_map.mp hnames).imp_of_mem ?_)
  intro c c' hc hc' hne hpath
  -- one path would make one chain of names of the two that lead to the children
  have hlead := descend_concat_of_nodup h.distinct hd hc
  have hlead' := descend_concat_of_nodup h.distinct hd hc'
  have e := h.names_eq _ _ _ _ hlead hlead' hpath
  exact hne (List.cons.inj (List.append_cancel_left e)).1

end Node

/-! ## 2. Whole filesystems -/

namespace Filesystem

/-- The walk of the filesystem shows a tree: a directory at `/`, children under their
    own names and at the paths that these make, all places and no others, each under
    a path of its own. -/
structure Structured (fs : Filesystem) (root : Node) : Prop where
  walk : fs.walk (some "/") "/" = .ok root.walk
  isRoot : root.isDirectory = true ∧ root.path = "/"
  keyed : ∀ e ∈ root.walk, ∀ name c,
    e.2.child? name = some c ↔ c ∈ e.2.children ∧ c.name = name
  joined : ∀ e ∈ root.walk, ∀ c ∈ e.2.children, c.path = Path.join e.2.path c.name
  complete : ∀ path n,
    (path, n) ∈ root.walk ↔ path = n.path ∧ ∃ names, root.descend names = some n
  distinct : (root.walk.map Prod.fst).Nodup
  siblings : ∀ e ∈ root.walk, (e.2.children.map Node.path).Nodup
  apart : ∀ names names' n n', root.descend names = some n → root.descend names' = some n' →
    n.path = n'.path → names = names'

theorem structured_of_addressed {fs : Filesystem} {root : Node} (ht : fs.tree = some root)
    (ha : root.Addressed) : fs.Structured root where
  walk := walk_root ht
  isRoot := ⟨ha.isDirectory, ha.path_eq⟩
  keyed e he name c := by
    have hd : e.2.ChildrenDistinct := ha.distinct e he
    exact Node.child?_eq_some_iff hd
  joined e he := ha.placed e he
  complete path n := Node.mem_walk_iff_descend ha.distinct
  distinct := ha.nodup_paths
  siblings e he := by
    obtain ⟨path, n⟩ := e
    have hp : path = n.path := Node.fst_of_mem_walk he
    exact ha.nodup_child_paths (hp ▸ he)
  apart := ha.names_eq

/-- **Every tree that is built is structured**, for all records and profiles. -/
theorem structured {fs : Filesystem} {p : Profile} {records : List Record}
    {built : Site.Built Node} (hb : Site.build p records = .ok built)
    (ht : fs.tree = some built.result) : fs.Structured built.result :=
  structured_of_addressed ht (Site.build_addressed hb)

/-- An empty slug, two titles with one slug, and two captions with one name. -/
theorem structured_collisions :
    ∃ built, Site.build {} [{ Record.bare (.int 1) "日本" with
        attachments := [⟨.text "a.pdf", some (.text "Plan"), none⟩,
          ⟨.text "b.PDF", some (.text "plan!"), none⟩] },
        .bare (.int 2) "Same Name", .bare (.int 3) "same name"] = .ok built ∧
      ({ tree := some built.result } : Filesystem).Structured built.result ∧
      ("/projects//attachments/plan-1.pdf") ∈ built.result.walk.map Prod.fst := by
  obtain ⟨built, hb⟩ : ∃ built, Site.build {} [{ Record.bare (.int 1) "日本" with
      attachments := [⟨.text "a.pdf", some (.text "Plan"), none⟩,
        ⟨.text "b.PDF", some (.text "plan!"), none⟩] },
      .bare (.int 2) "Same Name", .bare (.int 3) "same name"] = .ok built := ⟨_, rfl⟩
  refine ⟨built, hb, structured hb rfl, ?_⟩
  cases hb
  decide +kernel

end Filesystem

end Portfolio
