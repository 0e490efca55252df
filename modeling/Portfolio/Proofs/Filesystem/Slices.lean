/-
  File:      Portfolio/Proofs/Filesystem/Slices.lean
  Subject:   Walking from a path gives a slice of the whole walk.

  * `isWithin`: a path is another one or starts with it and a slash. For the paths of
    names this says that the names start with those of the other
    (`isWithin_render`): `/a-b` is not within `/a`.
  * `of_walk_split`: right after a directory come its children, each with all below it.
  * `walksSlice`: so in a built tree the walk from a path is the piece of the whole walk
    whose paths are within that of its first node. From the root it is the whole walk,
    and nothing but the root is within `/` in this sense.
-/
import Portfolio.Proofs.Filesystem.Addresses

namespace Portfolio

/-! ## 1. Paths within a path -/

namespace Path

/-- The path is the one on top, or goes on after it with a slash. -/
def isWithin (top path : String) : Bool :=
  path == top || (top ++ "/").toList.isPrefixOf path.toList

theorem isWithin_iff {top path : String} :
    isWithin top path = true ↔ path = top ∨ top.toList ++ ['/'] <+: path.toList := by
  unfold isWithin
  simp

/-- **One rendered path is within another exactly if its names start with the names of
    the other**, which must not be the root. -/
theorem isWithin_render {names names' : List String} (hs : ∀ n ∈ names, '/' ∉ n.toList)
    (hs' : ∀ n ∈ names', '/' ∉ n.toList) (hne : names ≠ []) (hr : render names ≠ "/") :
    isWithin (render names) (render names') = true ↔ names <+: names' := by
  rw [isWithin_iff]
  constructor
  · intro h
    have hne' : names' ≠ [] := by
      intro he
      rw [he] at h
      rcases h with h | ⟨rest, h⟩
      · exact hr h.symm
      · -- the path on top has a slash and here a second one
        have hl := congrArg List.length h
        simp [toList_render, render_nil] at hl
    -- both texts are cut at their slashes
    have hmap : names.map String.toList <+: names'.map String.toList := by
      rcases h with h | ⟨rest, h⟩
      · have hsplit := splitOn_render hs' hne'
        rw [h, splitOn_render hs hne] at hsplit
        exact (List.cons.inj hsplit).2 ▸ List.prefix_rfl
      · have hsplit := splitOn_render hs' hne'
        rw [← h, List.append_assoc, List.singleton_append, List.splitOn_append_cons_self,
          splitOn_render hs hne] at hsplit
        exact ⟨rest.splitOn '/', (List.cons.inj hsplit).2⟩
    exact (List.prefix_map_iff_of_injective fun _ _ => String.toList_inj.mp).mp hmap
  · intro ⟨rest, hnames'⟩
    subst hnames'
    by_cases hrest : rest = []
    · subst hrest
      exact Or.inl (by rw [List.append_nil])
    · refine Or.inr ?_
      rw [render_append hne hrest, String.toList_append, String.toList_append]
      exact List.prefix_append _ _

end Path

/-! ## 2. Pieces of a walk -/

namespace Node

variable {root n m : Node} {names rest : List String}

/-- **Right after a directory come its children**, each with all below it, if nothing
    is met twice. -/
theorem of_walk_split (hd : n.walk.Nodup) {before after : List (String × Node)}
    {e : String × Node} (h : n.walk = before ++ e :: after) :
    ∃ rest, after = e.2.children.flatMap walk ++ rest := by
  have he : e ∈ n.walk := by simp [h]
  obtain ⟨before', rest, hinfix⟩ := isInfix_of_mem_walk he
  have hself : (e.2.path, e.2) = e := by rw [← fst_of_mem_walk he]
  rw [walk_eq, hself, List.append_assoc, List.cons_append] at hinfix
  rw [← hinfix, List.nodup_middle, List.nodup_cons, List.mem_append, not_or] at hd
  rw [h] at hinfix
  have hsame := (List.append_cons_inj_of_notMem hd.1.1 hd.1.2).mp hinfix
  exact ⟨rest, hsame.2.2.symm⟩

/-- What names lead to from a node comes after it. -/
theorem mem_children_walks_of_descend (hne : names ≠ []) (h : n.descend names = some m) :
    (m.path, m) ∈ n.children.flatMap walk := by
  obtain ⟨name, more, rfl⟩ := List.exists_cons_of_ne_nil hne
  obtain ⟨c, hc, _, hd⟩ := descend_cons_eq_some h
  exact List.mem_flatMap.mpr ⟨c, hc, mem_walk_of_descend hd⟩

namespace Addressed

theorem nodup_walk (h : root.Addressed) : root.walk.Nodup :=
  h.nodup_paths.of_map

theorem path_ne_root (h : root.Addressed) (hn : root.descend names = some n) (hne : names ≠ []) :
    n.path ≠ "/" := by
  rw [h.path_eq_render hn]
  intro e
  rcases Path.render_eq_root (forall_names_of_descend h.no_slash hn) e with e | e
  · exact hne e
  · exact h.ne_singleton_empty hn e

/-- **A node below the root meets exactly what the root meets within its path.** -/
theorem mem_walk_iff_isWithin (h : root.Addressed) (hn : root.descend names = some n)
    (hne : names ≠ []) {e : String × Node} (he : e ∈ root.walk) :
    e ∈ n.walk ↔ Path.isWithin n.path e.1 = true := by
  obtain ⟨hp, names', hm⟩ := (mem_walk_iff_descend h.distinct).mp he
  have hwithin : Path.isWithin n.path e.1 = true ↔ names <+: names' := by
    have hr := h.path_ne_root hn hne
    rw [hp, h.path_eq_render hm]
    rw [h.path_eq_render hn] at hr ⊢
    exact Path.isWithin_render (forall_names_of_descend h.no_slash hn)
      (forall_names_of_descend h.no_slash hm) hne hr
  rw [hwithin]
  have hdistinct : n.Everywhere ChildrenDistinct := fun d hd =>
    h.distinct d (mem_walk_trans (mem_walk_of_descend hn) hd)
  constructor
  · intro hin
    obtain ⟨_, rest, hrest⟩ := (mem_walk_iff_descend hdistinct).mp hin
    have hlong := descend_append_eq_some.mpr ⟨n, hn, hrest⟩
    exact ⟨rest, h.names_eq _ _ _ _ hlong hm rfl⟩
  · intro ⟨rest, hlong⟩
    rw [← hlong] at hm
    obtain ⟨k, hk, hrest⟩ := descend_append_eq_some.mp hm
    cases hn.symm.trans hk
    exact (mem_walk_iff_descend hdistinct).mpr ⟨hp, rest, hrest⟩

end Addressed

end Node

/-- A piece that holds exactly the members that are wanted is what filtering leaves of a
    list that holds nothing twice. -/
theorem eq_filter_of_infix {α : Type} {block whole : List α} {wanted : α → Bool}
    (hi : block <:+: whole) (hd : whole.Nodup) (h : ∀ a ∈ whole, a ∈ block ↔ wanted a = true) :
    block = whole.filter wanted := by
  obtain ⟨before, after, rfl⟩ := hi
  obtain ⟨hd', _, hafter⟩ := List.nodup_append.mp hd
  obtain ⟨_, _, hbefore⟩ := List.nodup_append.mp hd'
  have hb : before.filter wanted = [] := by
    refine List.filter_eq_nil_iff.mpr fun a ha hw => ?_
    exact hbefore a ha a ((h a (by simp [ha])).mpr hw) rfl
  have hm : block.filter wanted = block := by
    refine List.filter_eq_self.mpr fun a ha => (h a (by simp [ha])).mp ha
  have ha : after.filter wanted = [] := by
    refine List.filter_eq_nil_iff.mpr fun a ha hw => ?_
    have hin := (h a (by simp [ha])).mpr hw
    exact hafter a (List.mem_append_right _ hin) a ha rfl
  rw [List.filter_append, List.filter_append, hb, hm, ha, List.nil_append, List.append_nil]

/-! ## 3. Walks of a filesystem -/

namespace Filesystem

variable {fs : Filesystem} {path : Option String} {cwd : String} {n : Node}

/-- The walk from a path is the piece of the whole walk that starts with the node at the
    path and holds what is within its path. In it a node comes before all that names
    lead to from it, and the children of a directory follow it in their order, each with
    all that is below it. -/
structure WalksSlice (fs : Filesystem) (path : Option String) (cwd : String) (n : Node)
    (whole block : List (String × Node)) : Prop where
  walk_whole : fs.walk (some "/") "/" = .ok whole
  walk_block : fs.walk path cwd = .ok block
  contiguous : block <:+: whole
  first : block.head? = some (n.path, n)
  exact : block = whole.filter fun e => Path.isWithin n.path e.1
  directoriesFirst : ∀ before d after, block = before ++ d :: after →
    ∀ names m, names ≠ [] → d.2.descend names = some m →
      (m.path, m) ∈ after ∧ (m.path, m) ∉ before
  siblings : ∀ before d after, block = before ++ d :: after →
    ∃ rest, after = d.2.children.flatMap Node.walk ++ rest

/-- **The walk from a path below the root is a slice of the whole walk**: the nodes whose
    path is that of the node there, or starts with it and a slash. -/
theorem walksSlice {p : Profile} {records : List Record} {built : Site.Built Node}
    (hb : Site.build p records = .ok built) (ht : fs.tree = some built.result)
    (hn : fs.resolve path cwd = .ok (some n)) (hne : n ≠ built.result) :
    ∃ whole block, fs.WalksSlice path cwd n whole block := by
  have ha := Site.build_addressed hb
  have hd := hn
  rw [resolve_of_tree ht] at hd
  have hd := Except.ok.inj hd
  have hnames : Path.namesFrom path cwd ≠ [] := by
    intro e
    rw [e] at hd
    exact hne (Option.some.inj hd).symm
  have hinfix : n.walk <:+: built.result.walk :=
    Node.isInfix_of_mem_walk (Node.mem_walk_of_descend hd)
  have hnodup : n.walk.Nodup := ha.nodup_walk.sublist hinfix.sublist
  refine ⟨_, _, walk_root ht, walk_of_resolve hn, hinfix, ?_, ?_, ?_, ?_⟩
  · rw [Node.walk_eq]
    rfl
  · exact eq_filter_of_infix hinfix ha.nodup_walk fun e he =>
      ha.mem_walk_iff_isWithin hd hnames he
  · intro before d after hsplit names m hm hdescend
    obtain ⟨rest, hafter⟩ := Node.of_walk_split hnodup hsplit
    have hin : (m.path, m) ∈ after :=
      hafter ▸ List.mem_append_left _ (Node.mem_children_walks_of_descend hm hdescend)
    rw [hsplit] at hnodup
    refine ⟨hin, fun hbefore => ?_⟩
    exact (List.nodup_append.mp hnodup).2.2 _ hbefore _ (List.mem_cons_of_mem _ hin) rfl
  · exact fun before d after hsplit => Node.of_walk_split hnodup hsplit

/-- Of two projects, one with the name of the other and more: what is met from the shorter
    name leaves out the longer one. -/
theorem walksSlice_gate :
    ∃ built n, Site.build {} [.bare (.int 1) "Gate House", .bare (.int 2) "Gate"] = .ok built ∧
      (∃ whole block, ({ tree := some built.result } : Filesystem).WalksSlice
        (some "gate") "/projects" n whole block) ∧
      n.walk.map Prod.fst = ["/projects/gate", "/projects/gate/overview",
        "/projects/gate/architecture", "/projects/gate/decisions.log", "/projects/gate/impact"] ∧
      "/projects/gate-house" ∈ built.result.walk.map Prod.fst := by
  obtain ⟨built, hb⟩ : ∃ built, Site.build {} [.bare (.int 1) "Gate House",
    .bare (.int 2) "Gate"] = .ok built := ⟨_, rfl⟩
  have hr : ∃ n, ({ tree := some built.result } : Filesystem).resolve (some "gate") "/projects" =
      .ok (some n) ∧ n.path = "/projects/gate" := by
    cases hb
    exact ⟨_, rfl, rfl⟩
  obtain ⟨n, hn, hp⟩ := hr
  have hne : n ≠ built.result := by
    intro he
    rw [he, (Site.build_addressed hb).path_eq] at hp
    exact absurd hp (by decide)
  refine ⟨built, n, hb, walksSlice hb rfl hn hne, ?_, ?_⟩
  · cases hb
    cases hn
    rfl
  · cases hb
    decide +kernel

end Filesystem

end Portfolio
