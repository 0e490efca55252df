/-
  File:      Portfolio/Proofs/Node/Lookup.lean
  Subject:   Descending into a tree is looking a path up in its walk.

  * `Addressed`: a rooted tree in which siblings bear different names, no name
    holds a slash, and no node right below the root has the empty name.
    Further down the empty name may occur.
  * `Addressed.names_eq`: two chains of names that lead to one path are the
    same, so no path occurs twice in the walk (`Addressed.nodup_paths`).
  * `Addressed.mem_walk_iff`: the walk gives a node under the path of segments
    exactly when the segments lead to it.
  * `Addressed.lookup_walk`: so the node of the walk under that path is where
    the segments lead.
-/
import Mathlib.Data.List.Nodup
import Portfolio.Proofs.Node.Walk

namespace Portfolio.Node

/-! ## 1. Paths that are all different -/

/-- The paths of a walk: that of the node, then those of its children. -/
theorem map_fst_walk (n : Node) :
    n.walk.map Prod.fst = n.path :: n.children.flatMap fun c => c.walk.map Prod.fst := by
  rw [walk_eq, List.map_cons, List.map_flatMap]

/-- Names that lead to nodes of one path are the same names. -/
def NamesApart (n : Node) : Prop :=
  ∀ names names' m m', n.descend names = some m → n.descend names' = some m' →
    m.path = m'.path → names = names'

theorem descend_cons_of_nodup {n c : Node} (hd : n.ChildrenDistinct) (hc : c ∈ n.children)
    (names : List String) : n.descend (c.name :: names) = c.descend names := by
  rw [descend, child?, named?_of_nodup hd hc]

/-- From where names lead, the name of a child leads to the child. -/
theorem descend_concat_of_nodup {n m c : Node} {names : List String}
    (hd : n.Everywhere ChildrenDistinct) (hm : n.descend names = some m) (hc : c ∈ m.children) :
    n.descend (names ++ [c.name]) = some c := by
  have hm' : m.ChildrenDistinct := hd _ (mem_walk_of_descend hm)
  exact descend_append_eq_some.mpr ⟨m, hm, descend_cons_of_nodup hm' hc []⟩

theorem NamesApart.child {n c : Node} (h : n.NamesApart) (hd : n.ChildrenDistinct)
    (hc : c ∈ n.children) : c.NamesApart := by
  intro names names' m m' hm hm' hp
  rw [← descend_cons_of_nodup hd hc] at hm hm'
  exact (List.cons.inj (h _ _ _ _ hm hm' hp)).2

/-- What the walk of a child meets is reached by names that start with that of
    the child. -/
theorem exists_names_of_mem_walk_child {n c : Node} (hd : n.Everywhere ChildrenDistinct)
    (hc : c ∈ n.children) {path : String} (h : path ∈ c.walk.map Prod.fst) :
    ∃ names m, n.descend (c.name :: names) = some m ∧ m.path = path := by
  obtain ⟨⟨path', m⟩, hm, rfl⟩ := List.mem_map.mp h
  obtain ⟨hp, names, hn⟩ := (mem_walk_iff_descend (hd.child hc)).mp hm
  exact ⟨names, m, (descend_cons_of_nodup hd.self hc names).trans hn, hp.symm⟩

/-- **No path occurs twice in the walk** of a tree that keeps names apart. -/
theorem nodup_walk {n : Node} (hd : n.Everywhere ChildrenDistinct) (h : n.NamesApart) :
    (n.walk.map Prod.fst).Nodup := by
  induction n using node_induction with
  | h n ih =>
    rw [map_fst_walk, List.nodup_cons, List.nodup_flatMap]
    refine ⟨fun hm => ?_, fun c hc => ih c hc (hd.child hc) (h.child hd.self hc), ?_⟩
    · obtain ⟨c, hc, hm⟩ := List.mem_flatMap.mp hm
      obtain ⟨names, m, hn, hp⟩ := exists_names_of_mem_walk_child hd hc hm
      exact List.cons_ne_nil _ _ (h _ _ _ _ hn (rfl : n.descend [] = some n) hp)
    · refine (List.pairwise_map.mp hd.self).imp_of_mem fun {c c'} hc hc' hne => ?_
      intro path hm hm'
      obtain ⟨names, m, hn, hp⟩ := exists_names_of_mem_walk_child hd hc hm
      obtain ⟨names', m', hn', hp'⟩ := exists_names_of_mem_walk_child hd hc' hm'
      exact hne (List.cons.inj (h _ _ _ _ hn hn' (hp.trans hp'.symm))).1

/-! ## 2. Trees whose paths are addresses -/

/-- A rooted tree whose paths tell its nodes apart, save those below an empty
    name. -/
structure Addressed (root : Node) : Prop extends Rooted root where
  distinct : root.Everywhere ChildrenDistinct
  no_slash : root.Everywhere fun n => ∀ c ∈ n.children, '/' ∉ c.name.toList
  top_named : ∀ c ∈ root.children, c.name ≠ ""

namespace Addressed

variable {root n : Node} {names : List String}

/-- No chain of names starts with the empty one. -/
theorem head_ne_empty (h : root.Addressed) (hn : root.descend names = some n) :
    names.head? ≠ some "" := by
  cases names with
  | nil => exact fun e => nomatch e
  | cons first rest =>
    obtain ⟨c, hc, rfl, _⟩ := descend_cons_eq_some hn
    intro e
    exact h.top_named c hc (Option.some.inj e)

theorem path_eq_render (h : root.Addressed) (hn : root.descend names = some n) :
    n.path = Path.render names :=
  h.path_of_descend (h.head_ne_empty hn) hn

theorem ne_singleton_empty (h : root.Addressed) (hn : root.descend names = some n) :
    names ≠ [""] :=
  fun e => h.head_ne_empty hn (by rw [e]; rfl)

/-- **Two chains of names that lead to one path are the same.** -/
theorem names_eq (h : root.Addressed) : root.NamesApart := by
  intro names names' n n' hn hn' hp
  rw [h.path_eq_render hn, h.path_eq_render hn'] at hp
  exact Path.render_inj (forall_names_of_descend h.no_slash hn)
    (forall_names_of_descend h.no_slash hn') (h.ne_singleton_empty hn) (h.ne_singleton_empty hn') hp

/-- **No path occurs twice in the walk.** -/
theorem nodup_paths (h : root.Addressed) : (root.walk.map Prod.fst).Nodup :=
  nodup_walk h.distinct h.names_eq

/-- **The walk gives a node under the path of segments exactly when these lead
    to it.** -/
theorem mem_walk_iff (h : root.Addressed) (hs : ∀ s ∈ names, Path.IsSegment s) :
    (Path.render names, n) ∈ root.walk ↔ root.descend names = some n := by
  constructor
  · intro hm
    obtain ⟨hp, names', hn⟩ := (mem_walk_iff_descend h.distinct).mp hm
    have hne : names ≠ [""] := fun e => (hs "" (e ▸ List.mem_singleton_self _)).ne_empty rfl
    have e : names = names' := Path.render_inj (fun s hm => (hs s hm).no_slash)
      (forall_names_of_descend h.no_slash hn) hne (h.ne_singleton_empty hn)
      (hp.trans (h.path_eq_render hn))
    exact e ▸ hn
  · intro hn
    rw [← h.path_of_segments hs hn]
    exact mem_walk_of_descend hn

/-- **Descending by segments is looking their path up in the walk.** -/
theorem lookup_walk (h : root.Addressed) (hs : ∀ s ∈ names, Path.IsSegment s) :
    root.walk.lookup (Path.render names) = root.descend names := by
  cases hl : root.walk.lookup (Path.render names) with
  | none =>
    cases hd : root.descend names with
    | none => rfl
    | some n =>
      have hm := (h.mem_walk_iff hs).mpr hd
      exact absurd (List.lookup_eq_none_iff.mp hl _ hm) (by simp)
  | some n =>
    obtain ⟨before, after, hw, _⟩ := List.lookup_eq_some_iff.mp hl
    have hm : (Path.render names, n) ∈ root.walk := by
      rw [hw]
      exact List.mem_append_right _ List.mem_cons_self
    exact ((h.mem_walk_iff hs).mp hm).symm

end Addressed

end Portfolio.Node
