/-
  File:      Portfolio/Proofs/Node/Place.lean
  Subject:   Placing a node among others.

  * `mem_place`: what is there afterwards was there before or is the new node.
  * `names_place`: a new name comes last; a name that is there keeps its place.
    So names that were different stay different (`nodup_names_place`).
  * `named?_place`: the name of the new node leads to the new node, every other
    name where it led before.
-/
import Portfolio.Node

namespace Portfolio.Node

theorem mem_place {n c : Node} {nodes : List Node} (h : c ∈ place n nodes) : c = n ∨ c ∈ nodes := by
  induction nodes with
  | nil => exact Or.inl (List.mem_singleton.mp h)
  | cons m rest ih =>
    unfold place at h
    split at h
    · rcases List.mem_cons.mp h with rfl | h
      · exact Or.inl rfl
      · exact Or.inr (List.mem_cons_of_mem _ h)
    · rcases List.mem_cons.mp h with rfl | h
      · exact Or.inr List.mem_cons_self
      · rcases ih h with h | h
        · exact Or.inl h
        · exact Or.inr (List.mem_cons_of_mem _ h)

/-- The names after placing: a name that is there stays where it is. -/
theorem names_place (n : Node) (nodes : List Node) :
    (place n nodes).map name =
      if n.name ∈ nodes.map name then nodes.map name else nodes.map name ++ [n.name] := by
  induction nodes with
  | nil => rfl
  | cons m rest ih =>
    unfold place
    by_cases hm : m.name = n.name
    · rw [if_pos hm, List.map_cons, List.map_cons, hm, if_pos List.mem_cons_self]
    · have hmem : n.name ∈ (m :: rest).map name ↔ n.name ∈ rest.map name := by
        rw [List.map_cons, List.mem_cons]
        exact ⟨fun h => h.resolve_left fun e => hm e.symm, Or.inr⟩
      rw [if_neg hm, List.map_cons, ih]
      by_cases hn : n.name ∈ rest.map name
      · rw [if_pos hn, if_pos (hmem.mpr hn)]
        rfl
      · rw [if_neg hn, if_neg (mt hmem.mp hn)]
        rfl

theorem mem_names_place {n : Node} {nodes : List Node} {s : String} :
    s ∈ (place n nodes).map name ↔ s = n.name ∨ s ∈ nodes.map name := by
  rw [names_place]
  split
  · rename_i hn
    exact ⟨Or.inr, fun h => h.elim (fun e => e ▸ hn) id⟩
  · rw [List.mem_append, List.mem_singleton, or_comm]

theorem nodup_names_place {n : Node} {nodes : List Node} (h : (nodes.map name).Nodup) :
    ((place n nodes).map name).Nodup := by
  rw [names_place]
  split
  · exact h
  · rename_i hn
    rw [List.nodup_append]
    refine ⟨h, by simp, fun a ha b hb e => ?_⟩
    rw [List.mem_singleton] at hb
    exact hn (hb ▸ e ▸ ha)

theorem named?_eq_none_iff {nodes : List Node} {s : String} :
    named? nodes s = none ↔ s ∉ nodes.map name := by
  unfold named?
  rw [List.find?_eq_none, List.mem_map]
  constructor
  · rintro h ⟨n, hn, rfl⟩
    exact h n hn (beq_self_eq_true _)
  · exact fun h n hn e => h ⟨n, hn, beq_iff_eq.mp e⟩

theorem named?_cons (m : Node) (nodes : List Node) (s : String) :
    named? (m :: nodes) s = if m.name = s then some m else named? nodes s := by
  unfold named?
  rw [List.find?_cons]
  by_cases hs : m.name = s
  · rw [if_pos hs, beq_iff_eq.mpr hs]
  · rw [if_neg hs, beq_eq_false_iff_ne.mpr hs]

theorem named?_place (n : Node) (nodes : List Node) (s : String) :
    named? (place n nodes) s = if n.name = s then some n else named? nodes s := by
  induction nodes with
  | nil => exact named?_cons n [] s
  | cons m rest ih =>
    unfold place
    rw [named?_cons m rest]
    by_cases hm : m.name = n.name
    · rw [if_pos hm, named?_cons, hm]
      by_cases hs : n.name = s
      · rw [if_pos hs, if_pos hs]
      · rw [if_neg hs, if_neg hs, if_neg hs]
    · rw [if_neg hm, named?_cons, ih]
      by_cases hs : m.name = s
      · rw [if_pos hs, if_pos hs, if_neg fun e => hm (hs.trans e.symm)]
      · rw [if_neg hs, if_neg hs]

theorem length_place (n : Node) (nodes : List Node) :
    (place n nodes).length =
      if n.name ∈ nodes.map name then nodes.length else nodes.length + 1 := by
  rw [← List.length_map name, names_place]
  split
  · exact List.length_map name
  · rw [List.length_append, List.length_map]
    rfl

/-- A node of a new name takes no place from another. -/
theorem place_of_notMem {n : Node} {nodes : List Node} (h : n.name ∉ nodes.map name) :
    place n nodes = nodes ++ [n] := by
  induction nodes with
  | nil => rfl
  | cons m rest ih =>
    rw [List.map_cons, List.mem_cons, not_or] at h
    unfold place
    rw [if_neg fun e => h.1 e.symm, ih h.2]
    rfl

theorem foldl_place_of_nodup {placed nodes : List Node} (h : ((placed ++ nodes).map name).Nodup) :
    nodes.foldl (fun placed n => place n placed) placed = placed ++ nodes := by
  induction nodes generalizing placed with
  | nil => exact (List.append_nil placed).symm
  | cons n rest ih =>
    have hassoc : placed ++ n :: rest = (placed ++ [n]) ++ rest := by simp
    rw [hassoc] at h ⊢
    have hnew : n.name ∉ placed.map name := by
      intro hm
      rw [List.map_append, List.map_append, List.nodup_append, List.nodup_append] at h
      exact h.1.2.2 _ hm _ (List.mem_singleton.mpr rfl) rfl
    rw [List.foldl_cons, place_of_notMem hnew]
    exact ih h

/-- **Nodes of different names all stay**, in the order in which they are placed. -/
theorem placeAll_of_nodup {nodes : List Node} (h : (nodes.map name).Nodup) :
    placeAll nodes = nodes := by
  have hn : (([] ++ nodes).map name).Nodup := h
  exact foldl_place_of_nodup hn

end Portfolio.Node
