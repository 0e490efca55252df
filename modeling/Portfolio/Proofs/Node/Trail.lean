/-
  File:      Portfolio/Proofs/Node/Trail.lean
  Subject:   The places of a tree, by positions instead of names.

  * `Trail`, `follow`: the way to a node says at each step which child comes next.
    Names may repeat and paths may lie; trails tell all places apart.
  * `descendants`: what is below a node, each with its trail.
    `mem_descendants`: these are all places but the node itself.
  * `walk_eq_descendants`: the walk meets the node and then these places, in this order;
    `sorted_descendants`: it is the order of the trails, so no place comes twice.
-/
import Portfolio.Proofs.Node.Lookup

namespace Portfolio.Node

variable {n c m : Node} {nodes : List Node} {i : Nat}

/-! ## 1. Following a trail -/

/-- The way to a node: at each step the position among the children. -/
abbrev Trail := List Nat

/-- The node that a trail leads to. -/
def follow (n : Node) : Trail → Option Node
  | [] => some n
  | i :: rest => n.children[i]?.bind fun child => child.follow rest

theorem follow_cons (h : n.children[i]? = some c) (rest : Trail) :
    n.follow (i :: rest) = c.follow rest := by
  rw [follow, h, Option.bind_some]

theorem follow_cons_eq_some {rest : Trail} :
    n.follow (i :: rest) = some m ↔ ∃ c, n.children[i]? = some c ∧ c.follow rest = some m := by
  rw [follow, Option.bind_eq_some_iff]

/-- A trail of one step leads to a child. -/
theorem follow_singleton (n : Node) (i : Nat) : n.follow [i] = n.children[i]? :=
  Option.bind_fun_some _

/-! ## 2. What is below -/

mutual

/-- What is below a node, with the trails to it, in the order of the walk. -/
def descendants : Node → List (Trail × Node)
  | .file .. => []
  | .directory _ _ children _ => descendantsFrom 0 children

/-- The nodes of a list, the first one at the position `i`, and what is below them. -/
def descendantsFrom : Nat → List Node → List (Trail × Node)
  | _, [] => []
  | i, c :: rest =>
    (([i], c) :: c.descendants.map fun s => (i :: s.1, s.2)) ++ descendantsFrom (i + 1) rest

end

theorem descendants_eq (n : Node) : n.descendants = descendantsFrom 0 n.children := by
  cases n with
  | file => rw [descendants, children, descendantsFrom]
  | directory => rw [descendants, children]

theorem flatMap_walk_eq
    (h : ∀ c ∈ nodes, c.walk = (c.path, c) :: c.descendants.map fun s => (s.2.path, s.2)) :
    nodes.flatMap walk = (descendantsFrom i nodes).map fun s => (s.2.path, s.2) := by
  induction nodes generalizing i with
  | nil =>
    rw [descendantsFrom]
    rfl
  | cons c nodes ih =>
    rw [descendantsFrom, List.flatMap_cons, h c List.mem_cons_self, List.map_append,
      List.map_cons, List.map_map, ih fun c hc => h c (List.mem_cons_of_mem _ hc)]
    rfl

/-- **The walk meets the node and then what is below it.** -/
theorem walk_eq_descendants (n : Node) :
    n.walk = (n.path, n) :: n.descendants.map fun s => (s.2.path, s.2) := by
  induction n using node_induction with
  | h n ih =>
    rw [descendants_eq, ← flatMap_walk_eq ih, walk_eq]

/-- A child and what is below it: the trails that start with its position. -/
theorem mem_descendantsChild
    (h : ∀ t m, (t, m) ∈ c.descendants ↔ t ≠ [] ∧ c.follow t = some m) {t : Trail} :
    (t, m) ∈ ([i], c) :: c.descendants.map (fun s => (i :: s.1, s.2)) ↔
      ∃ rest, t = i :: rest ∧ c.follow rest = some m := by
  rw [List.mem_cons, List.mem_map]
  constructor
  · rintro (e | ⟨⟨rest, m'⟩, hs, e⟩)
    · cases e
      exact ⟨[], rfl, rfl⟩
    · cases e
      exact ⟨rest, rfl, ((h rest _).mp hs).2⟩
  · rintro ⟨rest, rfl, hr⟩
    cases rest with
    | nil =>
      cases hr
      exact Or.inl rfl
    | cons j rest => exact Or.inr ⟨(j :: rest, m), (h _ _).mpr ⟨List.cons_ne_nil _ _, hr⟩, rfl⟩

theorem mem_descendantsFrom
    (h : ∀ c ∈ nodes, ∀ t m, (t, m) ∈ c.descendants ↔ t ≠ [] ∧ c.follow t = some m) {t : Trail} :
    (t, m) ∈ descendantsFrom i nodes ↔
      ∃ k c rest, t = (i + k) :: rest ∧ nodes[k]? = some c ∧ c.follow rest = some m := by
  induction nodes generalizing i with
  | nil => simp [descendantsFrom]
  | cons c nodes ih =>
    rw [descendantsFrom, List.mem_append, mem_descendantsChild (h c List.mem_cons_self),
      ih fun c hc => h c (List.mem_cons_of_mem _ hc)]
    constructor
    · rintro (⟨rest, rfl, hr⟩ | ⟨k, c', rest, rfl, hk, hr⟩)
      · exact ⟨0, c, rest, rfl, rfl, hr⟩
      · exact ⟨k + 1, c', rest, by rw [Nat.add_assoc, Nat.add_comm 1 k], hk, hr⟩
    · rintro ⟨k, c', rest, rfl, hk, hr⟩
      cases k with
      | zero =>
        cases hk
        exact Or.inl ⟨rest, rfl, hr⟩
      | succ k => exact Or.inr ⟨k, c', rest, by rw [Nat.add_assoc, Nat.add_comm 1 k], hk, hr⟩

/-- **What is below a node is what trails lead to**, except for the empty one. -/
theorem mem_descendants (n : Node) (t : Trail) (m : Node) :
    (t, m) ∈ n.descendants ↔ t ≠ [] ∧ n.follow t = some m := by
  induction n using node_induction generalizing t m with
  | h n ih =>
    rw [descendants_eq, mem_descendantsFrom ih]
    constructor
    · rintro ⟨k, c, rest, rfl, hk, hr⟩
      rw [Nat.zero_add]
      exact ⟨List.cons_ne_nil _ _, follow_cons_eq_some.mpr ⟨c, hk, hr⟩⟩
    · rintro ⟨hne, h⟩
      cases t with
      | nil => exact absurd rfl hne
      | cons k rest =>
        obtain ⟨c, hk, hr⟩ := follow_cons_eq_some.mp h
        exact ⟨k, c, rest, by rw [Nat.zero_add], hk, hr⟩

/-- What a trail leads to is met by the walk. -/
theorem mem_walk_of_follow {t : Trail} (h : n.follow t = some m) : (m.path, m) ∈ n.walk := by
  rw [walk_eq_descendants, List.mem_cons]
  cases t with
  | nil =>
    cases h
    exact Or.inl rfl
  | cons i rest =>
    exact Or.inr (List.mem_map_of_mem ((mem_descendants n _ m).mpr ⟨List.cons_ne_nil i rest, h⟩))

/-! ## 3. The order of the trails -/

/-- A child comes before what is below it. -/
theorem sorted_descendantsChild (h : (c.descendants.map Prod.fst).Pairwise (· < ·)) (i : Nat) :
    ((([i], c) :: c.descendants.map fun s => (i :: s.1, s.2)).map Prod.fst).Pairwise (· < ·) := by
  have hmap : (([i], c) :: c.descendants.map fun s => (i :: s.1, s.2)).map Prod.fst =
      ([] :: c.descendants.map Prod.fst).map (i :: ·) := by
    rw [List.map_cons, List.map_map, List.map_cons, List.map_map]
    rfl
  rw [hmap]
  refine List.Pairwise.map _ (fun t t' ht => List.cons_lt_cons_self.mpr ht)
    (List.pairwise_cons.mpr ⟨fun t ht => ?_, h⟩)
  obtain ⟨⟨t, m⟩, hs, rfl⟩ := List.mem_map.mp ht
  have hne : t ≠ [] := ((mem_descendants c t m).mp hs).1
  obtain ⟨j, rest, rfl⟩ := List.exists_cons_of_ne_nil hne
  exact List.nil_lt_cons j rest

theorem sorted_descendantsFrom
    (h : ∀ c ∈ nodes, (c.descendants.map Prod.fst).Pairwise (· < ·)) :
    ((descendantsFrom i nodes).map Prod.fst).Pairwise (· < ·) := by
  induction nodes generalizing i with
  | nil =>
    rw [descendantsFrom]
    exact List.Pairwise.nil
  | cons c nodes ih =>
    rw [descendantsFrom, List.map_append]
    refine List.pairwise_append.mpr ⟨sorted_descendantsChild (h c List.mem_cons_self) i,
      ih fun c hc => h c (List.mem_cons_of_mem _ hc), ?_⟩
    -- what comes later starts with a later position
    intro t ht t' ht'
    obtain ⟨⟨t, m⟩, hs, rfl⟩ := List.mem_map.mp ht
    obtain ⟨⟨t', m'⟩, hs', rfl⟩ := List.mem_map.mp ht'
    obtain ⟨rest, rfl, _⟩ := (mem_descendantsChild (mem_descendants c)).mp hs
    obtain ⟨k, _, rest', rfl, _⟩ := (mem_descendantsFrom fun c _ => mem_descendants c).mp hs'
    exact List.cons_lt_cons_iff.mpr (Or.inl (by omega))

/-- **The walk goes in the order of the trails**: a node before what is below it, and all that
    before the next child. -/
theorem sorted_descendants (n : Node) : (n.descendants.map Prod.fst).Pairwise (· < ·) := by
  induction n using node_induction with
  | h n ih =>
    rw [descendants_eq]
    exact sorted_descendantsFrom ih

end Portfolio.Node
