/-
  File:      Portfolio/Proofs/Node/Walk.lean
  Subject:   What a tree holds, by walking it and by descending into it.

  * `node_induction`: a property that passes from the children to a node holds
    of every node.
  * `walk_eq`: a walk meets the node and then what is met from its children on, one after
    the other; `isInfix_of_mem_walk`: and this in one piece wherever the node is met.
  * `Everywhere`: a property of a node and of all below it, read off the walk.
  * `mem_walk_iff_descend`: where no two children of a directory bear one
    name, the walk meets exactly the nodes that names lead to.
  * `path_of_descend`: where every child lies where its name says, a node that
    names lead to has the path that the names make.
  * `Rooted`: a tree whose root is a directory at `/` and whose other nodes
    lie where their names say. In it a node that segments lead to has their
    path (`Rooted.path_of_descend`).
-/
import Portfolio.Node
import Portfolio.Proofs.Path.Canonical

namespace Portfolio.Node

/-! ## 1. Induction over a tree -/

theorem sizeOf_lt_of_mem_children {n c : Node} (h : c ∈ n.children) : sizeOf c < sizeOf n := by
  cases n with
  | file => exact absurd h List.not_mem_nil
  | directory name path nodes id =>
    have hc : sizeOf c < sizeOf nodes := List.sizeOf_lt_of_mem h
    rw [directory.sizeOf_spec]
    omega

/-- What passes from the children of a node to the node holds of every node. -/
theorem node_induction {P : Node → Prop} (h : ∀ n, (∀ c ∈ n.children, P c) → P n) (n : Node) :
    P n :=
  h n fun c hc =>
    have := sizeOf_lt_of_mem_children hc
    node_induction h c
termination_by sizeOf n

/-! ## 2. Walking -/

theorem walkAll_eq_flatMap (nodes : List Node) : walkAll nodes = nodes.flatMap walk := by
  induction nodes with
  | nil => rfl
  | cons n rest ih => rw [walkAll, ih, List.flatMap_cons]

/-- **A walk meets the node and then what the walks of its children meet.** -/
theorem walk_eq (n : Node) : n.walk = (n.path, n) :: n.children.flatMap walk := by
  cases n with
  | file => rfl
  | directory name path nodes id =>
    rw [walk, walkAll_eq_flatMap]
    rfl

theorem mem_walk {n : Node} {e : String × Node} :
    e ∈ n.walk ↔ e = (n.path, n) ∨ ∃ c ∈ n.children, e ∈ c.walk := by
  rw [walk_eq, List.mem_cons, List.mem_flatMap]

theorem self_mem_walk (n : Node) : (n.path, n) ∈ n.walk :=
  mem_walk.mpr (Or.inl rfl)

/-- The walk gives every node under its own path. -/
theorem fst_of_mem_walk {n : Node} {e : String × Node} (h : e ∈ n.walk) : e.1 = e.2.path := by
  induction n using node_induction with
  | h n ih =>
    rcases mem_walk.mp h with rfl | ⟨c, hc, h⟩
    · rfl
    · exact ih c hc h

/-- **What is met from a node on** stands in one piece wherever the node is met. -/
theorem isInfix_of_mem_walk {n : Node} {e : String × Node} (h : e ∈ n.walk) :
    e.2.walk <:+: n.walk := by
  induction n using node_induction with
  | h n ih =>
    rcases mem_walk.mp h with rfl | ⟨c, hc, h⟩
    · exact List.infix_rfl
    · have hchild : c.walk <:+: n.children.flatMap walk := by
        rw [List.flatMap_def]
        exact List.infix_of_mem_flatten (List.mem_map_of_mem hc)
      rw [walk_eq n]
      exact (ih c hc h).trans (List.infix_cons hchild)

/-- What the walk of a node below meets is met from above. -/
theorem mem_walk_trans {n m : Node} {path : String} {e : String × Node} (hm : (path, m) ∈ n.walk)
    (he : e ∈ m.walk) : e ∈ n.walk :=
  (isInfix_of_mem_walk hm).subset he

theorem mem_walk_child {n m c : Node} {path : String} (hm : (path, m) ∈ n.walk)
    (hc : c ∈ m.children) : (c.path, c) ∈ n.walk :=
  mem_walk_trans hm (mem_walk.mpr (Or.inr ⟨c, hc, self_mem_walk c⟩))

/-- A property of the node and of all below it. -/
def Everywhere (P : Node → Prop) (n : Node) : Prop :=
  ∀ e ∈ n.walk, P e.2

theorem everywhere_iff {P : Node → Prop} {n : Node} :
    n.Everywhere P ↔ P n ∧ ∀ c ∈ n.children, c.Everywhere P := by
  unfold Everywhere
  constructor
  · intro h
    exact ⟨h _ (self_mem_walk n), fun c hc e he => h e (mem_walk.mpr (Or.inr ⟨c, hc, he⟩))⟩
  · rintro ⟨hn, hc⟩ e he
    rcases mem_walk.mp he with rfl | ⟨c, hm, he⟩
    · exact hn
    · exact hc c hm e he

theorem Everywhere.mono {P Q : Node → Prop} {n : Node} (h : n.Everywhere P)
    (hPQ : ∀ m, P m → Q m) : n.Everywhere Q :=
  fun e he => hPQ e.2 (h e he)

theorem Everywhere.self {P : Node → Prop} {n : Node} (h : n.Everywhere P) : P n :=
  (everywhere_iff.mp h).1

theorem Everywhere.child {P : Node → Prop} {n c : Node} (h : n.Everywhere P)
    (hc : c ∈ n.children) : c.Everywhere P :=
  (everywhere_iff.mp h).2 c hc

/-! ## 3. Descending -/

/-- The path of the root leads nowhere else. -/
theorem descend_segments_root (n : Node) : n.descend (Path.segments "/") = some n := by
  have h : Path.segments "/" = [] := by decide
  rw [h]
  rfl

theorem named?_eq_some {nodes : List Node} {c : Node} {name : String}
    (h : named? nodes name = some c) : c ∈ nodes ∧ c.name = name := by
  unfold named? at h
  exact ⟨List.mem_of_find?_eq_some h, by simpa using List.find?_some h⟩

theorem child?_eq_some {n c : Node} {name : String} (h : n.child? name = some c) :
    c ∈ n.children ∧ c.name = name :=
  named?_eq_some h

theorem descend_cons_eq_some {n m : Node} {name : String} {rest : List String}
    (h : n.descend (name :: rest) = some m) :
    ∃ c ∈ n.children, c.name = name ∧ c.descend rest = some m := by
  unfold descend at h
  split at h
  · cases h
  · rename_i c hc
    obtain ⟨hm, hn⟩ := child?_eq_some hc
    exact ⟨c, hm, hn, h⟩

/-- Going on along more names is descending along all of them. -/
theorem descend_append_eq_some {n m : Node} {names rest : List String} :
    n.descend (names ++ rest) = some m ↔
      ∃ k, n.descend names = some k ∧ k.descend rest = some m := by
  induction names generalizing n with
  | nil => simp [descend]
  | cons name names ih =>
    rw [List.cons_append, descend, descend]
    cases n.child? name with
    | none => simp
    | some c => exact ih

theorem mem_walk_of_descend {n m : Node} {names : List String}
    (h : n.descend names = some m) : (m.path, m) ∈ n.walk := by
  induction names generalizing n with
  | nil =>
    have e : n = m := Option.some.inj h
    exact e ▸ self_mem_walk n
  | cons name rest ih =>
    obtain ⟨c, hc, -, hd⟩ := descend_cons_eq_some h
    exact mem_walk.mpr (Or.inr ⟨c, hc, ih hd⟩)

/-- What holds of the name of every node below holds of the names that lead
    to a node. -/
theorem forall_names_of_descend {Q : String → Prop} {n m : Node} {names : List String}
    (hQ : n.Everywhere fun m => ∀ c ∈ m.children, Q c.name) (h : n.descend names = some m) :
    ∀ name ∈ names, Q name := by
  induction names generalizing n with
  | nil => exact fun _ hm => absurd hm List.not_mem_nil
  | cons first rest ih =>
    obtain ⟨c, hc, rfl, hd⟩ := descend_cons_eq_some h
    intro name hm
    rcases List.mem_cons.mp hm with rfl | hm
    · exact hQ.self c hc
    · exact ih (hQ.child hc) hd name hm

/-! ### Children with names of their own -/

/-- No two children bear one name. -/
def ChildrenDistinct (n : Node) : Prop :=
  (n.children.map name).Nodup

theorem named?_of_nodup {nodes : List Node} (hd : (nodes.map name).Nodup) {c : Node}
    (hc : c ∈ nodes) : named? nodes c.name = some c := by
  unfold named?
  induction nodes with
  | nil => exact absurd hc List.not_mem_nil
  | cons n rest ih =>
    rw [List.map_cons, List.nodup_cons] at hd
    rcases List.mem_cons.mp hc with rfl | hc
    · rw [List.find?_cons_of_pos (by simp)]
    · have hne : n.name ≠ c.name := fun e => hd.1 (e ▸ List.mem_map_of_mem hc)
      rw [List.find?_cons_of_neg (by simpa using hne)]
      exact ih hd.2 hc

/-- **The walk meets exactly the nodes that names lead to.** -/
theorem mem_walk_iff_descend {n : Node} (hd : n.Everywhere ChildrenDistinct) {path : String}
    {m : Node} :
    (path, m) ∈ n.walk ↔ path = m.path ∧ ∃ names, n.descend names = some m := by
  constructor
  · intro h
    refine ⟨fst_of_mem_walk h, ?_⟩
    induction n using node_induction with
    | h n ih =>
      rcases mem_walk.mp h with e | ⟨c, hc, h⟩
      · cases e
        exact ⟨[], rfl⟩
      · obtain ⟨names, hn⟩ := ih c hc (hd.child hc) h
        refine ⟨c.name :: names, ?_⟩
        unfold descend child?
        rw [named?_of_nodup hd.self hc]
        exact hn
  · rintro ⟨rfl, names, h⟩
    exact mem_walk_of_descend h

/-! ### Children where their names say -/

/-- Every child has the path that its name makes. -/
def ChildrenPlaced (n : Node) : Prop :=
  ∀ c ∈ n.children, c.path = Path.join n.path c.name

theorem path_of_descend {n m : Node} {names : List String} (hp : n.Everywhere ChildrenPlaced)
    (h : n.descend names = some m) : m.path = names.foldl Path.join n.path := by
  induction names generalizing n with
  | nil =>
    cases h
    rfl
  | cons name rest ih =>
    obtain ⟨c, hc, rfl, hd⟩ := descend_cons_eq_some h
    rw [ih (hp.child hc) hd, hp.self c hc]
    rfl

/-! ## 4. Whole trees -/

/-- A tree from the root on: a directory at `/`, and below it every node where
    its name says. The names may be anything. -/
structure Rooted (root : Node) : Prop where
  isDirectory : root.isDirectory = true
  path_eq : root.path = "/"
  placed : root.Everywhere ChildrenPlaced

/-- A node below the root has the path of the names that lead to it, unless
    the first one is empty. -/
theorem Rooted.path_of_descend {root n : Node} (hr : root.Rooted) {names : List String}
    (hh : names.head? ≠ some "") (h : root.descend names = some n) :
    n.path = Path.render names := by
  rw [Node.path_of_descend hr.placed h, hr.path_eq, Path.foldl_join_root hh]

theorem Rooted.path_of_segments {root n : Node} (hr : root.Rooted) {names : List String}
    (hn : ∀ name ∈ names, Path.IsSegment name) (h : root.descend names = some n) :
    n.path = Path.render names := by
  refine hr.path_of_descend (fun hh => ?_) h
  exact (hn "" (List.mem_of_head? hh)).ne_empty rfl

end Portfolio.Node
