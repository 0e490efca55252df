/-
  File:      Portfolio/Proofs/Node/Drawing.lean
  Subject:   The lines of a drawing, by the places that they show.

  * `group`, `leadOf`: four signs for each step of a trail: a bar or blanks for
    the nodes on the way, by whether a sibling follows there, and a connector for the last one.
    `isLead_leadOf`: they are found by fours.
  * `drawing_eq`: the drawing is the label of the node and a line for each
    place below it down to the depth, in the order of the walk.
  * `newline_notMem_drawing`: no line holds a newline if no name does.
-/
import Portfolio.Node.Drawing
import Portfolio.Proofs.Node.Trail

namespace Portfolio.Node

variable {n c : Node} {nodes : List Node} {i : Nat}

/-! ## 1. What stands before a label -/

/-- The trail to the next child of the same node. -/
def nextTrail : Trail → Trail
  | [] => []
  | [i] => [i + 1]
  | i :: j :: rest => i :: nextTrail (j :: rest)

/-- A sibling follows the node at the trail. -/
def followed (n : Node) (t : Trail) : Bool :=
  (n.follow (nextTrail t)).isSome

/-- The four signs for the step `j` of a trail. -/
def group (n : Node) (t : Trail) (j : Nat) : String :=
  if j + 1 = t.length then
    if followed n t then "├── " else "└── "
  else
    if followed n (t.take (j + 1)) then "│   " else "    "

/-- What stands before the label of the node at a trail. -/
def leadOf (n : Node) (t : Trail) : String :=
  String.join ((List.range t.length).map (group n t))

theorem length_group (n : Node) (t : Trail) (j : Nat) : (group n t j).length = 4 := by
  unfold group
  split <;> split <;> rfl

theorem followed_singleton (n : Node) (i : Nat) :
    followed n [i] = n.children[i + 1]?.isSome := by
  unfold followed
  rw [nextTrail, follow_singleton]

/-- Further down a child follows the same siblings as seen from above. -/
theorem followed_cons (h : n.children[i]? = some c) {t : Trail} (ht : t ≠ []) :
    followed n (i :: t) = followed c t := by
  obtain ⟨j, rest, rfl⟩ := List.exists_cons_of_ne_nil ht
  unfold followed
  rw [nextTrail, follow_cons h]

theorem leadOf_singleton (n : Node) (i : Nat) :
    leadOf n [i] = connector (!followed n [i]) := by
  have h : leadOf n [i] = group n [i] 0 := by
    unfold leadOf
    simp [String.join]
  rw [h]
  unfold group connector
  cases followed n [i] <;> rfl

theorem group_cons_zero {t : Trail} (ht : t ≠ []) :
    group n (i :: t) 0 = extension (!followed n [i]) := by
  unfold group extension
  rw [if_neg (by simpa using ht)]
  cases h : followed n [i] <;> simp [h]

theorem group_cons_succ (h : n.children[i]? = some c) {t : Trail} (ht : t ≠ []) (j : Nat) :
    group n (i :: t) (j + 1) = group c t j := by
  have htake : t.take (j + 1) ≠ [] := fun e => ht (by simpa using e)
  unfold group
  rw [List.length_cons, followed_cons h ht, List.take_succ_cons, followed_cons h htake]
  by_cases hj : j + 1 = t.length
  · rw [if_pos (by omega), if_pos hj]
  · rw [if_neg (by omega), if_neg hj]

/-- **The lead as seen from above** is that of the child after one more group. -/
theorem leadOf_cons (h : n.children[i]? = some c) {t : Trail} (ht : t ≠ []) :
    leadOf n (i :: t) = extension (!followed n [i]) ++ leadOf c t := by
  unfold leadOf
  rw [List.length_cons, List.range_succ_eq_map, List.map_cons, List.map_map, String.join_cons,
    group_cons_zero ht]
  congr 2
  exact List.map_congr_left fun j _ => group_cons_succ h ht j

/-- Groups of four signs make a text whose signs are found by fours. -/
theorem toList_join_fours {groups : List String} (h : ∀ g ∈ groups, g.length = 4) :
    (String.join groups).length = 4 * groups.length ∧
      ∀ j g, groups[j]? = some g →
        ((String.join groups).toList.drop (4 * j)).take 4 = g.toList := by
  induction groups with
  | nil => exact ⟨rfl, fun j g hg => nomatch hg⟩
  | cons g groups ih =>
    obtain ⟨hlen, hat⟩ := ih fun g hg => h g (List.mem_cons_of_mem _ hg)
    have hg : g.toList.length = 4 := h g List.mem_cons_self
    rw [String.join_cons]
    constructor
    · rw [String.length_append, hlen, h g List.mem_cons_self, List.length_cons]
      omega
    · intro j g' hj
      rw [String.toList_append]
      cases j with
      | zero =>
        cases hj
        rw [Nat.mul_zero, List.drop_zero, ← hg, List.take_left]
      | succ j =>
        have e : 4 * (j + 1) = g.toList.length + 4 * j := by omega
        rw [e, List.drop_length_add_append]
        exact hat j g' hj

/-- What stands before the label of the node at a trail: four signs for each step. -/
structure IsLead (n : Node) (t : Trail) (lead : String) : Prop where
  length : lead.length = 4 * t.length
  groups : ∀ j < t.length, (lead.toList.drop (4 * j)).take 4 = (group n t j).toList

theorem isLead_leadOf (n : Node) (t : Trail) : IsLead n t (leadOf n t) := by
  have h : ∀ g ∈ (List.range t.length).map (group n t), g.length = 4 := by
    intro g hg
    obtain ⟨j, _, rfl⟩ := List.mem_map.mp hg
    exact length_group n t j
  obtain ⟨hlen, hat⟩ := toList_join_fours h
  rw [List.length_map, List.length_range] at hlen
  refine ⟨hlen, fun j hj => hat j _ ?_⟩
  rw [List.getElem?_map, List.getElem?_range hj]
  rfl

/-! ## 2. The lines -/

/-- The lines of the first node, of what is below it, and of the others. -/
theorem drawingBelow_cons (depth : Nat) (lead : String) (c : Node) (rest : List Node) :
    drawingBelow (depth + 1) lead (c :: rest) =
      (lead ++ connector rest.isEmpty ++ c.label) ::
        (drawingBelow depth (lead ++ extension rest.isEmpty) c.children ++
          drawingBelow (depth + 1) lead rest) := by
  cases rest with
  | nil => simp [drawingBelow, markLast]
  | cons c' rest => simp [drawingBelow, markLast]

theorem drawingBelow_nil (depth : Nat) (lead : String) : drawingBelow depth lead [] = [] := by
  cases depth with
  | zero => rfl
  | succ depth => rfl

/-- The line of the node at a trail. -/
def lineOf (n : Node) (lead : String) (s : Trail × Node) : String :=
  lead ++ leadOf n s.1 ++ s.2.label

/-- The places down to a depth. -/
def downTo (depth : Nat) (places : List (Trail × Node)) : List (Trail × Node) :=
  places.filter (·.1.length ≤ depth)

/-- A child and what is below it are drawn in the lines of the child. -/
theorem lines_child {depth : Nat} {lead : String} (hc : n.children[i]? = some c) {last : Bool}
    (hl : followed n [i] = !last)
    (h : drawingBelow depth (lead ++ extension last) c.children =
      (downTo depth c.descendants).map (lineOf c (lead ++ extension last))) :
    (lead ++ connector last ++ c.label) ::
        drawingBelow depth (lead ++ extension last) c.children =
      (downTo (depth + 1) (([i], c) :: c.descendants.map fun s => (i :: s.1, s.2))).map
        (lineOf n lead) := by
  have hfirst : lineOf n lead ([i], c) = lead ++ connector last ++ c.label := by
    unfold lineOf
    rw [leadOf_singleton, hl, Bool.not_not]
  have hbelow : ∀ s ∈ downTo depth c.descendants,
      lineOf c (lead ++ extension last) s = lineOf n lead (i :: s.1, s.2) := by
    intro s hs
    have hne : s.1 ≠ [] := ((mem_descendants c s.1 s.2).mp (List.mem_of_mem_filter hs)).1
    unfold lineOf
    rw [leadOf_cons hc hne, hl, Bool.not_not, ← String.append_assoc]
  have hdepth : downTo (depth + 1) (([i], c) :: c.descendants.map fun s => (i :: s.1, s.2)) =
      ([i], c) :: (downTo depth c.descendants).map fun s => (i :: s.1, s.2) := by
    unfold downTo
    rw [List.filter_cons_of_pos (by simp), List.filter_map]
    congr 2
    exact List.filter_congr fun s _ => by simp
  rw [hdepth, List.map_cons, hfirst, List.map_map, h]
  exact congrArg _ (List.map_congr_left hbelow)

theorem drawingBelow_drop {depth : Nat} {lead : String}
    (ih : ∀ lead (c : Node), drawingBelow depth lead c.children =
      (downTo depth c.descendants).map (lineOf c lead))
    (hn : ∀ k, n.children[i + k]? = nodes[k]?) :
    drawingBelow (depth + 1) lead nodes =
      (downTo (depth + 1) (descendantsFrom i nodes)).map (lineOf n lead) := by
  induction nodes generalizing i with
  | nil =>
    rw [drawingBelow_nil, descendantsFrom]
    rfl
  | cons c rest ihr =>
    have hc : n.children[i]? = some c := hn 0
    have hl : followed n [i] = !rest.isEmpty := by
      rw [followed_singleton, hn 1]
      cases rest <;> rfl
    have hrest : ∀ k, n.children[i + 1 + k]? = rest[k]? := by
      intro k
      rw [Nat.add_assoc, Nat.add_comm 1 k, hn (k + 1), List.getElem?_cons_succ]
    rw [drawingBelow_cons, ← List.cons_append, lines_child hc hl (ih _ c), ihr hrest,
      descendantsFrom]
    unfold downTo
    rw [List.filter_append, List.map_append]

theorem drawingBelow_eq (depth : Nat) (lead : String) (n : Node) :
    drawingBelow depth lead n.children = (downTo depth n.descendants).map (lineOf n lead) := by
  induction depth generalizing lead n with
  | zero =>
    have h : downTo 0 n.descendants = [] := by
      refine List.filter_eq_nil_iff.mpr fun s hs => ?_
      have hne : s.1 ≠ [] := ((mem_descendants n s.1 s.2).mp hs).1
      simpa using hne
    rw [h]
    rfl
  | succ depth ih =>
    rw [descendants_eq]
    exact drawingBelow_drop ih fun k => by rw [Nat.zero_add]

/-- **The drawing is the label of the node and a line for each place below it**, down to the
    depth and in the order of the walk. -/
theorem drawing_eq (n : Node) (depth : Nat) :
    n.drawing depth =
      n.label :: (downTo depth n.descendants).map fun s => leadOf n s.1 ++ s.2.label := by
  have h : lineOf n "" = fun s => leadOf n s.1 ++ s.2.label := by
    funext s
    unfold lineOf
    rw [String.empty_append]
  unfold drawing
  rw [drawingBelow_eq, h]

/-! ## 3. Lines without newlines -/

/-- The name holds no newline. -/
def OneLine (n : Node) : Prop :=
  '\n' ∉ n.name.toList

theorem newline_notMem_label (h : n.OneLine) : '\n' ∉ n.label.toList := by
  have hslash : '\n' ∉ ("/" : String).toList := by decide
  cases n with
  | file => exact h
  | directory name path nodes id =>
    unfold label
    dsimp only
    split
    · exact hslash
    · rw [String.toList_append, List.mem_append, not_or]
      exact ⟨h, hslash⟩

theorem newline_notMem_group (n : Node) (t : Trail) (j : Nat) :
    '\n' ∉ (group n t j).toList := by
  unfold group
  split <;> split <;> decide

theorem newline_notMem_leadOf (n : Node) (t : Trail) : '\n' ∉ (leadOf n t).toList := by
  unfold leadOf
  rw [String.toList_join, List.mem_flatMap]
  rintro ⟨g, hg, hm⟩
  obtain ⟨j, _, rfl⟩ := List.mem_map.mp hg
  exact newline_notMem_group n t j hm

/-- No line of the drawing holds a newline. -/
theorem newline_notMem_drawing (h : n.Everywhere OneLine) {depth : Nat} {line : String}
    (hl : line ∈ n.drawing depth) : '\n' ∉ line.toList := by
  rw [drawing_eq, List.mem_cons, List.mem_map] at hl
  rcases hl with rfl | ⟨⟨t, m⟩, hs, rfl⟩
  · exact newline_notMem_label h.self
  · have hm : n.follow t = some m := ((mem_descendants n t m).mp (List.mem_of_mem_filter hs)).2
    have hname : m.OneLine := h _ (mem_walk_of_follow hm)
    rw [String.toList_append, List.mem_append, not_or]
    exact ⟨newline_notMem_leadOf n t, newline_notMem_label hname⟩

end Portfolio.Node
