/-
  File:      Portfolio/Proofs/Filesystem/Drawing.lean
  Subject:   The text that draws a tree.

  * `splitOn_drawing`: the lines of the text are those of the drawing, if every name is on one
    line.
  * `DrawnFaithfully`: the text shows the walk, a line for each place down to the depth, and
    a text that shows all tells the shape. `drawnFaithfully`: so does the text for every node.
  * `readable_of_ofRecords`: every built tree can be read off its text, whatever the records hold.
-/
import Portfolio.Proofs.Filesystem.Addresses
import Portfolio.Proofs.Node.Reading
import Portfolio.Proofs.Site.Spelling

namespace Portfolio.Filesystem

open Node (Trail)

variable {fs : Filesystem} {path : Option String} {cwd : String} {n : Node}

/-! ## 1. The text and its lines -/

/-- The text is cut into the lines of the drawing. -/
theorem splitOn_drawing (h : n.Everywhere Node.OneLine) (depth : Nat) :
    ("\n".intercalate (n.drawing depth)).toList.splitOn '\n' =
      (n.drawing depth).map String.toList := by
  have hsep : ("\n" : String).toList = ['\n'] := rfl
  rw [String.toList_intercalate, hsep, List.splitOn_intercalate]
  · intro line hl
    obtain ⟨line, hm, rfl⟩ := List.mem_map.mp hl
    exact Node.newline_notMem_drawing h hm
  · exact List.cons_ne_nil _ _

/-- One text is that of one drawing. -/
theorem drawing_inj {n' : Node} {depth depth' : Nat} (hn : n.Everywhere Node.OneLine)
    (hn' : n'.Everywhere Node.OneLine)
    (h : "\n".intercalate (n.drawing depth) = "\n".intercalate (n'.drawing depth')) :
    n.drawing depth = n'.drawing depth' := by
  have hlines := splitOn_drawing hn depth
  rw [h, splitOn_drawing hn' depth'] at hlines
  exact ((List.map_inj_right fun _ _ => String.toList_inj.mp).mp hlines).symm

/-! ## 2. What the text shows -/

/-- The line of a place below a node: four signs for each step of the way, then the label. -/
def IsLineOf (n : Node) (s : Trail × Node) (line : String) : Prop :=
  ∃ lead, Node.IsLead n s.1 lead ∧ line = lead ++ s.2.label

/-- The text at a path shows the walk of the node there. -/
structure DrawnFaithfully (fs : Filesystem) (path : Option String) (cwd : String) (n : Node) :
    Prop where
  walk : fs.walk path cwd = .ok ((n.path, n) :: n.descendants.map fun s => (s.2.path, s.2))
  places : ∀ t m, (t, m) ∈ n.descendants ↔ t ≠ [] ∧ n.follow t = some m
  sorted : (n.descendants.map Prod.fst).Pairwise (· < ·)
  lines : ∀ depth : Nat, ∃ text rest, fs.drawing path depth cwd = .ok text ∧
    text.toList.splitOn '\n' = (n.label :: rest).map String.toList ∧
    List.Forall₂ (IsLineOf n) (Node.downTo depth n.descendants) rest
  shape : n.Readable → ∀ (fs' : Filesystem) (path' : Option String) (cwd' : String) (n' : Node)
    (depth depth' : Nat), fs'.resolve path' cwd' = .ok (some n') → n'.Readable →
    n.Within depth → n'.Within depth' →
    fs.drawing path depth cwd = fs'.drawing path' depth' cwd' → n.SameShape n'

/-- **The text is faithful to the walk**, at every path and for every depth. -/
theorem drawnFaithfully (h : fs.resolve path cwd = .ok (some n))
    (hn : n.Everywhere Node.OneLine) : fs.DrawnFaithfully path cwd n where
  walk := by rw [walk_of_resolve h, Node.walk_eq_descendants]
  places := n.mem_descendants
  sorted := n.sorted_descendants
  lines depth := by
    refine ⟨"\n".intercalate (n.drawing depth),
      (Node.downTo depth n.descendants).map fun s => n.leadOf s.1 ++ s.2.label,
      drawing_of_resolve h depth, ?_, ?_⟩
    · rw [splitOn_drawing hn, Node.drawing_eq]
    · rw [List.forall₂_map_right_iff, List.forall₂_same]
      exact fun s _ => ⟨n.leadOf s.1, n.isLead_leadOf s.1, rfl⟩
  shape := by
    intro hr fs' path' cwd' n' depth depth' h' hr' hw hw' htext
    rw [drawing_of_resolve h, drawing_of_resolve h'] at htext
    exact Node.sameShape_of_drawing hr hr' hw hw'
      (drawing_inj hr.oneLine hr'.oneLine (Except.ok.inj htext))

/-! ## 3. Built trees -/

/-- A built tree, and each part of it, can be read off its text. -/
theorem readable_of_ofRecords {p : Profile} {records : List Record}
    {made : Site.Built Filesystem} (hm : ofRecords p records = .ok made)
    (h : made.result.resolve path cwd = .ok (some n)) : n.Readable := by
  obtain ⟨built, hb, ht, _⟩ := ofRecords_eq_ok hm
  rw [resolve_of_tree ht] at h
  have hbelow : ∀ e ∈ n.walk, e ∈ built.result.walk := fun e =>
    Node.mem_walk_trans (Node.mem_walk_of_descend (Except.ok.inj h))
  refine ⟨fun e he hline => ?_, fun e he => ?_, fun e he _ hslash => ?_⟩
  · exact absurd (Site.build_spelled hb e (hbelow e he) _ hline) (by decide)
  · exact Node.rootApart_of_placed ((Site.build_addressed hb).placed e (hbelow e he))
  · exact (Site.build_spelled hb e (hbelow e he)).slash_notMem (List.mem_of_getLast? hslash)

/-- A directory of two projects, one with an attachment, as seen from the other. Nothing in it
    is deeper than three steps. -/
theorem drawnFaithfully_projects :
    ∃ made n, ofRecords {} [{ Record.bare (.int 1) "Alpha Beta" with
        attachments := [⟨.text "a.pdf", some (.text "Plan"), none⟩] },
        .bare (.int 2) "Fleet"] = .ok made ∧
      made.result.resolve (some "..") "/projects/fleet" = .ok (some n) ∧
      n.Everywhere Node.OneLine ∧ made.result.DrawnFaithfully (some "..") "/projects/fleet" n ∧
      n.Readable ∧ n.Within 3 ∧
      made.result.drawing (some "..") 2 "/projects/fleet" = .ok ("projects/\n" ++
        "├── alpha-beta/\n" ++
        "│   ├── overview\n│   ├── architecture\n│   ├── decisions.log\n│   ├── impact\n" ++
        "│   └── attachments/\n" ++
        "└── fleet/\n" ++
        "    ├── overview\n    ├── architecture\n    ├── decisions.log\n    └── impact") := by
  obtain ⟨made, hm⟩ : ∃ made, ofRecords {} [{ Record.bare (.int 1) "Alpha Beta" with
      attachments := [⟨.text "a.pdf", some (.text "Plan"), none⟩] },
      .bare (.int 2) "Fleet"] = .ok made := ⟨_, rfl⟩
  obtain ⟨n, hn⟩ : ∃ n, made.result.resolve (some "..") "/projects/fleet" = .ok (some n) := by
    cases hm
    exact ⟨_, rfl⟩
  have hr : n.Readable := readable_of_ofRecords hm hn
  refine ⟨made, n, hm, hn, hr.oneLine, drawnFaithfully hn hr.oneLine, hr, ?_, ?_⟩
  · cases hm
    cases hn
    decide +kernel
  · cases hm
    decide +kernel

end Portfolio.Filesystem
