/-
  File:      Portfolio/Proofs/Node/Reading.lean
  Subject:   Reading a tree off its drawing.

  * `Legible`: the label of a node tells its name and its kind (`Legible.tag_eq`).
    `legible_below`: so it is below a node where only the empty name lies at `/` and no file
    has a name that ends in a slash.
  * `drawingBelow_cons_inj`: the lines below a node start with bars or blanks, those of the
    node after it with a connector; so the same lines are the same piece by piece.
  * `drawingBelow_inj`: lines of legible nodes that are drawn to the bottom tell the nodes.
    `sameShape_of_drawing`: so a drawing tells the shape of a tree.
-/
import Portfolio.Proofs.Node.Drawing

namespace Portfolio.Node

variable {n c : Node} {nodes : List Node}

/-! ## 1. Labels -/

/-- What a drawing shows of a node: its name, and whether it is a directory. -/
def tag (n : Node) : String × Bool :=
  (n.name, n.isDirectory)

/-- The name of a file does not end in a slash. -/
def FileNamed (n : Node) : Prop :=
  n.isDirectory = false → n.name.toList.getLast? ≠ some '/'

/-- The label tells name and kind: a slash at its end is that of a directory. -/
structure Legible (n : Node) : Prop where
  directory : n.isDirectory = true → n.label = n.name ++ "/"
  file : n.FileNamed

theorem label_of_isFile (h : n.isDirectory = false) : n.label = n.name := by
  cases n with
  | file => rfl
  | directory => cases h

theorem Legible.getLast?_label (h : n.Legible) :
    n.label.toList.getLast? = some '/' ↔ n.isDirectory = true := by
  cases hd : n.isDirectory with
  | true => simp [h.directory hd, String.toList_append]
  | false => simpa [label_of_isFile hd] using h.file hd

/-- **Legible nodes with one label have one name and are of one kind.** -/
theorem Legible.tag_eq {m : Node} (hn : n.Legible) (hm : m.Legible) (h : n.label = m.label) :
    n.tag = m.tag := by
  have hkind : n.isDirectory = m.isDirectory := by
    rw [Bool.eq_iff_iff, ← hn.getLast?_label, ← hm.getLast?_label, h]
  have hname : n.name = m.name := by
    cases hd : n.isDirectory with
    | true =>
      rw [hn.directory hd, hm.directory (hkind ▸ hd)] at h
      exact String.append_left_inj _ |>.mp h
    | false => rwa [label_of_isFile hd, label_of_isFile (hkind ▸ hd)] at h
  exact Prod.ext hname hkind

/-- Only a child without a name lies at `/`, whose label does not tell a name. -/
def RootApart (n : Node) : Prop :=
  ∀ c ∈ n.children, c.path = "/" → c.name = ""

/-- Where children lie where their names say it is so. -/
theorem rootApart_of_placed (h : n.ChildrenPlaced) : n.RootApart := by
  intro c hc hroot
  have hlen := congrArg String.length ((h c hc).symm.trans hroot)
  have hslash : ("/" : String).length = 1 := rfl
  refine String.length_eq_zero_iff.mp ?_
  unfold Path.join at hlen
  split at hlen
  · rw [String.length_append] at hlen
    omega
  · rw [String.length_append, String.length_append] at hlen
    omega

theorem legible_of_rootApart (ha : n.RootApart) (hc : c ∈ n.children) (hf : c.FileNamed) :
    c.Legible := by
  refine ⟨fun hd => ?_, hf⟩
  have hname := ha c hc
  cases c with
  | file => cases hd
  | directory name path nodes id =>
    show (if path = "/" then "/" else name ++ "/") = name ++ "/"
    by_cases hroot : path = "/"
    · rw [if_pos hroot, show name = "" from hname hroot]
      rfl
    · rw [if_neg hroot]

theorem legible_below (ha : n.Everywhere RootApart) (hf : n.Everywhere FileNamed) :
    ∀ c ∈ n.children, c.Everywhere Legible := by
  induction n using node_induction with
  | h n ih =>
    intro c hc
    exact everywhere_iff.mpr ⟨legible_of_rootApart ha.self hc (hf.child hc).self,
      ih c hc (ha.child hc) (hf.child hc)⟩

/-! ## 2. Depth and shape -/

/-- Nothing below the node is deeper than `depth`. -/
def Within (depth : Nat) (n : Node) : Prop :=
  ∀ t m, n.follow t = some m → t.length ≤ depth

theorem within_iff {depth : Nat} :
    n.Within depth ↔ ∀ s ∈ n.descendants, s.1.length ≤ depth := by
  constructor
  · exact fun h s hs => h s.1 s.2 ((mem_descendants n s.1 s.2).mp hs).2
  · intro h t m ht
    cases t with
    | nil => exact Nat.zero_le depth
    | cons i rest =>
      exact h (i :: rest, m) ((mem_descendants n _ m).mpr ⟨List.cons_ne_nil i rest, ht⟩)

instance (depth : Nat) (n : Node) : Decidable (n.Within depth) :=
  decidable_of_iff _ within_iff.symm

/-- Below the nodes of a list nothing is too deep for a drawing that starts with them. -/
def AllWithin (depth : Nat) (nodes : List Node) : Prop :=
  ∀ c ∈ nodes, ∀ t m, c.follow t = some m → t.length < depth

theorem Within.children {depth : Nat} (h : n.Within depth) : AllWithin depth n.children := by
  intro c hc t m ht
  obtain ⟨i, hi⟩ := List.getElem?_of_mem hc
  exact h (i :: t) m ((follow_cons hi t).trans ht)

theorem AllWithin.child {depth : Nat} (h : AllWithin (depth + 1) nodes) (hc : c ∈ nodes) :
    AllWithin depth c.children :=
  Within.children fun t m ht => Nat.le_of_lt_succ (h c hc t m ht)

theorem AllWithin.tail {depth : Nat} (h : AllWithin depth (c :: nodes)) : AllWithin depth nodes :=
  fun c hc => h c (List.mem_cons_of_mem _ hc)

/-- Along every trail the nodes of the two lists have the same names and kinds. -/
def SameBelow (nodes nodes' : List Node) : Prop :=
  ∀ (i : Nat) (t : Trail),
    (nodes[i]?.bind (follow · t)).map tag = (nodes'[i]?.bind (follow · t)).map tag

theorem SameBelow.nil : SameBelow [] [] :=
  fun _ _ => rfl

theorem SameBelow.cons {c' : Node} {nodes' : List Node} (ht : c.tag = c'.tag)
    (hc : SameBelow c.children c'.children) (h : SameBelow nodes nodes') :
    SameBelow (c :: nodes) (c' :: nodes') := by
  intro i t
  cases i with
  | zero =>
    cases t with
    | nil => exact congrArg some ht
    | cons j rest => exact hc j rest
  | succ i => exact h i t

/-! ## 3. Pieces of a drawing -/

/-- Two lists of which only the first parts have a property are cut at the same place. -/
theorem append_inj_of_head? {α : Type} {P : α → Prop} {as bs as' bs' : List α}
    (h : as ++ bs = as' ++ bs') (ha : ∀ x ∈ as, P x) (ha' : ∀ x ∈ as', P x)
    (hb : ∀ x ∈ bs.head?, ¬ P x) (hb' : ∀ x ∈ bs'.head?, ¬ P x) : as = as' ∧ bs = bs' := by
  induction as generalizing as' with
  | nil =>
    cases as' with
    | nil => exact ⟨rfl, h⟩
    | cons x as' =>
      rw [List.nil_append] at h
      exact absurd (ha' x List.mem_cons_self) (hb x (by rw [h]; rfl))
  | cons x as ih =>
    cases as' with
    | nil =>
      rw [List.nil_append] at h
      exact absurd (ha x List.mem_cons_self) (hb' x (by rw [← h]; rfl))
    | cons x' as' =>
      obtain ⟨rfl, hrest⟩ := List.cons.inj h
      obtain ⟨rfl, rfl⟩ := ih hrest (fun y hy => ha y (List.mem_cons_of_mem _ hy))
        fun y hy => ha' y (List.mem_cons_of_mem _ hy)
      exact ⟨rfl, rfl⟩

theorem toList_connector (last : Bool) :
    (connector last).toList = (if last then '└' else '├') :: ['─', '─', ' '] := by
  cases last <;> rfl

theorem toList_extension (last : Bool) :
    (extension last).toList = (if last then ' ' else '│') :: [' ', ' ', ' '] := by
  cases last <;> rfl

theorem connector_append_inj {last last' : Bool} {s s' : String}
    (h : connector last ++ s = connector last' ++ s') : last = last' ∧ s = s' := by
  have hlist := congrArg String.toList h
  rw [String.toList_append, String.toList_append, toList_connector, toList_connector] at hlist
  obtain ⟨hsign, hrest⟩ := List.cons.inj hlist
  refine ⟨?_, String.toList_inj.mp (List.append_cancel_left hrest)⟩
  cases last <;> cases last' <;> first | rfl | exact absurd hsign (by decide)

/-- What goes on with a connector does not go on with bars and blanks. -/
theorem connector_append_ne {last last' : Bool} {s s' : String} :
    connector last ++ s ≠ extension last' ++ s' := by
  intro h
  have hlist := congrArg String.toList h
  rw [String.toList_append, String.toList_append, toList_connector, toList_extension] at hlist
  have hsign := (List.cons.inj hlist).1
  cases last <;> cases last' <;> exact absurd hsign (by decide)

/-- The line goes on after the lead with the signs below a connector. -/
def IsBelow (lead line : String) : Prop :=
  ∃ last s, line = lead ++ (extension last ++ s)

theorem not_isBelow_connector (lead : String) (last : Bool) (s : String) :
    ¬ IsBelow lead (lead ++ (connector last ++ s)) := by
  rintro ⟨last', s', h⟩
  exact connector_append_ne (String.append_right_inj lead |>.mp h)

/-- Every line starts with the lead. -/
theorem exists_of_mem_drawingBelow {depth : Nat} {lead line : String}
    (h : line ∈ drawingBelow depth lead nodes) : ∃ s, line = lead ++ s := by
  induction depth generalizing lead nodes with
  | zero => cases h
  | succ depth ih =>
    induction nodes with
    | nil => cases h
    | cons c rest ihr =>
      rw [drawingBelow_cons, List.mem_cons, List.mem_append] at h
      rcases h with rfl | h | h
      · exact ⟨_, String.append_assoc⟩
      · obtain ⟨s, rfl⟩ := ih h
        exact ⟨_, String.append_assoc⟩
      · exact ihr h

theorem isBelow_of_mem {depth : Nat} {lead line : String} {last : Bool}
    (h : line ∈ drawingBelow depth (lead ++ extension last) nodes) : IsBelow lead line := by
  obtain ⟨s, rfl⟩ := exists_of_mem_drawingBelow h
  exact ⟨last, s, String.append_assoc⟩

theorem not_isBelow_of_mem_head? {depth : Nat} {lead line : String}
    (h : line ∈ (drawingBelow (depth + 1) lead nodes).head?) : ¬ IsBelow lead line := by
  cases nodes with
  | nil => cases h
  | cons c rest =>
    rw [drawingBelow_cons, List.head?_cons, String.append_assoc] at h
    cases h
    exact not_isBelow_connector lead _ _

/-- **The lines of two nodes and of those after them** are the same only piece by piece. -/
theorem drawingBelow_cons_inj {depth depth' : Nat} {lead : String} {c' : Node} {nodes' : List Node}
    (h : drawingBelow (depth + 1) lead (c :: nodes) =
      drawingBelow (depth' + 1) lead (c' :: nodes')) :
    c.label = c'.label ∧
      (∃ lead', drawingBelow depth lead' c.children = drawingBelow depth' lead' c'.children) ∧
      drawingBelow (depth + 1) lead nodes = drawingBelow (depth' + 1) lead nodes' := by
  rw [drawingBelow_cons, drawingBelow_cons, String.append_assoc, String.append_assoc] at h
  obtain ⟨hfirst, hrest⟩ := List.cons.inj h
  obtain ⟨hlast, hlabel⟩ := connector_append_inj (String.append_right_inj lead |>.mp hfirst)
  rw [hlast] at hrest
  obtain ⟨hbelow, hafter⟩ := append_inj_of_head? hrest (fun _ => isBelow_of_mem)
    (fun _ => isBelow_of_mem) (fun _ => not_isBelow_of_mem_head?) fun _ => not_isBelow_of_mem_head?
  exact ⟨hlabel, ⟨_, hbelow⟩, hafter⟩

/-! ## 4. Drawings to the bottom -/

/-- Nodes that are drawn to the bottom leave a line. -/
theorem exists_succ_of_allWithin {depth : Nat} (h : AllWithin depth (c :: nodes)) :
    ∃ d, depth = d + 1 :=
  Nat.exists_eq_succ_of_ne_zero (Nat.ne_of_gt (h c List.mem_cons_self [] c rfl))

theorem eq_nil_of_drawingBelow {depth : Nat} (lead : String) (hw : AllWithin depth nodes)
    (h : drawingBelow depth lead nodes = []) : nodes = [] := by
  cases nodes with
  | nil => rfl
  | cons c rest =>
    obtain ⟨d, rfl⟩ := exists_succ_of_allWithin hw
    rw [drawingBelow_cons] at h
    cases h

/-- **Lines of legible nodes that are drawn to the bottom tell the nodes.** -/
theorem drawingBelow_inj {depth depth' : Nat} {lead : String} {nodes' : List Node}
    (hl : ∀ c ∈ nodes, c.Everywhere Legible) (hl' : ∀ c ∈ nodes', c.Everywhere Legible)
    (hw : AllWithin depth nodes) (hw' : AllWithin depth' nodes')
    (h : drawingBelow depth lead nodes = drawingBelow depth' lead nodes') :
    SameBelow nodes nodes' := by
  -- on the depth for what is below a node, and on the list for the nodes after it
  induction depth generalizing depth' lead nodes nodes' with
  | zero =>
    cases eq_nil_of_drawingBelow lead hw' h.symm
    cases eq_nil_of_drawingBelow lead hw rfl
    exact SameBelow.nil
  | succ depth ih =>
    induction nodes generalizing nodes' with
    | nil =>
      cases eq_nil_of_drawingBelow lead hw' h.symm
      exact SameBelow.nil
    | cons c nodes ihr =>
      cases nodes' with
      | nil =>
        rw [drawingBelow_nil] at h
        cases eq_nil_of_drawingBelow lead hw h
      | cons c' nodes' =>
        obtain ⟨depth', rfl⟩ := exists_succ_of_allWithin hw'
        obtain ⟨hlabel, ⟨lead', hbelow⟩, hafter⟩ := drawingBelow_cons_inj h
        obtain ⟨hc, hnodes⟩ := List.forall_mem_cons.mp hl
        obtain ⟨hc', hnodes'⟩ := List.forall_mem_cons.mp hl'
        refine SameBelow.cons (hc.self.tag_eq hc'.self hlabel) ?_
          (ihr hnodes hnodes' hw.tail hw'.tail hafter)
        exact ih (fun _ => hc.child) (fun _ => hc'.child) (hw.child List.mem_cons_self)
          (hw'.child List.mem_cons_self) hbelow

/-! ## 5. Whole drawings -/

/-- Two nodes bear one label, and below them the same names stand for the same kinds in the
    same order. -/
structure SameShape (n n' : Node) : Prop where
  label : n.label = n'.label
  below : ∀ t, t ≠ [] → (n.follow t).map tag = (n'.follow t).map tag

/-- A tree that can be read off its drawing: every name is on one line, every label tells a
    name, and no file looks like a directory. -/
structure Readable (n : Node) : Prop where
  oneLine : n.Everywhere OneLine
  rootApart : n.Everywhere RootApart
  fileNamed : n.Everywhere FileNamed

/-- **Drawings down to the bottom tell the shape.** -/
theorem sameShape_of_drawing {n' : Node} {depth depth' : Nat} (hn : n.Readable)
    (hn' : n'.Readable) (hw : n.Within depth) (hw' : n'.Within depth')
    (h : n.drawing depth = n'.drawing depth') : n.SameShape n' := by
  obtain ⟨hlabel, hbelow⟩ := List.cons.inj h
  have hsame : SameBelow n.children n'.children :=
    drawingBelow_inj (legible_below hn.rootApart hn.fileNamed)
      (legible_below hn'.rootApart hn'.fileNamed) hw.children hw'.children hbelow
  refine ⟨hlabel, fun t ht => ?_⟩
  obtain ⟨i, rest, rfl⟩ := List.exists_cons_of_ne_nil ht
  exact hsame i rest

end Portfolio.Node
