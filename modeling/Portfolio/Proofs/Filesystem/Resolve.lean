/-
  File:      Portfolio/Proofs/Filesystem/Resolve.lean
  Subject:   What the queries answer, by what the path resolves to.

  * `resolve_of_tree`: on a filesystem with a tree a path resolves to where its
    names lead from the root; in a rooted tree that node has the absolute form of
    the path (`path_eq_of_resolve`).
  * `listingOf`, `contentOf`: the answers to listing and to reading, by what
    is found: success or the error, in the words of the path as it was given.
  * `AnswersBy`: all queries at a path answer by one node, or by none;
    `answersBy_of_resolve`: they answer by what the path resolves to.
    So do walking and drawing (`walk_of_resolve`, `drawing_of_resolve`).
  * `ofRecords_eq_ok`: a filesystem made from records has the tree that is
    built from them, and its log is that of building it with one entry more.
-/
import Portfolio.Filesystem
import Portfolio.Proofs.Node.Walk
import Portfolio.Proofs.Outcome

namespace Portfolio.Filesystem

variable {fs : Filesystem} {path : Option String} {cwd : String}

/-! ## 1. Resolving -/

theorem resolve_of_tree {root : Node} (h : fs.tree = some root) (path : Option String)
    (cwd : String) : fs.resolve path cwd = .ok (root.descend (Path.namesFrom path cwd)) := by
  unfold resolve Filesystem.root
  rw [h, Path.segments_resolve]
  rfl

theorem resolve_of_no_tree (h : fs.tree = none) (path : Option String) (cwd : String) :
    fs.resolve path cwd = .error .notInitialized := by
  unfold resolve Filesystem.root
  rw [h]
  rfl

theorem resolve_eq_ok {found : Option Node} (h : fs.resolve path cwd = .ok found) :
    ∃ root, fs.tree = some root ∧ root.descend (Path.namesFrom path cwd) = found := by
  cases ht : fs.tree with
  | none =>
    rw [resolve_of_no_tree ht] at h
    cases h
  | some root =>
    rw [resolve_of_tree ht] at h
    exact ⟨root, rfl, Except.ok.inj h⟩

/-- In a rooted tree what a path resolves to lies at the absolute form of the path. -/
theorem path_eq_of_resolve {root n : Node} (ht : fs.tree = some root) (hr : root.Rooted)
    (h : fs.resolve path cwd = .ok (some n)) : n.path = Path.resolve path cwd := by
  rw [resolve_of_tree ht] at h
  exact hr.path_of_segments (fun _ hs => Path.isSegment_of_mem_namesFrom hs) (Except.ok.inj h)

/-- The walk from the root is the walk of the tree. -/
theorem walk_root {root : Node} (h : fs.tree = some root) :
    fs.walk (some "/") "/" = .ok root.walk := by
  have hn : Path.namesFrom (some "/") "/" = [] := by decide
  unfold walk require
  rw [resolve_of_tree h, hn]
  rfl

/-! ## 2. Answers by what is found -/

/-- The answer to listing. -/
def listingOf (path : Option String) : Option Node → Except ConsoleError (List DirectoryEntry)
  | none => .error (.pathNotFound path)
  | some (.file ..) => .error (.notADirectory path)
  | some (.directory _ _ nodes _) => .ok ((nodes.map entryOf).mergeSort DirectoryEntry.le)

/-- The answer to reading. -/
def contentOf (path : Option String) : Option Node → Except ConsoleError String
  | none => .error (.pathNotFound path)
  | some (.directory ..) => .error (.notAFile path)
  | some (.file _ _ content _) => .ok content

/-- Every query at the path answers by the node that is found, or says that
    there is none. -/
structure AnswersBy (fs : Filesystem) (path : Option String) (cwd : String)
    (found : Option Node) : Prop where
  resolve : fs.resolve path cwd = .ok found
  exists? : fs.exists? path cwd = .ok found.isSome
  isDirectory : fs.isDirectory path cwd = .ok (found.any Node.isDirectory)
  isFile : fs.isFile path cwd = .ok (found.any (!·.isDirectory))
  list : fs.list path cwd = listingOf path found
  contentAt : fs.contentAt path cwd = contentOf path found

theorem require_of_resolve_none (h : fs.resolve path cwd = .ok none) :
    fs.require path cwd = .error (.pathNotFound path) := by
  unfold require
  rw [h]
  rfl

theorem require_of_resolve_some {n : Node} (h : fs.resolve path cwd = .ok (some n)) :
    fs.require path cwd = .ok n := by
  unfold require
  rw [h]
  rfl

theorem list_of_resolve {found : Option Node} (h : fs.resolve path cwd = .ok found) :
    fs.list path cwd = listingOf path found := by
  unfold list requireDirectory
  cases found with
  | none =>
    rw [require_of_resolve_none h]
    rfl
  | some n =>
    rw [require_of_resolve_some h]
    cases n <;> rfl

/-- What is listed are the children of a directory. -/
theorem list_eq_ok {entries : List DirectoryEntry} (h : fs.list path cwd = .ok entries) :
    ∃ d, fs.resolve path cwd = .ok (some d) ∧ d.isDirectory = true ∧
      entries = (d.children.map entryOf).mergeSort DirectoryEntry.le := by
  cases hr : fs.resolve path cwd with
  | error e =>
    unfold list requireDirectory require at h
    rw [hr] at h
    cases h
  | ok found =>
    rw [list_of_resolve hr] at h
    match found with
    | none => cases h
    | some (.file ..) => cases h
    | some (.directory name path nodes id) =>
      exact ⟨_, rfl, rfl, (Except.ok.inj h).symm⟩

theorem contentAt_of_resolve {found : Option Node} (h : fs.resolve path cwd = .ok found) :
    fs.contentAt path cwd = contentOf path found := by
  unfold contentAt
  cases found with
  | none =>
    rw [require_of_resolve_none h]
    rfl
  | some n =>
    rw [require_of_resolve_some h]
    cases n <;> rfl

theorem walk_of_resolve {n : Node} (h : fs.resolve path cwd = .ok (some n)) :
    fs.walk path cwd = .ok n.walk := by
  unfold walk
  rw [require_of_resolve_some h]
  rfl

theorem drawing_of_resolve {n : Node} (h : fs.resolve path cwd = .ok (some n)) (depth : Nat) :
    fs.drawing path depth cwd = .ok ("\n".intercalate (n.drawing depth)) := by
  unfold drawing
  rw [require_of_resolve_some h, if_neg (by omega), Int.toNat_natCast]
  rfl

/-- **What a path resolves to decides every query at it.** -/
theorem answersBy_of_resolve {found : Option Node} (h : fs.resolve path cwd = .ok found) :
    fs.AnswersBy path cwd found where
  resolve := h
  exists? := by
    unfold exists?
    rw [h]
    rfl
  isDirectory := by
    unfold isDirectory
    rw [h]
    rfl
  isFile := by
    unfold isFile
    rw [h]
    rfl
  list := list_of_resolve h
  contentAt := contentAt_of_resolve h

/-! ## 3. Filesystems from records -/

theorem populate_of_no_tree (h : fs.tree = none) (records : List Record) :
    fs.populate records = Site.build fs.profile records >>= fun built =>
      pure ⟨{ fs with tree := some built.result }, built.log ++ [initializedEntry]⟩ := by
  unfold populate
  rw [h]

theorem populate_of_tree {root : Node} (h : fs.tree = some root) (records : List Record) :
    fs.populate records = .ok ⟨fs, []⟩ := by
  unfold populate
  rw [h]

/-- A filesystem made from records has the tree that is built from them. -/
theorem ofRecords_eq_ok {p : Profile} {records : List Record} {made : Site.Built Filesystem}
    (h : ofRecords p records = .ok made) :
    ∃ built, Site.build p records = .ok built ∧ made.result.tree = some built.result ∧
      made.log = built.log ++ [initializedEntry] := by
  unfold ofRecords at h
  rw [populate_of_no_tree rfl, bind_eq_ok] at h
  obtain ⟨built, hb, h⟩ := h
  have e := pure_eq_ok.mp h
  exact ⟨built, hb, by rw [← e], by rw [← e]⟩

end Portfolio.Filesystem
