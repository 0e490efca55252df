/-
  File:      Portfolio/Proofs/Session/Entering.lean
  Subject:   Three ways into a directory: a session begins in it, moves to it, or opens it.

  * `arrival`: how entering ends, by what the path resolves to: at the path of a
    directory, or with the error for a file or for nothing.
  * `start_of_resolve`, `changeDirectory_of_resolve`: beginning and moving by the arrival.
    A session begins at the root without looking at the tree; where the root lies at "/",
    this is what it would find there.
  * `opened`: what comes of opening. `openNode_missing_iff`, `opened_of_directory`,
    `opened_cwd_of_not_directory`: it agrees.
  * `EntersAlike`: the three ways agree. `entersAlike`: they do for every path, on every
    tree whose root is the directory at "/".
-/
import Portfolio.Proofs.Filesystem.Queries
import Portfolio.Proofs.Session.Run

namespace Portfolio.Session

variable {s : Session} {fs : Filesystem} {found : Option Node} {name : String}
  {nodes : List Node} {id : Json.Value}

/-! ## 1. Each way by what the path resolves to -/

/-- Where entering leads, by what is found at the path. -/
def arrival (path : Option String) : Option Node → Except ConsoleError String
  | none => .error (.pathNotFound path)
  | some (.file ..) => .error (.notADirectory path)
  | some (.directory _ cwd _ _) => .ok cwd

theorem arrival_missing_iff {path named : Option String} :
    arrival path found = .error (.pathNotFound named) ↔ named = path ∧ found = none := by
  match found with
  | none => simpa [arrival] using eq_comm
  | some (.file ..) => simp [arrival]
  | some (.directory ..) => simp [arrival]

theorem arrival_file_iff {path named : Option String} :
    arrival path found = .error (.notADirectory named) ↔
      named = path ∧ ∃ n, found = some n ∧ n.isDirectory = false := by
  match found with
  | none => simp [arrival]
  | some (.file ..) => simpa [arrival, Node.isDirectory] using eq_comm
  | some (.directory ..) => simp [arrival, Node.isDirectory]

/-- Entering arrives exactly at a directory. -/
theorem arrives_iff (path : Option String) (found : Option Node) :
    (∃ cwd, arrival path found = .ok cwd) ↔ found.any Node.isDirectory = true := by
  match found with
  | none => simp [arrival]
  | some (.file ..) => simp [arrival, Node.isDirectory]
  | some (.directory ..) => simp [arrival, Node.isDirectory]

/-- The session at the root, as it begins. -/
def atRoot (fs : Filesystem) : Session :=
  { filesystem := fs }

/-- What resolves to the root leads through no names. -/
theorem resolve_of_root {root : Node} (ht : fs.tree = some root) {path : Option String}
    {cwd : String} (h : Path.resolve path cwd = "/") : fs.resolve path cwd = .ok (some root) := by
  have hn : Path.namesFrom path cwd = [] := by
    rw [← Path.segments_resolve, h]
    rfl
  rw [Filesystem.resolve_of_tree ht, hn]
  rfl

/-- **A session begins where its path arrives**, at the root as elsewhere. -/
theorem start_of_resolve (ht : fs.tree = some (.directory name "/" nodes id))
    {path : Option String} (h : fs.resolve path "/" = .ok found) :
    start fs path = (arrival path found).map fun cwd => { atRoot fs with cwd } := by
  unfold start
  by_cases hroot : Path.resolve path "/" = "/"
  · rw [resolve_of_root ht hroot] at h
    cases h
    rw [if_pos hroot]
    rfl
  · rw [if_neg hroot, h, ok_bind]
    match found with
    | none => rfl
    | some (.file ..) => rfl
    | some (.directory ..) => rfl

/-- A session moves where the path arrives, or not at all. -/
theorem changeDirectory_of_resolve {path : Option String}
    (h : s.filesystem.resolve path s.cwd = .ok found) :
    s.changeDirectory path =
      match arrival path found with
      | .ok cwd => (true, { s with cwd })
      | .error _ => (false, s) := by
  unfold changeDirectory
  rw [h]
  match found with
  | none => rfl
  | some (.file ..) => rfl
  | some (.directory ..) => rfl

/-- What the handler of `open` makes of one argument, and where the session is then. -/
def opened (s : Session) (path : String) : Result × String :=
  s.settle .openNode (Command.Builtin.handlerOf .openNode s.view [path])

/-- Nothing at the path is an error of the handler itself. -/
theorem openNode_of_none {path : String}
    (h : s.filesystem.resolve (some path) s.cwd = .ok none) :
    Command.Builtin.openNode s.view [path] = .error (.pathNotFound (some path)) :=
  bind_eq_error.mpr (Or.inr ⟨none, h, rfl⟩)

/-- A file is opened without moving. -/
theorem openNode_of_file {root n : Node} (ht : s.filesystem.tree = some root)
    (hn : n.isDirectory = false) {path : String}
    (h : s.filesystem.resolve (some path) s.cwd = .ok (some n)) :
    ∃ output navigation, Command.Builtin.openNode s.view [path] =
      .ok { answer := .result { output, navigation } } := by
  cases n with
  | directory => cases hn
  | file name place content url =>
    obtain ⟨id?, hid⟩ := Filesystem.exists_projectIdOf ht (some place) "/"
    have hv : s.view.filesystem.projectIdOf (some place) "/" = .ok id? := hid
    obtain ⟨output, ho⟩ := Command.Builtin.openFile_of_projectIdOf hv content url
    exact ⟨output, _, bind_eq_ok.mpr ⟨_, h, ho⟩⟩

/-- On every tree the handler says that nothing is there exactly if this is so. -/
theorem openNode_missing_iff {root : Node} (ht : s.filesystem.tree = some root) {path : String}
    (h : s.filesystem.resolve (some path) s.cwd = .ok found) {named : Option String} :
    Command.Builtin.openNode s.view [path] = .error (.pathNotFound named) ↔
      named = some path ∧ found = none := by
  match found, h with
  | none, h =>
    rw [openNode_of_none h]
    simpa using eq_comm
  | some (.file name place content url), h =>
    obtain ⟨output, navigation, ho⟩ := openNode_of_file ht rfl h
    simp [ho]
  | some (.directory name cwd nodes id), h =>
    have ho : Command.Builtin.openNode s.view [path] = .ok _ := bind_eq_ok.mpr ⟨_, h, rfl⟩
    simp [ho]

/-- Opening moves only into a directory. -/
theorem opened_cwd_of_not_directory {root : Node} (ht : s.filesystem.tree = some root)
    {path : String} (h : s.filesystem.resolve (some path) s.cwd = .ok found)
    (hn : found.any Node.isDirectory = false) : (s.opened path).2 = s.cwd := by
  unfold opened
  cases found with
  | none =>
    rw [show Command.Builtin.handlerOf .openNode s.view [path] = .error _ from
      mapError_of_error (openNode_of_none h)]
    rfl
  | some n =>
    obtain ⟨output, navigation, ho⟩ := openNode_of_file ht hn h
    rw [show Command.Builtin.handlerOf .openNode s.view [path] = .ok _ from
      Command.Builtin.handler_eq_ok.mpr ho]
    rfl

/-- A directory is opened by moving to it. -/
theorem opened_of_directory {path cwd : String}
    (h : s.filesystem.resolve (some path) s.cwd = .ok (some (.directory name cwd nodes id))) :
    s.opened path = ({ output := "Changed directory to " ++ cwd }, cwd) := by
  have hv : s.view.filesystem.resolve (some path) s.view.cwd =
      .ok (some (.directory name cwd nodes id)) := h
  unfold opened
  rw [Command.Builtin.openNode_of_directory hv []]
  rfl

/-! ## 2. The three ways -/

/-- On a filesystem the three ways to a path agree. A session begins there, or moves there
    from the root, exactly if there is a directory, and then all three leave it at the path
    of that directory, and opening says so. Else who moves or opens stays at the root;
    nothing at the path is an error of beginning and of opening, and a file is one of
    beginning only. -/
structure EntersAlike (fs : Filesystem) (path : String) : Prop where
  begins_iff : (∃ s, start fs (some path) = .ok s) ↔ fs.isDirectory (some path) "/" = .ok true
  moves_iff : ((atRoot fs).changeDirectory (some path)).1 = true ↔
    fs.isDirectory (some path) "/" = .ok true
  entered : fs.isDirectory (some path) "/" = .ok true → ∃ d,
    fs.resolve (some path) "/" = .ok (some d) ∧ d.isDirectory = true ∧
    start fs (some path) = .ok { atRoot fs with cwd := d.path } ∧
    (atRoot fs).changeDirectory (some path) = (true, { atRoot fs with cwd := d.path }) ∧
    (atRoot fs).opened path = ({ output := "Changed directory to " ++ d.path }, d.path)
  stayed : fs.isDirectory (some path) "/" ≠ .ok true →
    (atRoot fs).changeDirectory (some path) = (false, atRoot fs) ∧
    ((atRoot fs).opened path).2 = "/"
  missing_iff : ∀ named, start fs (some path) = .error (.pathNotFound named) ↔
    named = some path ∧ fs.resolve (some path) "/" = .ok none
  unopened_iff : ∀ named, Command.Builtin.openNode (atRoot fs).view [path] =
      .error (.pathNotFound named) ↔ named = some path ∧ fs.resolve (some path) "/" = .ok none
  file_iff : ∀ named, start fs (some path) = .error (.notADirectory named) ↔
    named = some path ∧ ∃ n, fs.resolve (some path) "/" = .ok (some n) ∧ n.isDirectory = false

/-- **The three ways agree for every path**, on every tree whose root is the directory at
    "/", wherever the nodes below it lie. -/
theorem entersAlike (ht : fs.tree = some (.directory name "/" nodes id)) (path : String) :
    EntersAlike fs path := by
  obtain ⟨found, hr⟩ : ∃ found, fs.resolve (some path) "/" = .ok found :=
    ⟨_, Filesystem.resolve_of_tree ht _ _⟩
  have hstart := start_of_resolve ht hr
  have hmove := changeDirectory_of_resolve (s := atRoot fs) hr
  have hdir : fs.isDirectory (some path) "/" = .ok true ↔ found.any Node.isDirectory = true := by
    rw [(Filesystem.answersBy_of_resolve hr).isDirectory, Except.ok.injEq]
  have hroot : (atRoot fs).filesystem.tree = some (.directory name "/" nodes id) := ht
  refine ⟨?_, ?_, fun h => ?_, fun h => ?_, fun named => ?_, fun named => ?_, fun named => ?_⟩
  · rw [hdir, ← arrives_iff (some path), hstart]
    cases arrival (some path) found <;> simp [Except.map]
  · rw [hdir, ← arrives_iff (some path), hmove]
    cases arrival (some path) found <;> simp
  · obtain ⟨d, rfl, hd⟩ := (Option.any_eq_true _ _).mp (hdir.mp h)
    cases d with
    | file => cases hd
    | directory => exact ⟨_, hr, rfl, hstart, hmove, opened_of_directory hr⟩
  · have hn : ¬ found.any Node.isDirectory = true := fun hd => h (hdir.mpr hd)
    refine ⟨?_, opened_cwd_of_not_directory hroot hr (Bool.eq_false_iff.mpr hn)⟩
    cases ha : arrival (some path) found with
    | error e => rw [hmove, ha]
    | ok cwd => exact absurd ((arrives_iff _ _).mp ⟨cwd, ha⟩) hn
  · rw [hstart, hr, Except.ok.injEq, ← arrival_missing_iff]
    cases arrival (some path) found <;> simp [Except.map]
  · rw [openNode_missing_iff hroot hr, hr, Except.ok.injEq]
  · rw [hstart, hr]
    simp only [Except.ok.injEq]
    rw [← arrival_file_iff]
    cases arrival (some path) found <;> simp [Except.map]

theorem entersAlike_gate : ∃ made name nodes id,
    Filesystem.ofRecords {} [.bare (.int 1) "Gate"] = .ok made ∧
    made.result.tree = some (.directory name "/" nodes id) ∧
    ∀ path ∈ ["", "/..", "projects/./gate", "base/about", "nowhere"],
      EntersAlike made.result path := by
  exact ⟨_, _, _, _, rfl, rfl, fun path _ => entersAlike rfl path⟩

end Portfolio.Session
