/-
  File:      Portfolio/Proofs/Session/Run.lean
  Subject:   A session over any run: where it can be.

  * `Event`, `perform`, `run`: everything that can be asked of a session, one
    after the other: running a line, moving, completing, building the tree.
    `perform_cases` says what a step can do, and what every step keeps a run keeps
    (`run_preserves`).
  * `Standing`: what holds of a session at every moment. Its directory is
    canonical and is one; without a tree it is the root.
  * `start_standing`, `perform_standing`, `run_standing`: a session begins so,
    and stays so whatever is asked of it.
  * `run_firm`: what this says to who looks from outside, on any filesystem
    that a session can be given (`Admissible`).
-/
import Portfolio.Completion
import Portfolio.Proofs.Filesystem.Addresses
import Portfolio.Proofs.Session.Builtins

namespace Portfolio

/-- A filesystem that a session can be given: without a tree, built from
    records, or with any rooted tree. -/
inductive Filesystem.Admissible : Filesystem → Prop where
  | empty (profile : Profile) : Admissible { profile }
  | built {profile : Profile} {records : List Record} {made : Site.Built Filesystem}
      (h : ofRecords profile records = .ok made) : Admissible made.result
  | rooted {fs : Filesystem} {root : Node} (ht : fs.tree = some root) (hr : root.Rooted) :
      Admissible fs

theorem Filesystem.Admissible.tree_rooted {fs : Filesystem} (h : fs.Admissible) {root : Node}
    (ht : fs.tree = some root) : root.Rooted := by
  cases h with
  | empty => cases ht
  | built hm =>
    obtain ⟨built, hb, hr, _⟩ := ofRecords_eq_ok hm
    rw [ht] at hr
    exact Option.some.inj hr ▸ Site.build_rooted hb
  | rooted ht' hr =>
    rw [ht] at ht'
    exact Option.some.inj ht' ▸ hr

namespace Session

/-! ## 1. Runs -/

/-- What can be asked of a session. -/
inductive Event where
  | exec (line : Option String)
  | changeDirectory (path : Option String)
  | complete (text : String)
  | populate (records : List Record)

/-- What a session answers. -/
inductive Response where
  | result (r : Result)
  | moved (done : Bool)
  | suggestions (words : List String)
  | populated (log : List Log.Entry)
  | fault (f : DataFault)

/-- The answer to an event, and the session after it. -/
def perform (s : Session) : Event → Response × Session
  | .exec line => (.result (s.exec line).1, (s.exec line).2)
  | .changeDirectory path =>
    (.moved (s.changeDirectory path).1, (s.changeDirectory path).2)
  | .complete text => (.suggestions (Completion.complete s text), s)
  | .populate records =>
    match s.filesystem.populate records with
    | .ok built => (.populated built.log, { s with filesystem := built.result })
    | .error f => (.fault f, s)

/-- The session after the events. -/
def run (s : Session) (events : List Event) : Session :=
  events.foldl (fun s e => (s.perform e).2) s

variable {s : Session}

theorem run_append (s : Session) (before events : List Event) :
    s.run (before ++ events) = (s.run before).run events :=
  List.foldl_append

/-- Moving changes nothing but where the session is. -/
theorem changeDirectory_keeps (s : Session) (path : Option String) :
    ∃ cwd, (s.changeDirectory path).2 = { s with cwd } := by
  unfold changeDirectory
  split
  · exact ⟨_, rfl⟩
  · exact ⟨s.cwd, rfl⟩

/-- What is asked of a session changes where it is and its history, or gives it a tree. -/
theorem perform_cases (s : Session) (e : Event) :
    (∃ cwd history, (s.perform e).2 = { s with cwd, history }) ∨ ∃ records made,
      s.filesystem.populate records = .ok made ∧
        (s.perform e).2 = { s with filesystem := made.result } := by
  unfold perform
  cases e with
  | exec line => exact Or.inl (exec_keeps s line)
  | changeDirectory path =>
    obtain ⟨cwd, hc⟩ := changeDirectory_keeps s path
    exact Or.inl ⟨cwd, s.history, hc⟩
  | complete text => exact Or.inl ⟨s.cwd, s.history, rfl⟩
  | populate records =>
    dsimp only
    cases hm : s.filesystem.populate records with
    | ok made => exact Or.inr ⟨records, made, hm, rfl⟩
    | error f => exact Or.inl ⟨s.cwd, s.history, rfl⟩

/-- What every step keeps, a run keeps. -/
theorem run_preserves {P : Session → Prop} (hstep : ∀ s e, P s → P (s.perform e).2) (h : P s)
    (events : List Event) : P (s.run events) := by
  unfold run
  induction events generalizing s with
  | nil => exact h
  | cons e rest ih => exact ih (hstep s e h)

/-! ## 2. The invariant -/

/-- What holds of a session at every moment. -/
structure Standing (s : Session) : Prop where
  handlers : s.handlers = Command.Builtin.registry.handlers
  rooted : ∀ root, s.filesystem.tree = some root → root.Rooted
  canonical : Path.IsCanonical s.cwd
  directory : ∀ root, s.filesystem.tree = some root →
    ∃ n, root.descend (Path.segments s.cwd) = some n ∧ n.isDirectory = true ∧ n.path = s.cwd
  home : s.filesystem.tree = none → s.cwd = "/"

/-- The history does not matter. -/
theorem Standing.history (h : s.Standing) (history : List String) :
    Standing { s with history } :=
  ⟨h.handlers, h.rooted, h.canonical, h.directory, h.home⟩

/-- At the root every session stands. -/
theorem standing_root {fs : Filesystem} (hr : ∀ root, fs.tree = some root → root.Rooted) :
    Standing { filesystem := fs } where
  handlers := rfl
  rooted := hr
  canonical := Path.isCanonical_root
  directory root ht :=
    ⟨root, Node.descend_segments_root root, (hr root ht).isDirectory, (hr root ht).path_eq⟩
  home _ := rfl

/-- **A directory that a path resolves to lies at a canonical path**, and its
    names lead there. -/
theorem path_of_resolve {fs : Filesystem} {path : Option String} {cwd : String} {n root : Node}
    (ht : fs.tree = some root) (hr : root.Rooted) (hc : Path.IsCanonical cwd)
    (h : fs.resolve path cwd = .ok (some n)) :
    Path.IsCanonical n.path ∧ root.descend (Path.segments n.path) = some n := by
  rw [Filesystem.path_eq_of_resolve ht hr h, Path.segments_resolve]
  rw [Filesystem.resolve_of_tree ht] at h
  exact ⟨Path.isCanonical_resolve path hc, Except.ok.inj h⟩

/-- A session that stands still stands after it has entered a directory that a
    path resolves to. -/
theorem Standing.enter (h : s.Standing) {path : Option String} {name cwd : String}
    {nodes : List Node} {id : Json.Value}
    (hr : s.filesystem.resolve path s.cwd = .ok (some (.directory name cwd nodes id))) :
    Standing { s with cwd } := by
  obtain ⟨root, ht, _⟩ := Filesystem.resolve_eq_ok hr
  obtain ⟨hc, hd⟩ := path_of_resolve ht (h.rooted root ht) h.canonical hr
  refine ⟨h.handlers, h.rooted, hc, fun root' ht' => ?_, fun hn => ?_⟩
  · rw [ht] at ht'
    exact Option.some.inj ht' ▸ ⟨_, hd, rfl, rfl⟩
  · rw [ht] at hn
    cases hn

/-! ## 3. The beginning and the steps -/

/-- A session begins at the root, or in the directory that its path resolves to. -/
theorem start_eq_ok {fs : Filesystem} {path : Option String} (h : start fs path = .ok s) :
    s = { filesystem := fs } ∨ ∃ name cwd nodes id,
      fs.resolve path "/" = .ok (some (.directory name cwd nodes id)) ∧
      s = { filesystem := fs, cwd } := by
  unfold start at h
  split at h
  · exact Or.inl (Except.ok.inj h).symm
  · obtain ⟨found, hf, h⟩ := bind_eq_ok.mp h
    split at h
    · cases h
    · cases h
    · rename_i name cwd nodes id
      exact Or.inr ⟨name, cwd, nodes, id, hf, (pure_eq_ok.mp h).symm⟩

theorem start_filesystem {fs : Filesystem} {path : Option String} (h : start fs path = .ok s) :
    s.filesystem = fs := by
  rcases start_eq_ok h with rfl | ⟨_, _, _, _, _, rfl⟩
  · rfl
  · rfl

/-- **A session begins standing.** -/
theorem start_standing {fs : Filesystem} {path : Option String}
    (hr : ∀ root, fs.tree = some root → root.Rooted) (h : start fs path = .ok s) :
    s.Standing := by
  have hroot : Standing { filesystem := fs } := standing_root hr
  rcases start_eq_ok h with rfl | ⟨name, cwd, nodes, id, hf, rfl⟩
  · exact hroot
  · exact hroot.enter hf

theorem changeDirectory_standing (h : s.Standing) (path : Option String) :
    (s.changeDirectory path).2.Standing := by
  unfold changeDirectory
  split
  · rename_i name cwd nodes id hr
    exact h.enter hr
  · exact h

theorem dispatch_standing (h : s.Standing) (line : String) :
    Standing { s with cwd := (s.dispatch line).2 } := by
  rcases dispatch_cases h.handlers line with ⟨message, hd⟩ | ⟨r, _, hd⟩ | ⟨path, ho⟩
  · rw [hd]
    exact h
  · rw [hd]
    exact h
  · obtain ⟨arg, rest, name, nodes, id, _, hr⟩ := ho.directory
    rw [ho.dispatch h.handlers]
    exact h.enter hr

theorem exec_standing (h : s.Standing) (line : Option String) : (s.exec line).2.Standing := by
  unfold exec
  split
  · exact h
  · exact (dispatch_standing h _).history _

theorem populate_standing (h : s.Standing) {records : List Record}
    {made : Site.Built Filesystem} (hm : s.filesystem.populate records = .ok made) :
    Standing { s with filesystem := made.result } := by
  cases ht : s.filesystem.tree with
  | some root =>
    rw [Filesystem.populate_of_tree ht] at hm
    cases hm
    exact h
  | none =>
    rw [Filesystem.populate_of_no_tree ht, bind_eq_ok] at hm
    obtain ⟨built, hb, hm⟩ := hm
    cases pure_eq_ok.mp hm
    have hroot := Site.build_rooted hb
    -- without a tree the session was at the root, which the new tree has
    have hc : s.cwd = "/" := h.home ht
    refine ⟨h.handlers, fun root hr => Option.some.inj hr ▸ hroot, h.canonical,
      fun root hr => ?_, fun hn => by cases hn⟩
    cases Option.some.inj hr
    rw [hc]
    exact ⟨_, Node.descend_segments_root _, hroot.isDirectory, hroot.path_eq⟩

/-- **Whatever is asked of a session that stands, it stands afterwards.** -/
theorem perform_standing (h : s.Standing) (e : Event) : (s.perform e).2.Standing := by
  unfold perform
  cases e with
  | exec line =>
    dsimp only
    exact exec_standing h line
  | changeDirectory path =>
    dsimp only
    exact changeDirectory_standing h path
  | complete text => exact h
  | populate records =>
    dsimp only
    split
    · rename_i made hm
      exact populate_standing h hm
    · exact h

/-- **A session stands after every run.** -/
theorem run_standing (h : s.Standing) (events : List Event) : (s.run events).Standing :=
  run_preserves (P := Standing) (fun _ e h => perform_standing h e) h events

/-! ## 4. Lines that do not fail -/

theorem atDirectory_of_standing (h : s.Standing) (hi : s.filesystem.isInitialized = true) :
    Command.Builtin.AtDirectory s.view := by
  obtain ⟨root, ht⟩ := Option.isSome_iff_exists.mp hi
  obtain ⟨n, hd, hn, _⟩ := h.directory root ht
  cases n with
  | file => cases hn
  | directory name path nodes id =>
    refine ⟨name, path, nodes, id, ?_⟩
    show s.filesystem.resolve (some ".") s.cwd = _
    rw [Filesystem.resolve_of_tree ht, Path.namesFrom_dot, hd]

/-- A line succeeds if the command that it names does. -/
theorem exec_succeeds (h : s.Standing) {line : String} (parsed : Command.Line) {command : Command}
    (hl : lineOf? (some line) = some line) (hf : Command.hasShellFeature line = false)
    (hp : Command.parse line = parsed) (hw : Command.ofWord? parsed.name = some command)
    (hs : Command.Builtin.Succeeds (Command.Builtin.handlerOf command) s.view parsed.args) :
    (s.exec (some line)).1.failed = false := by
  have hm : ¬ Command.Marked line.toList := fun h => by
    rw [(Command.hasShellFeature_iff line).mpr h] at hf
    cases hf
  have hn : s.Names line command (Command.Builtin.handlerOf command) parsed.args :=
    ⟨hm, hp ▸ hw, HasBuiltins.handler? h.handlers command, congrArg Command.Line.args hp⟩
  obtain ⟨reply, ho, ha⟩ := hs
  unfold exec
  rw [hl]
  dsimp only
  rw [hn.dispatch, ho]
  exact ha

/-- The lines that look at the current directory. -/
def localLines : List String :=
  ["ls", "tree", "cd ."]

theorem localLines_succeed (h : s.Standing) (hi : s.filesystem.isInitialized = true) :
    ∀ line ∈ localLines, (s.exec (some line)).1.failed = false := by
  have hd := atDirectory_of_standing h hi
  intro line hm
  simp only [localLines, List.mem_cons, List.not_mem_nil, or_false] at hm
  rcases hm with rfl | rfl | rfl
  · exact exec_succeeds h ⟨"ls", []⟩ (by decide) (by decide) (by decide) (by decide)
      (Command.Builtin.succeeds_list hd)
  · exact exec_succeeds h ⟨"tree", []⟩ (by decide) (by decide) (by decide) (by decide)
      (Command.Builtin.succeeds_tree hd)
  · exact exec_succeeds h ⟨"cd", ["."]⟩ (by decide) (by decide) (by decide)
      (by decide) (Command.Builtin.succeeds_openNode hd)

/-! ## 5. From outside -/

/-- Where a session is. Its path is canonical; with a tree it leads to a
    directory that lies there, and looking at that directory does not fail;
    without a tree it is the root. -/
structure Firm (s : Session) : Prop where
  canonical : Path.IsCanonical s.cwd
  directory : s.filesystem.isInitialized = true → ∀ seen, ∃ n,
    s.filesystem.resolve (some s.cwd) seen = .ok (some n) ∧ n.isDirectory = true ∧ n.path = s.cwd
  home : s.filesystem.isInitialized = false → s.cwd = "/"
  unfailing : s.filesystem.isInitialized = true →
    ∀ line ∈ localLines, (s.exec (some line)).1.failed = false

theorem firm_of_standing (h : s.Standing) : s.Firm where
  canonical := h.canonical
  directory hi seen := by
    obtain ⟨root, ht⟩ := Option.isSome_iff_exists.mp hi
    obtain ⟨n, hd, hn, hp⟩ := h.directory root ht
    refine ⟨n, ?_, hn, hp⟩
    rw [Filesystem.resolve_of_tree ht, ← Path.segments_resolve,
      Path.resolve_of_isCanonical h.canonical, hd]
  home hi := h.home (Option.not_isSome_iff_eq_none.mp (Bool.eq_false_iff.mp hi))
  unfailing hi := localLines_succeed h hi

/-- **A session is firm after every run**, whatever filesystem it was given and
    wherever it began. -/
theorem run_firm {fs : Filesystem} {path : Option String} (ha : fs.Admissible)
    (hs : start fs path = .ok s) (events : List Event) : (s.run events).Firm :=
  firm_of_standing (run_standing (start_standing (fun _ => ha.tree_rooted) hs) events)

theorem run_firm_gate :
    ∃ made s, Filesystem.ofRecords {} [.bare (.int 1) "Gate"] = .ok made ∧
      start made.result (some "/") = .ok s ∧
      (s.run [.exec (some "cd projects/gate"), .complete "cat o", .changeDirectory (some "../.."),
        .populate [], .exec (some "cd base | ls"), .exec none]).Firm := by
  obtain ⟨made, hm⟩ : ∃ made, Filesystem.ofRecords {} [.bare (.int 1) "Gate"] = .ok made :=
    ⟨_, rfl⟩
  have hs : start made.result (some "/") = .ok { filesystem := made.result } := rfl
  exact ⟨made, _, hm, hs, run_firm (.built hm) hs _⟩

end Session

end Portfolio
