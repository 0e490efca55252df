/-
  File:      Portfolio/Proofs/Session/Listed.lean
  Subject:   What is listed can be used, under the name that is shown.

  * `FromRecords`: a filesystem without a tree, or with one that is built from records.
    A session that was given one has one after every run (`run_fromRecords`).
  * `Within`: a node in the current directory, and the paths that resolve to it: its
    name from here, its own path from everywhere.
  * `Usable`: a file is read, and a directory is entered and left again, by a line
    with nothing but a word for the command and the name.
  * `ListsUsable`: this holds of everything with a name that is listed in the current
    directory. `run_listsUsable`: so it is at every moment at which the session has a
    tree, whatever the titles and the captions of the records are.
-/
import Portfolio.Proofs.Session.Run
import Portfolio.Proofs.Site.Spelling

namespace Portfolio

/-! ## 1. Filesystems from records -/

/-- A filesystem without a tree, or with one that is built from records. -/
inductive Filesystem.FromRecords : Filesystem → Prop where
  | empty (profile : Profile) : FromRecords { profile }
  | built {profile : Profile} {records : List Record} {made : Site.Built Filesystem}
      (h : ofRecords profile records = .ok made) : FromRecords made.result

namespace Filesystem

variable {fs : Filesystem} {root : Node}

theorem FromRecords.admissible (h : fs.FromRecords) : fs.Admissible := by
  cases h with
  | empty profile => exact .empty profile
  | built hm => exact .built hm

theorem FromRecords.exists_build (h : fs.FromRecords) (ht : fs.tree = some root) :
    ∃ profile records built, Site.build profile records = .ok built ∧ built.result = root := by
  cases h with
  | empty => cases ht
  | @built profile records made hm =>
    obtain ⟨built, hb, hr, _⟩ := ofRecords_eq_ok hm
    rw [ht] at hr
    exact ⟨profile, records, built, hb, (Option.some.inj hr).symm⟩

theorem FromRecords.addressed (h : fs.FromRecords) (ht : fs.tree = some root) :
    root.Addressed := by
  obtain ⟨_, _, built, hb, rfl⟩ := h.exists_build ht
  exact Site.build_addressed hb

/-- No two children of a directory bear one name. -/
theorem FromRecords.childrenDistinct (h : fs.FromRecords) {path : Option String} {cwd : String}
    {d : Node} (hr : fs.resolve path cwd = .ok (some d)) : d.ChildrenDistinct := by
  obtain ⟨root, ht, hd⟩ := resolve_eq_ok hr
  exact (h.addressed ht).distinct _ (Node.mem_walk_of_descend hd)

/-- The names in a directory are spelled, whatever the path to it is. -/
theorem FromRecords.spelled (h : fs.FromRecords) {path : Option String} {cwd : String} {d n : Node}
    (hr : fs.resolve path cwd = .ok (some d)) (hn : n ∈ d.children) : Site.Spelled n.name := by
  obtain ⟨root, ht, hd⟩ := resolve_eq_ok hr
  obtain ⟨_, _, built, hb, rfl⟩ := h.exists_build ht
  exact Site.spelled_of_mem_children hb hd hn

/-- A name in a directory leads on, unless it is empty. -/
theorem FromRecords.isName (h : fs.FromRecords) {path : Option String} {cwd : String} {d n : Node}
    (hr : fs.resolve path cwd = .ok (some d)) (hn : n ∈ d.children) (hne : n.name ≠ "") :
    Path.IsName n.name := by
  obtain ⟨root, ht, hd⟩ := resolve_eq_ok hr
  obtain ⟨_, _, built, hb, rfl⟩ := h.exists_build ht
  exact (Site.isName_and_isWord hb hd hn hne).1

theorem FromRecords.populate (h : fs.FromRecords) {records : List Record}
    {made : Site.Built Filesystem} (hm : fs.populate records = .ok made) :
    made.result.FromRecords := by
  cases h with
  | empty profile => exact .built hm
  | @built _ _ made' hm' =>
    obtain ⟨_, _, ht, _⟩ := ofRecords_eq_ok hm'
    rw [populate_of_tree ht] at hm
    cases hm
    show made'.result.FromRecords
    exact .built hm'

end Filesystem

namespace Session

variable {s : Session} {root d n : Node}

/-! ## 2. A node in the current directory -/

/-- The session stands in the directory `d` of an addressed tree, and the directory
    has the node `n`, under a name that leads on and is a word of a line. -/
structure Within (s : Session) (root d n : Node) : Prop where
  standing : s.Standing
  tree : s.filesystem.tree = some root
  addressed : root.Addressed
  directory : root.descend (Path.segments s.cwd) = some d
  cwd_eq : d.path = s.cwd
  child : n ∈ d.children
  isName : Path.IsName n.name
  isWord : Command.IsWord n.name

theorem Within.descend (h : s.Within root d n) :
    root.descend (Path.segments s.cwd ++ [n.name]) = some n :=
  Node.descend_concat_of_nodup h.addressed.distinct h.directory h.child

theorem Within.path_eq (h : s.Within root d n) :
    n.path = Path.render (Path.segments s.cwd ++ [n.name]) :=
  h.addressed.path_eq_render h.descend

/-- All names on the way to the node lead on. -/
theorem Within.names (h : s.Within root d n) :
    ∀ name ∈ Path.segments s.cwd ++ [n.name], Path.IsName name := by
  refine List.forall_mem_append.mpr ⟨fun name hm => ?_, List.forall_mem_singleton.mpr h.isName⟩
  exact Path.isName_of_mem_segments h.standing.canonical hm

/-- Its name resolves to it from the current directory. -/
theorem Within.resolve_name (h : s.Within root d n) :
    s.filesystem.resolve (some n.name) s.cwd = .ok (some n) := by
  rw [Filesystem.resolve_of_tree h.tree, Path.namesFrom_of_isName h.isName, h.descend]

/-- Its path resolves to it from everywhere. -/
theorem Within.resolve_path (h : s.Within root d n) (seen : String) :
    s.filesystem.resolve (some n.path) seen = .ok (some n) := by
  rw [Filesystem.resolve_of_tree h.tree, h.path_eq, Path.namesFrom_render h.names, h.descend]

/-- Seen from it, `..` is the current directory. -/
theorem Within.resolve_dots (h : s.Within root d n) :
    s.filesystem.resolve (some "..") n.path = .ok (some d) := by
  rw [Filesystem.resolve_of_tree h.tree, Path.namesFrom_dots, h.path_eq,
    Path.segments_render_of_isSegment fun name hm => (h.names name hm).toIsSegment,
    List.dropLast_concat, h.directory]

/-! ## 3. Lines of two words -/

/-- A word that resolves to a directory is entered. -/
theorem Standing.exec_cd (h : s.Standing) {arg name path : String} {nodes : List Node}
    {id : Json.Value} (ha : Command.IsWord arg)
    (hr : s.filesystem.resolve (some arg) s.cwd = .ok (some (.directory name path nodes id))) :
    s.exec (some ("cd " ++ arg)) =
      ({ output := "Changed directory to " ++ path },
        { s with cwd := path, history := s.history ++ ["cd " ++ arg] }) := by
  have hv : s.view.filesystem.resolve (some arg) s.view.cwd =
      .ok (some (.directory name path nodes id)) := hr
  have he := exec_two_words (show Command.IsWord "cd" by decide) ha
    (show Command.ofWord? "cd" = some .openNode by decide) (HasBuiltins.handler? h.handlers _)
  rw [Command.Builtin.openNode_of_directory hv []] at he
  exact he

/-- A word at which there is a text is read. -/
theorem Standing.exec_read (h : s.Standing) {arg content : String} (ha : Command.IsWord arg)
    (hc : s.filesystem.contentAt (some arg) s.cwd = .ok content) :
    s.exec (some ("read " ++ arg)) =
      ({ output := content }, { s with history := s.history ++ ["read " ++ arg] }) := by
  have hv : s.view.filesystem.contentAt (some arg) s.view.cwd = .ok content := hc
  have he := exec_two_words (show Command.IsWord "read" by decide) ha
    (show Command.ofWord? "read" = some .read by decide) (HasBuiltins.handler? h.handlers _)
  rw [Command.Builtin.read_of_file hv []] at he
  exact he

/-! ## 4. What can be used -/

/-- The node lies at its path, seen from everywhere. If it is a file, a line with
    its name shows its text and leaves the session where it is; if it is a
    directory, such a line enters it, and the next one leads back. -/
structure Usable (s : Session) (n : Node) : Prop where
  lies : ∀ seen, s.filesystem.resolve (some n.path) seen = .ok (some n)
  read : ∀ content, n.content? = some content →
    s.exec (some ("read " ++ n.name)) =
      ({ output := content, failed := false },
        { s with history := s.history ++ ["read " ++ n.name] })
  enter : n.isDirectory = true →
    s.exec (some ("cd " ++ n.name)) =
      ({ output := "Changed directory to " ++ n.path, failed := false },
        { s with cwd := n.path, history := s.history ++ ["cd " ++ n.name] })
  leave : n.isDirectory = true →
    (s.exec (some ("cd " ++ n.name))).2.exec (some "cd ..") =
      ({ output := "Changed directory to " ++ s.cwd, failed := false },
        { s with history := s.history ++ ["cd " ++ n.name] ++ ["cd .."] })

/-- Listing the current directory succeeds, and every entry with a name is that of a
    node in it that can be used. -/
def ListsUsable (s : Session) : Prop :=
  ∃ directory entries, s.filesystem.resolve (some ".") s.cwd = .ok (some directory) ∧
    s.filesystem.list (some ".") s.cwd = .ok entries ∧
    ∀ e ∈ entries, e.name ≠ "" →
      ∃ n ∈ directory.children, e = Filesystem.entryOf n ∧ s.Usable n

theorem Within.read (h : s.Within root d n) {content : String} (hc : n.content? = some content) :
    s.exec (some ("read " ++ n.name)) =
      ({ output := content }, { s with history := s.history ++ ["read " ++ n.name] }) := by
  refine h.standing.exec_read h.isWord ?_
  rw [Filesystem.contentAt_of_resolve h.resolve_name]
  cases n with
  | file => exact congrArg Except.ok (Option.some.inj hc)
  | directory => cases hc

theorem Within.enter (h : s.Within root d n) (hi : n.isDirectory = true) :
    s.exec (some ("cd " ++ n.name)) =
      ({ output := "Changed directory to " ++ n.path },
        { s with cwd := n.path, history := s.history ++ ["cd " ++ n.name] }) := by
  cases n with
  | file => cases hi
  | directory => exact h.standing.exec_cd h.isWord h.resolve_name

theorem Within.leave (h : s.Within root d n) (hi : n.isDirectory = true) :
    (s.exec (some ("cd " ++ n.name))).2.exec (some "cd ..") =
      ({ output := "Changed directory to " ++ s.cwd },
        { s with history := s.history ++ ["cd " ++ n.name] ++ ["cd .."] }) := by
  have hs : Standing { s with cwd := n.path, history := s.history ++ ["cd " ++ n.name] } := by
    have h' := exec_standing h.standing (some ("cd " ++ n.name))
    rwa [h.enter hi] at h'
  have hline : "cd .." = "cd " ++ ".." := by decide
  rw [h.enter hi, hline]
  cases d with
  | file => exact absurd h.child List.not_mem_nil
  | directory name path nodes id =>
    have hcwd : path = s.cwd := h.cwd_eq
    subst hcwd
    exact hs.exec_cd (by decide) h.resolve_dots

/-- Such a node can be used. -/
theorem Within.usable (h : s.Within root d n) : s.Usable n :=
  ⟨h.resolve_path, fun _ => h.read, h.enter, h.leave⟩

/-- A session that stands in a built tree lists what can be used. -/
theorem listsUsable_of_build (h : s.Standing) {p : Profile} {records : List Record}
    {built : Site.Built Node} (hb : Site.build p records = .ok built)
    (ht : s.filesystem.tree = some built.result) : s.ListsUsable := by
  obtain ⟨d, hd, hi, hp⟩ := h.directory _ ht
  have hr : s.filesystem.resolve (some ".") s.cwd = .ok (some d) := by
    rw [Filesystem.resolve_of_tree ht, Path.namesFrom_dot, hd]
  obtain ⟨entries, hl⟩ : ∃ entries, s.filesystem.list (some ".") s.cwd = .ok entries := by
    rw [Filesystem.list_of_resolve hr]
    cases d with
    | file => cases hi
    | directory => exact ⟨_, rfl⟩
  refine ⟨d, entries, hr, hl, fun e he hne => ?_⟩
  obtain ⟨d', n, hr', hn, rfl⟩ := Filesystem.exists_child_of_mem_list hl he
  rw [hr] at hr'
  cases hr'
  obtain ⟨hname, hword⟩ := Site.isName_and_isWord hb hd hn hne
  have hw : s.Within built.result d n :=
    ⟨h, ht, Site.build_addressed hb, hd, hp, hn, hname, hword⟩
  exact ⟨n, hn, rfl, hw.usable⟩

/-! ## 5. Over a run -/

theorem perform_fromRecords (h : s.filesystem.FromRecords) (e : Event) :
    (s.perform e).2.filesystem.FromRecords := by
  rcases perform_cases s e with ⟨_, _, hs⟩ | ⟨_, made, hm, hs⟩
  · rw [hs]
    exact h
  · rw [hs]
    exact h.populate hm

/-- A tree that is there stays. -/
theorem perform_isInitialized (h : s.filesystem.isInitialized = true) (e : Event) :
    (s.perform e).2.filesystem.isInitialized = true := by
  obtain ⟨root, ht⟩ := Option.isSome_iff_exists.mp h
  rcases perform_cases s e with ⟨_, _, hs⟩ | ⟨_, made, hm, hs⟩
  · rw [hs]
    exact h
  · rw [Filesystem.populate_of_tree ht] at hm
    cases hm
    rw [hs]
    exact h

theorem run_fromRecords (h : s.filesystem.FromRecords) (events : List Event) :
    (s.run events).filesystem.FromRecords :=
  run_preserves (P := fun s => s.filesystem.FromRecords) (fun _ e h => perform_fromRecords h e) h
    events

theorem run_isInitialized (h : s.filesystem.isInitialized = true) (events : List Event) :
    (s.run events).filesystem.isInitialized = true :=
  run_preserves (P := fun s => s.filesystem.isInitialized = true)
    (fun _ e h => perform_isInitialized h e) h events

/-- **What is listed can be used**, whatever is asked of a session from the moment on
    at which it has a tree, be it when it begins or later, and whatever the records
    of the tree are. -/
theorem run_listsUsable {fs : Filesystem} {path : Option String} (hf : fs.FromRecords)
    (hs : start fs path = .ok s) (before events : List Event)
    (hi : (s.run before).filesystem.isInitialized = true) :
    (s.run (before ++ events)).ListsUsable := by
  have hstand := start_standing (fun _ => hf.admissible.tree_rooted) hs
  have hrecords := run_fromRecords (start_filesystem hs ▸ hf) (before ++ events)
  have hinit : (s.run (before ++ events)).filesystem.isInitialized = true := by
    rw [run_append]
    exact run_isInitialized hi events
  obtain ⟨root, ht⟩ := Option.isSome_iff_exists.mp hinit
  obtain ⟨p, records, built, hb, rfl⟩ := hrecords.exists_build ht
  exact listsUsable_of_build (run_standing hstand _) hb ht

/-- A title and a caption with marks, quotes and other letters, and a tree that is
    built when the session has begun. -/
theorem run_listsUsable_marks :
    ∃ s after, start {} none = .ok s ∧
      after = s.run ([.populate [{ Record.bare (.int 1) "A | \"B\" $é — C" with
          attachments := [⟨.text "u.pdf", some (.text "x; y > \"z\""), none⟩] }]] ++
        [.exec (some "cd projects/a-b/attachments")]) ∧
      after.cwd = "/projects/a-b/attachments" ∧ after.ListsUsable := by
  have hs : start {} none = .ok { filesystem := {} } := rfl
  exact ⟨_, _, hs, rfl, rfl, run_listsUsable (.empty {}) hs _ _ rfl⟩

end Session

end Portfolio
