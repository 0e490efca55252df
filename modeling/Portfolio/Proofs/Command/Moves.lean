/-
  File:      Portfolio/Proofs/Command/Moves.lean
  Subject:   What the commands reply, where they move and lead, and which of them
             cannot fail.

  * `stays_or_enters`: a command that succeeds tells of no failure. It stays, or it
    is `open` and enters the directory that its first argument resolves to.
  * `opensFile_of_navigation`: only `open` leads elsewhere, and only if its first
    argument resolves to a file; `leadsTo`: where the file leads to.
  * `result_of_clear`: a command that clears the console does nothing else.
  * `refused_of_handlerOf`: a command that fails says so in words for its user.
  * `AtDirectory`: the current directory is one. Then listing it, drawing it
    and opening it do not fail (`succeeds_list`, `succeeds_tree`,
    `succeeds_openNode`).
-/
import Portfolio.Command.Builtin
import Portfolio.Proofs.Filesystem.Resolve

namespace Portfolio.Command.Builtin

variable {view : View} {command : Command} {args : List String} {reply : Reply}

/-! ## 1. Replies -/

theorem handler_eq_ok {f : View → List String → Except ConsoleError Reply} :
    handler f view args = .ok reply ↔ f view args = .ok reply := by
  unfold handler
  exact mapError_eq_ok

/-- The reply shows a result that tells of no failure, and moves nowhere. -/
def Stays (reply : Reply) : Prop :=
  ∃ r : Result, r.failed = false ∧ reply = { answer := .result r }

/-- The reply enters the directory that the first argument resolves to. -/
def Enters (view : View) (args : List String) (reply : Reply) : Prop :=
  ∃ arg rest name path nodes id, args = arg :: rest ∧
    view.filesystem.resolve (some arg) view.cwd = .ok (some (.directory name path nodes id)) ∧
    reply = { shows ("Changed directory to " ++ path) with moveTo := some path }

/-- The reply shows a text, and nothing else. -/
def Tells (reply : Reply) : Prop :=
  ∃ output, reply = shows output

theorem Tells.stays (h : Tells reply) : Stays reply := by
  obtain ⟨output, rfl⟩ := h
  exact ⟨_, rfl, rfl⟩

theorem tells_of_shows {α : Type} {x : Except ConsoleError α} {text : α → String}
    (h : (x >>= fun a => pure (shows (text a))) = .ok reply) : Tells reply := by
  obtain ⟨a, _, h⟩ := bind_eq_ok.mp h
  exact ⟨text a, (pure_eq_ok.mp h).symm⟩

theorem tells_list (h : list view args = .ok reply) : Tells reply :=
  tells_of_shows h

theorem tells_tree (h : tree view args = .ok reply) : Tells reply := by
  unfold tree at h
  dsimp only at h
  split at h
  · obtain ⟨depth, _, h⟩ := bind_eq_ok.mp h
    exact tells_of_shows h
  · exact tells_of_shows h

theorem tells_search (h : search view args = .ok reply) : Tells reply := by
  unfold search at h
  split at h
  · cases h
  · exact tells_of_shows h

theorem tells_read (h : read view args = .ok reply) : Tells reply := by
  unfold read at h
  split at h
  · cases h
  · exact tells_of_shows h

/-- Where a file leads to: to its project, if this has an id, else to its url. -/
def leadsTo (id? : Option Json.Value) (url : Option String) : Option Navigation :=
  match id? with
  | some id => some (.record id)
  | none => (url.filter (· ≠ "")).map .external

/-- **A file that is opened leads to its project or to its url**, and else shows its text. -/
theorem openFile_of_projectIdOf {path : String} {id? : Option Json.Value}
    (h : view.filesystem.projectIdOf (some path) "/" = .ok id?) (content : String)
    (url : Option String) :
    ∃ output, openFile view path content url =
      .ok { answer := .result { output, navigation := leadsTo id? url } } := by
  unfold openFile leadsTo
  rw [h, ok_bind]
  cases id? with
  | some id => exact ⟨_, rfl⟩
  | none =>
    dsimp only
    cases url.filter (· ≠ "") with
    | some url => exact ⟨_, rfl⟩
    | none => exact ⟨_, rfl⟩

/-- A file that is opened is shown, and may lead elsewhere; nothing else happens. -/
theorem openFile_eq_ok {path content : String} {url : Option String}
    (h : openFile view path content url = .ok reply) :
    ∃ output navigation, reply = { answer := .result { output, navigation } } := by
  cases hid : view.filesystem.projectIdOf (some path) "/" with
  | error e =>
    unfold openFile at h
    rw [hid] at h
    cases h
  | ok id? =>
    obtain ⟨output, ho⟩ := openFile_of_projectIdOf hid content url
    rw [ho] at h
    exact ⟨output, _, (Except.ok.inj h).symm⟩

theorem stays_openFile {path content : String} {url : Option String}
    (h : openFile view path content url = .ok reply) : Stays reply := by
  obtain ⟨output, navigation, rfl⟩ := openFile_eq_ok h
  exact ⟨_, rfl, rfl⟩

/-- The reply is that of opening the file that the first argument resolves to. -/
def OpensFile (view : View) (args : List String) (reply : Reply) : Prop :=
  ∃ arg rest name path content url, args = arg :: rest ∧
    view.filesystem.resolve (some arg) view.cwd = .ok (some (.file name path content url)) ∧
    openFile view path content url = .ok reply

/-- Only a directory is entered, and at its own path; only a file is opened. -/
theorem openNode_cases (h : openNode view args = .ok reply) :
    Tells reply ∨ Enters view args reply ∨ OpensFile view args reply := by
  unfold openNode at h
  split at h
  · exact Or.inl ⟨_, (Except.ok.inj h).symm⟩
  · rename_i arg rest
    rw [bind_eq_ok] at h
    obtain ⟨found, hr, h⟩ := h
    split at h
    · cases h
    · rename_i name path nodes id
      exact Or.inr (Or.inl ⟨arg, rest, name, path, nodes, id, rfl, hr, (pure_eq_ok.mp h).symm⟩)
    · rename_i name path content url
      exact Or.inr (Or.inr ⟨arg, rest, name, path, content, url, rfl, hr, h⟩)

theorem stays_or_enters_openNode (h : openNode view args = .ok reply) :
    Stays reply ∨ Enters view args reply := by
  rcases openNode_cases h with ht | he | ⟨_, _, _, _, _, _, _, _, ho⟩
  · exact Or.inl ht.stays
  · exact Or.inr he
  · exact Or.inl (stays_openFile ho)

/-- **A command that succeeds stays, or it is `open` and enters a directory.** -/
theorem stays_or_enters (h : handlerOf command view args = .ok reply) :
    Stays reply ∨ command = .openNode ∧ Enters view args reply := by
  cases command with
  | list => exact Or.inl (tells_list (handler_eq_ok.mp h)).stays
  | openNode => exact (stays_or_enters_openNode (handler_eq_ok.mp h)).imp_right fun he => ⟨rfl, he⟩
  | read => exact Or.inl (tells_read (handler_eq_ok.mp h)).stays
  | tree => exact Or.inl (tells_tree (handler_eq_ok.mp h)).stays
  | search => exact Or.inl (tells_search (handler_eq_ok.mp h)).stays
  | help | clear | cwd | exit =>
    exact Or.inl ⟨_, rfl, (Except.ok.inj (handler_eq_ok.mp h)).symm⟩

/-- What shows a text leads nowhere. -/
theorem Tells.navigation (h : Tells reply) : reply.answer.toResult.navigation = none := by
  obtain ⟨output, rfl⟩ := h
  rfl

/-- **Only `open` leads elsewhere, and only from a file.** -/
theorem opensFile_of_navigation (h : handlerOf command view args = .ok reply)
    (hn : reply.answer.toResult.navigation ≠ none) :
    command = .openNode ∧ OpensFile view args reply := by
  cases command with
  | list => exact absurd (tells_list (handler_eq_ok.mp h)).navigation hn
  | openNode =>
    rcases openNode_cases (handler_eq_ok.mp h) with ht | ⟨_, _, _, _, _, _, _, _, rfl⟩ | ho
    · exact absurd ht.navigation hn
    · exact absurd rfl hn
    · exact ⟨rfl, ho⟩
  | read => exact absurd (tells_read (handler_eq_ok.mp h)).navigation hn
  | tree => exact absurd (tells_tree (handler_eq_ok.mp h)).navigation hn
  | search => exact absurd (tells_search (handler_eq_ok.mp h)).navigation hn
  | help | clear | cwd | exit =>
    cases Except.ok.inj (handler_eq_ok.mp h)
    exact absurd rfl hn

/-- What shows a text does not clear the console. -/
theorem Tells.not_clear (h : Tells reply) : reply.answer.toResult.clear = false := by
  obtain ⟨output, rfl⟩ := h
  rfl

theorem openNode_not_clear (h : openNode view args = .ok reply) :
    reply.answer.toResult.clear = false := by
  rcases openNode_cases h with ht | ⟨_, _, _, _, _, _, _, _, rfl⟩ | ⟨_, _, _, _, _, _, _, _, ho⟩
  · exact ht.not_clear
  · rfl
  · obtain ⟨output, navigation, rfl⟩ := openFile_eq_ok ho
    rfl

/-- **A command that clears the console does nothing else.** -/
theorem result_of_clear (h : handlerOf command view args = .ok reply)
    (hc : reply.answer.toResult.clear = true) : reply.answer.toResult = { clear := true } := by
  have hnot : reply.answer.toResult.clear ≠ false := by
    rw [hc]
    decide
  cases command with
  | list => exact absurd (tells_list (handler_eq_ok.mp h)).not_clear hnot
  | openNode => exact absurd (openNode_not_clear (handler_eq_ok.mp h)) hnot
  | read => exact absurd (tells_read (handler_eq_ok.mp h)).not_clear hnot
  | tree => exact absurd (tells_tree (handler_eq_ok.mp h)).not_clear hnot
  | search => exact absurd (tells_search (handler_eq_ok.mp h)).not_clear hnot
  | clear =>
    cases Except.ok.inj (handler_eq_ok.mp h)
    rfl
  | help | cwd | exit =>
    cases Except.ok.inj (handler_eq_ok.mp h)
    cases hc

theorem exists_handler (command : Command) : ∃ f, handlerOf command = handler f := by
  cases command <;> exact ⟨_, rfl⟩

/-- **A command that fails says so to its user.** -/
theorem refused_of_handlerOf {failure : Failure}
    (h : handlerOf command view args = .error failure) :
    ∃ message, failure = .refused message := by
  obtain ⟨f, hf⟩ := exists_handler command
  rw [hf] at h
  unfold handler at h
  obtain ⟨e, _, rfl⟩ := mapError_eq_error.mp h
  exact ⟨e.message, rfl⟩

/-! ## 2. Commands that do not fail -/

/-- The current directory is a directory. -/
def AtDirectory (view : View) : Prop :=
  ∃ name path nodes id,
    view.filesystem.resolve (some ".") view.cwd = .ok (some (.directory name path nodes id))

/-- The handler gives an answer that tells of no failure. -/
def Succeeds (h : Handler) (view : View) (args : List String) : Prop :=
  ∃ reply, h view args = .ok reply ∧ reply.answer.toResult.failed = false

theorem succeeds_list (h : AtDirectory view) : Succeeds (handlerOf .list) view [] := by
  obtain ⟨name, path, nodes, id, hr⟩ := h
  have hl : view.filesystem.list (some ".") view.cwd = .ok _ := Filesystem.list_of_resolve hr
  refine ⟨_, handler_eq_ok.mpr (bind_eq_ok.mpr ⟨_, hl, rfl⟩), rfl⟩

theorem succeeds_tree (h : AtDirectory view) : Succeeds (handlerOf .tree) view [] := by
  obtain ⟨name, path, nodes, id, hr⟩ := h
  have hd : view.filesystem.drawing (some ".") defaultDepth view.cwd = .ok _ :=
    Filesystem.drawing_of_resolve hr 3
  exact ⟨_, handler_eq_ok.mpr (bind_eq_ok.mpr ⟨_, rfl, bind_eq_ok.mpr ⟨_, hd, rfl⟩⟩), rfl⟩

/-- A directory is entered. -/
theorem openNode_of_directory {arg name path : String} {nodes : List Node} {id : Json.Value}
    (hr : view.filesystem.resolve (some arg) view.cwd =
      .ok (some (.directory name path nodes id))) (rest : List String) :
    handlerOf .openNode view (arg :: rest) =
      .ok { shows ("Changed directory to " ++ path) with moveTo := some path } :=
  handler_eq_ok.mpr (bind_eq_ok.mpr ⟨_, hr, rfl⟩)

/-- The text of a file is shown. -/
theorem read_of_file {arg content : String}
    (hr : view.filesystem.contentAt (some arg) view.cwd = .ok content) (rest : List String) :
    handlerOf .read view (arg :: rest) = .ok (shows content) :=
  handler_eq_ok.mpr (bind_eq_ok.mpr ⟨_, hr, rfl⟩)

theorem succeeds_openNode (h : AtDirectory view) :
    Succeeds (handlerOf .openNode) view ["."] := by
  obtain ⟨name, path, nodes, id, hr⟩ := h
  exact ⟨_, openNode_of_directory hr [], rfl⟩

end Portfolio.Command.Builtin
