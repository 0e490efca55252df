/-
  File:      Portfolio/Proofs/Session/Builtins.lean
  Subject:   Lines in a session with the handlers of the console.

  * `HasBuiltins`: the session has these handlers, each for its command.
  * `Opens`: the line opens a directory.
  * `fails_or_replies`: a line fails and stays, or its command replies.
  * `dispatch_cases`: a line fails and stays, succeeds and stays, or opens a directory.
  * `exec_of_clear`: a line that clears the console does nothing else.
-/
import Portfolio.Proofs.Command.Moves
import Portfolio.Proofs.Session.Line

namespace Portfolio.Session

variable {s : Session} {line path : String}

/-! ## 1. The handlers -/

/-- Every command has the handler it was registered with. -/
theorem lookup_registry (command : Command) :
    Command.Builtin.registry.handlers.lookup command =
      some (Command.Builtin.handlerOf command) := by
  cases command <;> rfl

/-- The session has the handlers of the console. -/
def HasBuiltins (s : Session) : Prop :=
  s.handlers = Command.Builtin.registry.handlers

theorem HasBuiltins.handler? (h : s.HasBuiltins) (command : Command) :
    s.handler? command = some (Command.Builtin.handlerOf command) := by
  unfold Session.handler?
  rw [h, lookup_registry]

/-- The handlers of the console fail in no way that no one has foreseen. -/
theorem HasBuiltins.not_breaks (h : s.HasBuiltins) (typed : Option String) :
    ¬ s.Breaks typed := by
  rintro ⟨command, handler, args, message, hn, ho⟩
  have hh := hn.handler
  rw [h.handler? command] at hh
  cases hh
  obtain ⟨_, hrefused⟩ := Command.Builtin.refused_of_handlerOf ho
  cases hrefused

/-! ## 2. Lines that open a directory -/

/-- The line has no refused feature, its command is `open`, and its first argument
    resolves from the current directory to the directory at the path. -/
structure Opens (s : Session) (line path : String) : Prop where
  unmarked : ¬ Command.Marked line.toList
  word : Command.ofWord? (Command.parse line).name = some .openNode
  directory : ∃ arg rest name nodes id, (Command.parse line).args = arg :: rest ∧
    s.filesystem.resolve (some arg) s.cwd = .ok (some (.directory name path nodes id))

theorem Opens.dispatch (h : s.Opens line path) (hb : s.HasBuiltins) :
    s.dispatch line = ({ output := "Changed directory to " ++ path }, path) := by
  obtain ⟨arg, rest, name, nodes, id, ha, hr⟩ := h.directory
  have hn : s.Names line .openNode (Command.Builtin.handlerOf .openNode) (arg :: rest) :=
    ⟨h.unmarked, h.word, hb.handler? _, ha⟩
  have hr' : s.view.filesystem.resolve (some arg) s.view.cwd =
      .ok (some (.directory name path nodes id)) := hr
  rw [hn.dispatch, Command.Builtin.openNode_of_directory hr' rest]
  rfl

/-- **A line fails and stays, or its command replies.** -/
theorem fails_or_replies (hb : s.HasBuiltins) (line : String) :
    (∃ message, s.dispatch line = ({ output := "Error: " ++ message, failed := true }, s.cwd)) ∨
      ∃ command args reply, s.Names line command (Command.Builtin.handlerOf command) args ∧
        Command.Builtin.handlerOf command s.view args = .ok reply ∧
        s.dispatch line = (reply.answer.toResult, reply.moveTo.getD s.cwd) := by
  rcases marked_or_unnamed_or_names s line with hm | ⟨hm, hn⟩ | ⟨command, handler, args, hn⟩
  · exact Or.inl ⟨_, dispatch_of_error (request_of_marked hm)⟩
  · exact Or.inl ⟨_, dispatch_of_error (request_of_unnamed hm hn)⟩
  · have hh := hn.handler
    rw [hb.handler? command] at hh
    cases hh
    rw [hn.dispatch]
    cases ho : Command.Builtin.handlerOf command s.view args with
    | error failure =>
      obtain ⟨message, rfl⟩ := Command.Builtin.refused_of_handlerOf ho
      exact Or.inl ⟨message, rfl⟩
    | ok reply => exact Or.inr ⟨command, args, reply, hn, ho, rfl⟩

/-- **A line fails and stays, succeeds and stays, or opens a directory.** -/
theorem dispatch_cases (hb : s.HasBuiltins) (line : String) :
    (∃ message, s.dispatch line = ({ output := "Error: " ++ message, failed := true }, s.cwd)) ∨
      (∃ r : Result, r.failed = false ∧ s.dispatch line = (r, s.cwd)) ∨
      ∃ path, s.Opens line path := by
  rcases fails_or_replies hb line with hf | ⟨command, args, reply, hn, ho, hd⟩
  · exact Or.inl hf
  · refine Or.inr ?_
    rw [hd]
    rcases Command.Builtin.stays_or_enters ho with ⟨r, hr, rfl⟩ | ⟨rfl, he⟩
    · exact Or.inl ⟨r, hr, rfl⟩
    · obtain ⟨arg, rest, name, path, nodes, id, ha, hr, _⟩ := he
      exact Or.inr ⟨path, hn.unmarked, hn.word, arg, rest, name, nodes, id, hn.args.trans ha, hr⟩

theorem dispatch_of_clear (hb : s.HasBuiltins) (h : (s.dispatch line).1.clear = true) :
    (s.dispatch line).1 = { clear := true } := by
  rcases fails_or_replies hb line with ⟨message, hd⟩ | ⟨command, args, reply, _, ho, hd⟩
  · rw [hd] at h
    cases h
  · rw [hd] at h ⊢
    exact Command.Builtin.result_of_clear ho h

/-- **A line that clears the console does nothing else.** -/
theorem exec_of_clear {typed : Option String} (hb : s.HasBuiltins)
    (h : (s.exec typed).1.clear = true) : (s.exec typed).1 = { clear := true } := by
  cases hblank : Text.allBlank (chars typed) with
  | true =>
    rw [exec_of_blank hblank] at h
    cases h
  | false =>
    rw [exec_of_not_blank hblank] at h ⊢
    dsimp only at h ⊢
    exact dispatch_of_clear hb h

end Portfolio.Session
