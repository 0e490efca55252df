/-
  File:      Portfolio/Proofs/Session/Line.lean
  Subject:   One line in a session: what it asks for, and what it leaves.

  * `bare`: the line as it is run and kept. It is empty exactly if only blanks were
    typed, and then nothing happens (`exec_of_blank`).
  * A line is refused for a mark in it, names no command of a table (`Unknown`), or names
    one with its handler and arguments (`Asks`); it is one of the three
    (`marked_or_unknown_or_asks`), and each says what the line asks for
    (`requestIn_of_marked`, `requestIn_of_unknown`, `Asks.requestIn`). For the table of a
    session these are `Unnamed` and `Names`.
  * `settle`: what the outcome of a handler makes of the line. Any other line is one
    entry of the history more and a new current directory (`exec_of_not_blank`).
  * `exec_of_parse`: what becomes of a line, by the name and the arguments in it.
  * `Breaks`: its handler fails in a way that no one has foreseen. Only then the log has
    more to say than who looks for faults has to know (`level_of_mem_execLog`).
  * `exec_two_words`: a line with a word for a command and one other word.
-/
import Portfolio.Proofs.Command.Line
import Portfolio.Session

namespace Portfolio.Session

variable {s : Session} {line : String} {typed : Option String}

/-! ## 1. Lines as they are typed -/

/-- The characters of what was typed, if anything was. -/
def chars (typed : Option String) : List Char :=
  (typed.getD "").toList

/-- The line without the blanks at its ends. -/
def bare (typed : Option String) : String :=
  String.ofList (Text.strip (chars typed))

theorem bare_eq_empty_iff : bare typed = "" ↔ Text.allBlank (chars typed) = true := by
  rw [← Text.strip_eq_nil_iff, ← String.toList_eq_nil_iff]
  unfold bare
  rw [String.toList_ofList]

/-- A line with no blank at its ends is run as it was typed. -/
theorem bare_eq_self {first last : Char} (hf : line.toList.head? = some first)
    (hl : line.toList.getLast? = some last) (hbf : Text.isBlank first = false)
    (hbl : Text.isBlank last = false) : bare (some line) = line := by
  have hs : Text.strip line.toList = line.toList := Text.strip_eq_self hf hl hbf hbl
  show String.ofList (Text.strip line.toList) = line
  rw [hs, String.ofList_toList]

theorem lineOf?_of_blank (h : Text.allBlank (chars typed) = true) : lineOf? typed = none :=
  if_pos (bare_eq_empty_iff.mpr h)

theorem lineOf?_of_not_blank (h : Text.allBlank (chars typed) = false) :
    lineOf? typed = some (bare typed) := by
  have hne : bare typed ≠ "" := fun e => by
    rw [bare_eq_empty_iff.mp e] at h
    cases h
  exact if_neg hne

section Table

variable {α : Type} {table : List (Command × α)}

/-- The line has no refused feature and names a command, whose handler is in the
    table. -/
structure Asks (table : List (Command × α)) (line : String) (command : Command) (handler : α)
    (args : List String) : Prop where
  unmarked : ¬ Command.Marked line.toList
  word : Command.ofWord? (Command.parse line).name = some command
  handler : table.lookup command = some handler
  args : (Command.parse line).args = args

/-- The name in the line is no word for a command in the table. -/
def Unknown (table : List (Command × α)) (line : String) : Prop :=
  ∀ command, Command.ofWord? (Command.parse line).name = some command →
    table.lookup command = none

theorem requestIn_of_marked (h : Command.Marked line.toList) :
    requestIn table line = .error .shellFeature :=
  if_pos ((Command.hasShellFeature_iff line).mpr h)

theorem requestIn_of_not_marked (h : ¬ Command.Marked line.toList) :
    requestIn table line =
      match Command.ofWord? (Command.parse line).name with
      | none => .error (.unknownCommand (Command.parse line).name)
      | some command =>
        match table.lookup command with
        | none => .error (.unknownCommand (Command.parse line).name)
        | some handler => .ok (command, handler, (Command.parse line).args) :=
  if_neg fun hf => h ((Command.hasShellFeature_iff line).mp hf)

theorem requestIn_of_unknown (hm : ¬ Command.Marked line.toList) (h : Unknown table line) :
    requestIn table line = .error (.unknownCommand (Command.parse line).name) := by
  rw [requestIn_of_not_marked hm]
  cases hw : Command.ofWord? (Command.parse line).name with
  | none => rfl
  | some command =>
    dsimp only
    rw [h command hw]

theorem Asks.requestIn {command : Command} {handler : α} {args : List String}
    (h : Asks table line command handler args) :
    requestIn table line = .ok (command, handler, args) := by
  rw [requestIn_of_not_marked h.unmarked, h.word]
  dsimp only
  rw [h.handler, h.args]

/-- **A line has a mark, names no command of a table, or names one.** -/
theorem marked_or_unknown_or_asks (table : List (Command × α)) (line : String) :
    Command.Marked line.toList ∨ (¬ Command.Marked line.toList ∧ Unknown table line) ∨
      ∃ command handler args, Asks table line command handler args := by
  by_cases hm : Command.Marked line.toList
  · exact Or.inl hm
  · refine Or.inr ?_
    by_cases hn : Unknown table line
    · exact Or.inl ⟨hm, hn⟩
    · unfold Unknown at hn
      push Not at hn
      obtain ⟨command, hw, hh⟩ := hn
      obtain ⟨handler, hh⟩ := Option.ne_none_iff_exists'.mp hh
      exact Or.inr ⟨command, handler, _, hm, hw, hh, rfl⟩

end Table

/-- The line has no refused feature and names a command, whose handler is in the
    table of the session. -/
structure Names (s : Session) (line : String) (command : Command) (handler : Handler)
    (args : List String) : Prop where
  unmarked : ¬ Command.Marked line.toList
  word : Command.ofWord? (Command.parse line).name = some command
  handler : s.handler? command = some handler
  args : (Command.parse line).args = args

/-- The name in the line is no word for a command in the table of the session. -/
def Unnamed (s : Session) (line : String) : Prop :=
  ∀ command, Command.ofWord? (Command.parse line).name = some command →
    s.handler? command = none

theorem names_iff {command : Command} {handler : Handler} {args : List String} :
    s.Names line command handler args ↔ Asks s.handlers line command handler args :=
  ⟨fun h => ⟨h.unmarked, h.word, h.handler, h.args⟩,
    fun h => ⟨h.unmarked, h.word, h.handler, h.args⟩⟩

theorem request_of_marked (h : Command.Marked line.toList) :
    s.request line = .error .shellFeature :=
  requestIn_of_marked h

theorem request_of_unnamed (hm : ¬ Command.Marked line.toList) (h : s.Unnamed line) :
    s.request line = .error (.unknownCommand (Command.parse line).name) :=
  requestIn_of_unknown hm h

theorem Names.request {command : Command} {handler : Handler} {args : List String}
    (h : s.Names line command handler args) : s.request line = .ok (command, handler, args) :=
  (names_iff.mp h).requestIn

/-- A line that names a command is not blank. -/
theorem Asks.not_blank {α : Type} {table : List (Command × α)} {command : Command} {handler : α}
    {args : List String} (h : Asks table (bare typed) command handler args) :
    Text.allBlank (chars typed) = false := by
  refine Bool.eq_false_iff.mpr fun hb => ?_
  have hw := h.word
  rw [bare_eq_empty_iff.mpr hb] at hw
  cases hw

theorem Names.not_blank {command : Command} {handler : Handler} {args : List String}
    (h : s.Names (bare typed) command handler args) : Text.allBlank (chars typed) = false :=
  (names_iff.mp h).not_blank

/-- **A line has a mark, names no command, or names one.** -/
theorem marked_or_unnamed_or_names (s : Session) (line : String) :
    Command.Marked line.toList ∨ (¬ Command.Marked line.toList ∧ s.Unnamed line) ∨
      ∃ command handler args, s.Names line command handler args := by
  simp only [names_iff]
  exact marked_or_unknown_or_asks s.handlers line

/-! ## 3. What a line leaves -/

/-- The result of a line and where the session is after it, by the outcome of the
    handler of its command. -/
def settle (s : Session) (command : Command) : Except Failure Reply → Result × String
  | .error failure => (failure.toResult command, s.cwd)
  | .ok reply => (reply.answer.toResult, reply.moveTo.getD s.cwd)

theorem dispatch_of_error {e : ConsoleError} (h : s.request line = .error e) :
    s.dispatch line = (e.toResult, s.cwd) := by
  unfold dispatch
  rw [h]

theorem Names.dispatch {command : Command} {handler : Handler} {args : List String}
    (h : s.Names line command handler args) :
    s.dispatch line = s.settle command (handler s.view args) := by
  unfold Session.dispatch
  rw [h.request]
  dsimp only
  cases handler s.view args <;> rfl

/-- The session in a directory, with what was typed in its history. -/
def after (s : Session) (typed : Option String) (cwd : String) : Session :=
  { s with cwd, history := s.history ++ [bare typed] }

@[simp] theorem after_cwd (s : Session) (typed : Option String) (cwd : String) :
    (s.after typed cwd).cwd = cwd := rfl

@[simp] theorem after_history (s : Session) (typed : Option String) (cwd : String) :
    (s.after typed cwd).history = s.history ++ [bare typed] := rfl

theorem exec_of_blank (h : Text.allBlank (chars typed) = true) : s.exec typed = ({}, s) := by
  unfold exec
  rw [lineOf?_of_blank h]

theorem exec_of_not_blank (h : Text.allBlank (chars typed) = false) :
    s.exec typed = ((s.dispatch (bare typed)).1, s.after typed (s.dispatch (bare typed)).2) := by
  unfold exec
  rw [lineOf?_of_not_blank h]
  dsimp only
  generalize s.dispatch (bare typed) = outcome
  rfl

/-- A line that names a command leaves what the outcome of its handler makes of it. -/
theorem Names.exec {command : Command} {handler : Handler} {args : List String}
    (h : s.Names (bare typed) command handler args) :
    s.exec typed = ((s.settle command (handler s.view args)).1,
      s.after typed (s.settle command (handler s.view args)).2) := by
  rw [exec_of_not_blank h.not_blank, h.dispatch]

/-- **A line by its parts**: what becomes of it, if it has no blank at its ends. -/
theorem exec_of_parse {name : String} {args : List String} {command : Command} {handler : Handler}
    (hb : bare (some line) = line) (hm : ¬ Command.Marked line.toList)
    (hp : Command.parse line = ⟨name, args⟩) (hw : Command.ofWord? name = some command)
    (hh : s.handler? command = some handler) :
    s.exec (some line) =
      ((s.settle command (handler s.view args)).1,
        { s with
          cwd := (s.settle command (handler s.view args)).2
          history := s.history ++ [line] }) := by
  have hn : s.Names (bare (some line)) command handler args := by
    rw [hb]
    exact ⟨hm, by rw [hp, hw], hh, by rw [hp]⟩
  rw [hn.exec]
  unfold after
  rw [hb]

/-- A line changes neither the filesystem nor the table of handlers. -/
theorem exec_keeps (s : Session) (typed : Option String) :
    ∃ cwd history, (s.exec typed).2 = { s with cwd, history } := by
  cases h : Text.allBlank (chars typed) with
  | true => exact ⟨s.cwd, s.history, by rw [exec_of_blank h]⟩
  | false => exact ⟨_, _, by rw [exec_of_not_blank h]; rfl⟩

/-- The handler of the command that is named fails for a reason that no one has
    foreseen. -/
def Breaks (s : Session) (typed : Option String) : Prop :=
  ∃ command handler args message, s.Names (bare typed) command handler args ∧
    handler s.view args = .error (.broken message)

/-- **What the log says about a line** is for who looks for faults, unless its handler
    breaks. -/
theorem level_of_mem_execLog {e : Log.Entry} (h : e ∈ s.execLog typed) :
    e.level = .debug ∨ e.level = .error ∧ s.Breaks typed := by
  unfold execLog at h
  cases hb : Text.allBlank (chars typed) with
  | true =>
    rw [lineOf?_of_blank hb] at h
    cases h
  | false =>
    rw [lineOf?_of_not_blank hb] at h
    dsimp only at h
    unfold entriesOf at h
    rcases marked_or_unnamed_or_names s (bare typed) with
      hm | ⟨hm, hu⟩ | ⟨command, handler, args, hn⟩
    · rw [request_of_marked hm] at h
      cases List.mem_singleton.mp h
      exact Or.inl rfl
    · rw [request_of_unnamed hm hu] at h
      cases h
    · rw [hn.request] at h
      rcases List.mem_cons.mp h with rfl | hf
      · exact Or.inl rfl
      · unfold failureEntries at hf
        split at hf
        · rename_i message ho
          cases List.mem_singleton.mp hf
          exact Or.inr ⟨rfl, command, handler, args, message, hn, ho⟩
        · cases hf

/-! ## 4. A name and one argument -/

section TwoWords

variable {first second : String}

theorem bare_two_words (hf : Command.IsWord first) (hs : Command.IsWord second) :
    bare (some (first ++ " " ++ second)) = first ++ " " ++ second := by
  have hc : (first ++ " " ++ second).toList = first.toList ++ ' ' :: second.toList := by
    simp [String.toList_append]
  -- it has no blank at its ends, since the two words have none
  obtain ⟨c, rest, hfirst⟩ := List.exists_cons_of_ne_nil hf.toList_ne_nil
  obtain ⟨init, d, hsecond⟩ : ∃ init d, second.toList = init ++ [d] :=
    ⟨_, _, (List.dropLast_append_getLast hs.toList_ne_nil).symm⟩
  have hbc := (Command.isPlain_iff.mp (hf.plain c (by rw [hfirst]; exact List.mem_cons_self))).1
  have hbd := (Command.isPlain_iff.mp (hs.plain d (by rw [hsecond]; simp))).1
  refine bare_eq_self ?_ ?_ hbc hbd
  · rw [hc, hfirst]
    rfl
  · rw [hc, hsecond, ← List.cons_append, ← List.append_assoc, List.getLast?_concat]

/-- **A word for a command and another word** are the command with one argument. -/
theorem exec_two_words {command : Command} {handler : Handler} (hf : Command.IsWord first)
    (hs : Command.IsWord second) (hw : Command.ofWord? first = some command)
    (hh : s.handler? command = some handler) :
    s.exec (some (first ++ " " ++ second)) =
      ((s.settle command (handler s.view [second])).1,
        { s with
          cwd := (s.settle command (handler s.view [second])).2
          history := s.history ++ [first ++ " " ++ second] }) := by
  have hm : ¬ Command.Marked (first ++ " " ++ second).toList := by
    refine Command.not_marked_of_plain fun c hc => ?_
    rw [String.toList_append, String.toList_append] at hc
    rcases List.mem_append.mp hc with hc | hc
    · rcases List.mem_append.mp hc with hc | hc
      · exact Or.inl (hf.plain c hc)
      · exact Or.inr (List.mem_singleton.mp hc)
    · exact Or.inl (hs.plain c hc)
  exact exec_of_parse (bare_two_words hf hs) hm (Command.parse_two_words hf hs) hw hh

end TwoWords

end Portfolio.Session
