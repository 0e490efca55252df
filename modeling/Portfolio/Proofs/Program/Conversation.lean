/-
  File:      Portfolio/Proofs/Program/Conversation.lean
  Subject:   The console over many lines is one line after the other.

  * `Round`: a line and the session at the moment at which it is typed; `rounds`: those of
    the lines, run one after the other; `takenBy`: up to the first that is the last by some
    test.
  * `fault?`: why the result of a round cannot be printed. The console stops there, and it
    closes where a round ends it: `isLast` is either of the two (`turn_eq`).
  * `Follows`: a transcript is that of the rounds taken. `converse_follows`: that of the
    console is, by induction on the lines. If all results can be printed, the round that is
    the last is the first that ends the console (`takenBy_congr`).
  * `fault?_eq_some_iff`: on a terminal that does what the program relies on, only where a
    result leads to may fail to be printed.
  * `Simulates`, `simulates`: all of this, for every session. `stops_at_target`: the console
    can stop.
-/
import Portfolio.Proofs.Outcome
import Portfolio.Proofs.Program.Terminal
import Portfolio.Proofs.Session.Builtins

namespace Portfolio.Program

variable {t : Terminal} {least : Nat} {s : Session} {line : String} {lines rest : List String}
  {last : Round → Bool}

/-! ## 1. Rounds -/

/-- A line, and the session in which it is typed. -/
structure Round where
  session : Session
  line : String

namespace Round

/-- The result of the line. -/
def result (r : Round) : Result :=
  (r.session.exec (some r.line)).1

/-- The session after the line. -/
def next (r : Round) : Session :=
  (r.session.exec (some r.line)).2

/-- The line ends the console: it closes it, and does not clear it. -/
def ends (r : Round) : Bool :=
  r.result.exit && !r.result.clear

/-- What the console shows of the result: nothing if it is cleared. -/
def shown (r : Round) : List Printed :=
  if r.result.clear then [] else printResult r.result

/-- What the log shows of the line. -/
def logged (least : Nat) (r : Round) : List Printed :=
  printLog least (r.session.execLog (some r.line))

/-- What the line writes: what is logged of it, and what is shown of its result as far as it
    can be printed. -/
def written (t : Terminal) (least : Nat) (r : Round) : Written :=
  (t.write (r.logged least ++ r.shown)).1

/-- Why the result of the line cannot be printed, if it cannot. -/
def fault? (t : Terminal) (r : Round) : Option DataFault :=
  match (t.write r.shown).2 with
  | .error f => some f
  | .ok () => none

/-- The line is the last: it ends the console, or its result cannot be printed. -/
def isLast (t : Terminal) (r : Round) : Bool :=
  r.ends || (r.fault? t).isSome

/-- The log is written before anything else, to the stream for errors. -/
theorem exists_write_logged_append (t : Terminal) (least : Nat) (r : Round)
    (pieces : List Printed) : ∃ err, t.write (r.logged least ++ pieces) =
      ({ err } ++ (t.write pieces).1, (t.write pieces).2) := by
  obtain ⟨err, h⟩ := write_printLog t least (r.session.execLog (some r.line))
  refine ⟨err, ?_⟩
  rw [write_append]
  unfold logged
  rw [h]

theorem out_write_logged_append (t : Terminal) (least : Nat) (r : Round)
    (pieces : List Printed) :
    (t.write (r.logged least ++ pieces)).1.out = (t.write pieces).1.out := by
  obtain ⟨err, h⟩ := r.exists_write_logged_append t least pieces
  rw [h]
  exact String.empty_append

/-- The log adds nothing to the first stream. -/
theorem out_written (t : Terminal) (least : Nat) (r : Round) :
    (r.written t least).out = (t.write r.shown).1.out := by
  unfold written
  exact r.out_write_logged_append t least r.shown

theorem write_logged_shown (t : Terminal) (least : Nat) (r : Round) :
    t.write (r.logged least ++ r.shown) = (r.written t least, (t.write r.shown).2) := by
  obtain ⟨err, h⟩ := r.exists_write_logged_append t least r.shown
  unfold written
  rw [h]

/-- A session logs nothing but for who looks for faults in it, unless a handler breaks. -/
theorem logged_eq_nil (r : Round) (h : Log.Level.debug.severity < least)
    (hb : r.session.Breaks (some r.line) → Log.Level.error.severity < least) :
    r.logged least = [] := by
  have hnone : Log.shown least (r.session.execLog (some r.line)) = [] := by
    refine List.filter_eq_nil_iff.mpr fun e he => ?_
    rcases Session.level_of_mem_execLog he with hl | ⟨hl, hbreaks⟩
    · rw [hl]
      exact mt of_decide_eq_true (Nat.not_le.mpr h)
    · rw [hl]
      exact mt of_decide_eq_true (Nat.not_le.mpr (hb hbreaks))
  unfold logged printLog
  rw [hnone]
  rfl

end Round

/-- The session after the lines, run one after the other. -/
def afterLines (s : Session) (lines : List String) : Session :=
  lines.foldl (fun s line => Round.next ⟨s, line⟩) s

theorem afterLines_cons (s : Session) (line : String) (rest : List String) :
    afterLines s (line :: rest) = afterLines (Round.next ⟨s, line⟩) rest :=
  List.foldl_cons ..

/-- Each line with the session after all lines before it. -/
def rounds (s : Session) (lines : List String) : List Round :=
  lines.mapIdx fun i line => ⟨afterLines s (lines.take i), line⟩

/-- The rounds up to the first that is the last; all if there is none. -/
def takenBy (last : Round → Bool) (s : Session) (lines : List String) : List Round :=
  (rounds s lines).take ((rounds s lines).findIdx last + 1)

theorem rounds_cons (s : Session) (line : String) (rest : List String) :
    rounds s (line :: rest) = ⟨s, line⟩ :: rounds (Round.next ⟨s, line⟩) rest := by
  unfold rounds
  simp only [List.mapIdx_cons, List.take_succ_cons, afterLines_cons]
  rfl

theorem takenBy_of_last (h : last ⟨s, line⟩ = true) (rest : List String) :
    takenBy last s (line :: rest) = [⟨s, line⟩] := by
  unfold takenBy
  rw [rounds_cons, List.findIdx_cons, h]
  rfl

theorem takenBy_of_not_last (h : last ⟨s, line⟩ = false) (rest : List String) :
    takenBy last s (line :: rest) = ⟨s, line⟩ :: takenBy last (Round.next ⟨s, line⟩) rest := by
  unfold takenBy
  rw [rounds_cons, List.findIdx_cons, h]
  rfl

/-- Two tests that agree on the rounds taken by one of them take the same rounds. -/
theorem takenBy_congr {last' : Round → Bool} (h : ∀ r ∈ takenBy last s lines, last' r = last r) :
    takenBy last' s lines = takenBy last s lines ∧
      (rounds s lines).any last' = (rounds s lines).any last := by
  induction lines generalizing s with
  | nil => exact ⟨rfl, rfl⟩
  | cons line rest ih =>
    rw [rounds_cons, List.any_cons, List.any_cons]
    cases hl : last ⟨s, line⟩ with
    | true =>
      rw [takenBy_of_last hl] at h ⊢
      have hl' := (h _ List.mem_cons_self).trans hl
      rw [takenBy_of_last hl', hl', Bool.true_or, Bool.true_or]
      exact ⟨rfl, rfl⟩
    | false =>
      rw [takenBy_of_not_last hl] at h ⊢
      have hl' := (h _ List.mem_cons_self).trans hl
      obtain ⟨htaken, hany⟩ := ih fun r hr => h r (List.mem_cons_of_mem _ hr)
      rw [takenBy_of_not_last hl', htaken, hl', hany]
      exact ⟨rfl, rfl⟩

/-! ## 2. The console -/

section After

variable (tr : Transcript) (written : Written) (prompts : List String)

@[simp] theorem after_ended : (tr.after written prompts).ended = tr.ended := rfl

@[simp] theorem after_unread : (tr.after written prompts).unread = tr.unread := rfl

@[simp] theorem after_prompts : (tr.after written prompts).prompts = prompts ++ tr.prompts := rfl

@[simp] theorem after_written : (tr.after written prompts).written = written ++ tr.written := rfl

end After

/-- What a line prints is what is logged and shown of it. -/
theorem answer_eq (least : Nat) (r : Round) :
    answer least r.session r.line = (r.logged least ++ r.shown, r.next, r.ends) := by
  unfold answer Round.shown Round.ends Round.next Round.result
  generalize r.session.exec (some r.line) = outcome
  obtain ⟨result, next⟩ := outcome
  dsimp only
  cases result.clear with
  | true =>
    rw [if_pos rfl, if_pos rfl, List.append_nil, Bool.not_true, Bool.and_false]
    rfl
  | false =>
    rw [if_neg Bool.false_ne_true, if_neg Bool.false_ne_true, Bool.not_false, Bool.and_true]
    rfl

/-- How the console ends at these rounds: it stops at one whose result cannot be printed, and
    else closes. -/
def endOf (t : Terminal) (taken : List Round) : Except DataFault Nat :=
  match taken.findSome? (Round.fault? t) with
  | some f => .error f
  | none => .ok 0

/-- **The console goes on after a line unless it is the last.** -/
theorem turn_eq (t : Terminal) (least : Nat) (r : Round) :
    turn t least r.session r.line =
      if r.isLast t then .ends (r.written t least) (endOf t [r])
      else .goes (r.written t least) r.next := by
  unfold turn
  rw [answer_eq]
  dsimp only
  rw [Round.write_logged_shown]
  unfold Round.isLast endOf Round.fault?
  cases h : (t.write r.shown).2 with
  | error f => simp [h]
  | ok _ => simp [h]

theorem converse_of_isLast (h : Round.isLast t ⟨s, line⟩ = true) (least : Nat)
    (rest : List String) :
    converse t least s (line :: rest) =
      { ended := endOf t [⟨s, line⟩], written := Round.written t least ⟨s, line⟩,
        prompts := [prompt s], unread := rest.length } := by
  rw [converse, turn_eq t least ⟨s, line⟩, if_pos h]

theorem converse_of_not_isLast (h : Round.isLast t ⟨s, line⟩ = false) (least : Nat)
    (rest : List String) :
    converse t least s (line :: rest) =
      (converse t least (Round.next ⟨s, line⟩) rest).after
        (Round.written t least ⟨s, line⟩) [prompt s] := by
  rw [converse, turn_eq t least ⟨s, line⟩, if_neg (Bool.not_eq_true _ ▸ h)]

/-- What is written one after the other. -/
def joined (writings : List Written) : Written :=
  writings.foldr (· ++ ·) {}

/-- A transcript is that of the rounds taken. The lines after these rounds are not read;
    before each of them, and at the end of the lines, the current directory is shown; and
    what is written is what they write, one after the other. -/
structure Follows (t : Terminal) (last : Round → Bool) (least : Nat) (s : Session)
    (lines : List String) (tr : Transcript) : Prop where
  unread : tr.unread = lines.length - (takenBy last s lines).length
  prompts : tr.prompts = (takenBy last s lines).map (fun r => r.session.cwd ++ "$ ") ++
    if (rounds s lines).any last then [] else [(afterLines s lines).cwd ++ "$ "]
  written : tr.written = joined ((takenBy last s lines).map (Round.written t least))

/-- **The console follows its rounds**, up to the one that is the last. -/
theorem converse_follows (t : Terminal) (least : Nat) (s : Session) (lines : List String) :
    Follows t (Round.isLast t) least s lines (converse t least s lines) := by
  induction lines generalizing s with
  | nil => exact ⟨rfl, rfl, rfl⟩
  | cons line rest ih =>
    cases h : Round.isLast t ⟨s, line⟩ with
    | true =>
      rw [converse_of_isLast h]
      constructor
      case unread =>
        rw [takenBy_of_last h, List.length_singleton, List.length_cons, Nat.add_sub_cancel]
      case prompts =>
        rw [takenBy_of_last h, rounds_cons, List.any_cons, h, Bool.true_or, if_pos rfl,
          List.append_nil, List.map_singleton]
        rfl
      case written =>
        rw [takenBy_of_last h, List.map_singleton]
        exact (written_append_empty _).symm
    | false =>
      have hrest := ih (Round.next ⟨s, line⟩)
      rw [converse_of_not_isLast h]
      constructor
      case unread =>
        rw [after_unread, hrest.unread, takenBy_of_not_last h, List.length_cons,
          List.length_cons, Nat.add_sub_add_right]
      case prompts =>
        rw [after_prompts, hrest.prompts, takenBy_of_not_last h, rounds_cons, List.any_cons, h,
          Bool.false_or, afterLines_cons, List.map_cons, List.cons_append]
        rfl
      case written =>
        rw [after_written, hrest.written, takenBy_of_not_last h, List.map_cons]
        rfl

/-- It stops where a result cannot be printed, and else closes. -/
theorem ended_converse (t : Terminal) (least : Nat) (s : Session) (lines : List String) :
    (converse t least s lines).ended = endOf t (takenBy (Round.isLast t) s lines) := by
  induction lines generalizing s with
  | nil => rfl
  | cons line rest ih =>
    cases h : Round.isLast t ⟨s, line⟩ with
    | true => rw [converse_of_isLast h, takenBy_of_last h]
    | false =>
      rw [converse_of_not_isLast h, takenBy_of_not_last h, after_ended, ih]
      have hnone : Round.fault? t ⟨s, line⟩ = none :=
        Option.isNone_iff_eq_none.mp (Option.isSome_eq_false_iff.mp (Bool.or_eq_false_iff.mp h).2)
      unfold endOf
      rw [List.findSome?_cons, hnone]

/-- If all that is shown can be printed, the console closes, and takes the rounds up to the
    first that ends it. -/
theorem converse_of_printable
    (h : ∀ r ∈ takenBy Round.ends s lines, Round.fault? t r = none) (least : Nat) :
    (converse t least s lines).ended = .ok 0 ∧
      Follows t Round.ends least s lines (converse t least s lines) := by
  have hlast : ∀ r ∈ takenBy Round.ends s lines, Round.isLast t r = Round.ends r := fun r hr => by
    unfold Round.isLast
    rw [h r hr, Option.isSome_none, Bool.or_false]
  obtain ⟨htaken, hany⟩ := takenBy_congr hlast
  constructor
  · rw [ended_converse, htaken]
    unfold endOf
    rw [List.findSome?_eq_none_iff.mpr h]
  · have hf := converse_follows t least s lines
    constructor
    case unread => rw [hf.unread, htaken]
    case prompts => rw [hf.prompts, htaken, hany]
    case written => rw [hf.written, htaken]

/-! ## 3. One line -/

/-- **With the handlers of the console, what is shown of a result is all that it prints.** -/
theorem Round.shown_of_hasBuiltins {r : Round} (hb : r.session.HasBuiltins) :
    r.shown = printResult r.result := by
  unfold Round.shown Round.result
  split
  · rename_i hc
    rw [Session.exec_of_clear hb hc]
    rfl
  · rfl

/-- On its own the line prints what is logged of it and all of its result. -/
theorem runLine_eq (t : Terminal) (least : Nat) (r : Round) :
    runLine t least r.session r.line =
      t.finish (r.logged least ++ printResult r.result) (if r.result.failed then 1 else 0) := by
  unfold runLine Round.result
  generalize r.session.exec (some r.line) = outcome
  obtain ⟨result, next⟩ := outcome
  rfl

theorem written_runLine (t : Terminal) (least : Nat) (r : Round) :
    (runLine t least r.session r.line).written =
      (t.write (r.logged least ++ printResult r.result)).1 := by
  rw [runLine_eq, Terminal.finish]

theorem ended_runLine (t : Terminal) (least : Nat) (r : Round) :
    (runLine t least r.session r.line).ended =
      (t.write (printResult r.result)).2.map fun _ => if r.result.failed then 1 else 0 := by
  obtain ⟨err, h⟩ := r.exists_write_logged_append t least (printResult r.result)
  rw [runLine_eq]
  unfold Terminal.finish
  rw [h]

/-- The status says whether the line failed. -/
theorem status_runLine (h : (t.write (printResult (Round.result ⟨s, line⟩))).2 = .ok ())
    (least : Nat) :
    ((runLine t least s line).ended = .ok 1 ↔ (Round.result ⟨s, line⟩).failed = true) ∧
      ((runLine t least s line).ended = .ok 0 ↔ (Round.result ⟨s, line⟩).failed = false) := by
  rw [ended_runLine t least ⟨s, line⟩, h]
  cases (Round.result ⟨s, line⟩).failed <;> simp [Except.map]

/-- The console over one line writes what the line writes on its own, and stops where it
    does. -/
theorem converse_one (hb : s.HasBuiltins) (t : Terminal) (least : Nat) (line : String) :
    (converse t least s [line]).written = (runLine t least s line).written ∧
      ∀ f, (converse t least s [line]).ended = .error f ↔
        (runLine t least s line).ended = .error f := by
  have ht : takenBy (Round.isLast t) s [line] = [⟨s, line⟩] := by
    cases h : Round.isLast t ⟨s, line⟩ with
    | true => exact takenBy_of_last h []
    | false => exact takenBy_of_not_last h []
  have hshown : Round.shown ⟨s, line⟩ = printResult (Round.result ⟨s, line⟩) :=
    Round.shown_of_hasBuiltins hb
  constructor
  · rw [(converse_follows t least s [line]).written, ht, written_runLine t least ⟨s, line⟩,
      ← hshown]
    exact written_append_empty _
  · intro f
    rw [ended_converse, ht, ended_runLine t least ⟨s, line⟩, ← hshown]
    unfold endOf
    rw [List.findSome?_singleton]
    unfold Round.fault?
    cases (t.write (Round.shown ⟨s, line⟩)).2 with
    | error g => simp [Except.map]
    | ok _ => simp [Except.map]

/-! ## 4. Where the console stops -/

/-- **Only where a result leads to may fail to be printed.** -/
theorem fault?_eq_some_iff (hd : t.Documented) (r : Round) (f : DataFault) :
    r.fault? t = some f ↔ r.result.clear = false ∧ r.result.failed = false ∧
      ∃ n, r.result.navigation = some n ∧ t.put .broken (navigationText n) = .error f := by
  unfold Round.fault? Round.shown
  cases hc : r.result.clear with
  | true => simp [Terminal.write]
  | false =>
    rw [if_neg Bool.false_ne_true]
    cases hf : r.result.failed with
    | true =>
      rw [write_printResult_of_failed hd hf]
      simp
    | false =>
      rw [write_printResult hd hf]
      cases hn : r.result.navigation with
      | none => simp
      | some n => cases hp : t.put .broken (navigationText n) <;> simp [hp]

/-! ## 5. The whole -/

/-- The console is one line after the other. If all that is shown of the rounds up to the
    first that ends it can be printed, it returns the status 0 and follows these rounds; in
    general it stops after the first whose result cannot be printed. The first stream gets
    what is shown of the results and no more. So does the other one if nothing is logged, and
    with the handlers of the console nothing is but for who looks for faults. With these a
    line that is alone writes the same here as on its own, where the status says whether it
    fails unless that cannot be printed. On a terminal that does what the program relies on,
    only where a result leads to may fail to be printed. -/
structure Simulates (t : Terminal) (least : Nat) (s : Session) : Prop where
  script : ∀ lines, (∀ r ∈ takenBy Round.ends s lines, Round.fault? t r = none) →
    (converse t least s lines).ended = .ok 0 ∧
      Follows t Round.ends least s lines (converse t least s lines)
  stopped : ∀ lines,
    (converse t least s lines).ended = endOf t (takenBy (Round.isLast t) s lines) ∧
      Follows t (Round.isLast t) least s lines (converse t least s lines)
  out : ∀ r : Round, (r.written t least).out = (t.write r.shown).1.out
  quiet : ∀ r : Round, Log.Level.debug.severity < least →
    (r.session.Breaks (some r.line) → Log.Level.error.severity < least) →
      r.written t least = (t.write r.shown).1
  foreseen : ∀ r : Round, r.session.HasBuiltins → ¬ r.session.Breaks (some r.line)
  single : s.HasBuiltins → ∀ line,
    (converse t least s [line]).written = (runLine t least s line).written ∧
      ∀ f, (converse t least s [line]).ended = .error f ↔
        (runLine t least s line).ended = .error f
  failed_iff : ∀ line, (t.write (printResult (Round.result ⟨s, line⟩))).2 = .ok () →
    ((runLine t least s line).ended = .ok 1 ↔ (Round.result ⟨s, line⟩).failed = true) ∧
      ((runLine t least s line).ended = .ok 0 ↔ (Round.result ⟨s, line⟩).failed = false)
  fault_iff : t.Documented → ∀ (r : Round) f, r.fault? t = some f ↔
    r.result.clear = false ∧ r.result.failed = false ∧
      ∃ n, r.result.navigation = some n ∧ t.put .broken (navigationText n) = .error f

/-- **The console is one line after the other**, for every session, whatever its handlers and
    its past are, and on every terminal. -/
theorem simulates (t : Terminal) (least : Nat) (s : Session) : Simulates t least s where
  script _ h := converse_of_printable h least
  stopped lines := ⟨ended_converse t least s lines, converse_follows t least s lines⟩
  out := Round.out_written t least
  quiet r h hb := by
    unfold Round.written
    rw [r.logged_eq_nil h hb, List.nil_append]
  foreseen r hb := hb.not_breaks (some r.line)
  single hb line := converse_one hb t least line
  failed_iff _ h := status_runLine h least
  fault_iff hd r f := fault?_eq_some_iff hd r f

theorem simulates_closing : Simulates .folding 30 { filesystem := {} } ∧
    Session.HasBuiltins { filesystem := {} } ∧
    (converse .folding 30 { filesystem := {} } ["clear", "pwd", "exit", "pwd"]).report.toOption =
      some ⟨0, "/\nClosing console...\n", "", ["/$ ", "/$ ", "/$ "], 1⟩ :=
  ⟨simulates .folding 30 _, rfl, by decide +kernel⟩

/-- A session in which there is a url for the resume. -/
def resumeSession (url : String) : Session where
  filesystem := match Filesystem.ofRecords { resumeUrl := url } [] with
    | .ok made => made.result
    | .error _ => {}

/-- A url that is too wide, and has no place to be cut: the joiners take no columns, and
    neither does the character after them if it is seen together with them. -/
def uncuttableUrl : String :=
  String.ofList (['\u200d', '\u200d', '日'] ++ List.replicate 79 'a' ++ " tail".toList)

/-- The console does not close after all lines: it stops where a url cannot be printed. -/
theorem stops_at_target : ¬ ∀ (t : Terminal) (least : Nat) (s : Session) (lines : List String),
    t.Documented → (converse t least s lines).ended = .ok 0 := by
  intro h
  have hends := h .folding 30 (resumeSession uncuttableUrl)
    ["pwd", "open /base/resume", "pwd", "exit"] documented_folding
  have hstops : (converse .folding 30 (resumeSession uncuttableUrl)
      ["pwd", "open /base/resume", "pwd", "exit"]).ended.isOk = false := by decide +kernel
  rw [hends] at hstops
  cases hstops

end Portfolio.Program
