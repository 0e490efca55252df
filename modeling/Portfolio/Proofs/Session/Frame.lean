/-
  File:      Portfolio/Proofs/Session/Frame.lean
  Subject:   What a line can change in a session.

  * `Contained`: what a line does to a session with the handlers of the console. A
    line that fails is one entry of the history more and nothing else; only one that
    opens a directory moves.
  * `run_contained`: this holds of every line after every run, on any filesystem.
-/
import Portfolio.Proofs.Session.Run

namespace Portfolio.Session

variable {s : Session} {typed : Option String}

/-! ## 1. The session after a line -/

/-- What a line does to a session. Blanks do nothing; any other line is kept in the
    history. One that fails changes nothing else, and says no more than its error.
    The session moves if the line opens a directory, to the path of that one, and
    then the result tells of no failure; else it does not move. -/
structure Contained (s : Session) (typed : Option String) : Prop where
  blank : Text.allBlank (chars typed) = true → s.exec typed = ({}, s)
  kept : Text.allBlank (chars typed) = false →
    (s.exec typed).2.history = s.history ++ [bare typed]
  failed : (s.exec typed).1.failed = true →
    (∃ message, (s.exec typed).1 =
      { output := "Error: " ++ message, failed := true, navigation := none, exit := false,
        clear := false }) ∧
      (s.exec typed).2 = { s with history := s.history ++ [bare typed] }
  moved : (s.exec typed).2.cwd ≠ s.cwd → ∃ path, s.Opens (bare typed) path
  opens : ∀ path, s.Opens (bare typed) path →
    (s.exec typed).2.cwd = path ∧ (s.exec typed).1.failed = false ∧
      (s.exec typed).1.navigation = none

/-- Blanks open nothing. -/
theorem not_opens_of_blank (h : Text.allBlank (chars typed) = true) (path : String) :
    ¬ s.Opens (bare typed) path := by
  intro ho
  obtain ⟨arg, rest, name, nodes, id, ha, _⟩ := ho.directory
  rw [bare_eq_empty_iff.mpr h] at ha
  cases ha

theorem contained_of_blank (h : Text.allBlank (chars typed) = true) : s.Contained typed where
  blank := exec_of_blank
  kept h' := by
    rw [h] at h'
    cases h'
  failed h' := by
    rw [exec_of_blank h] at h'
    cases h'
  moved h' := by
    rw [exec_of_blank h] at h'
    exact absurd rfl h'
  opens path ho := absurd ho (not_opens_of_blank h path)

theorem contained_of_not_blank (hb : s.HasBuiltins) (h : Text.allBlank (chars typed) = false) :
    s.Contained typed where
  blank := exec_of_blank
  kept _ := by rw [exec_of_not_blank h, after_history]
  failed hf := by
    rw [exec_of_not_blank h] at hf ⊢
    rcases dispatch_cases hb (bare typed) with ⟨message, hd⟩ | ⟨r, hr, hd⟩ | ⟨path, ho⟩
    · rw [hd]
      exact ⟨⟨message, rfl⟩, rfl⟩
    · rw [hd] at hf
      exact absurd hf (by rw [hr]; exact Bool.false_ne_true)
    · rw [ho.dispatch hb] at hf
      cases hf
  moved hm := by
    rw [exec_of_not_blank h, after_cwd] at hm
    rcases dispatch_cases hb (bare typed) with ⟨message, hd⟩ | ⟨r, _, hd⟩ | ho
    · exact absurd (congrArg Prod.snd hd) hm
    · exact absurd (congrArg Prod.snd hd) hm
    · exact ho
  opens path ho := by
    rw [exec_of_not_blank h, ho.dispatch hb]
    exact ⟨rfl, rfl, rfl⟩

/-! ## 2. Over a run -/

/-- Whatever is asked of a session, it keeps its handlers. -/
theorem perform_handlers (s : Session) (e : Event) : (s.perform e).2.handlers = s.handlers := by
  rcases perform_cases s e with ⟨_, _, h⟩ | ⟨_, _, _, h⟩
  · rw [h]
  · rw [h]

theorem run_hasBuiltins (h : s.HasBuiltins) (events : List Event) : (s.run events).HasBuiltins :=
  run_preserves (P := HasBuiltins) (fun s e h => (perform_handlers s e).trans h) h events

theorem start_hasBuiltins {fs : Filesystem} {start : Option String}
    (h : Session.start fs start = .ok s) : s.HasBuiltins := by
  rcases start_eq_ok h with rfl | ⟨_, _, _, _, _, rfl⟩
  · exact rfl
  · exact rfl

/-- **Every line is contained after every run**, whatever filesystem the session was
    given, wherever it began, and whatever was typed. -/
theorem run_contained {fs : Filesystem} {start : Option String}
    (hs : Session.start fs start = .ok s) (events : List Event) (typed : Option String) :
    (s.run events).Contained typed := by
  have hb : (s.run events).HasBuiltins := run_hasBuiltins (start_hasBuiltins hs) events
  cases h : Text.allBlank (chars typed) with
  | true => exact contained_of_blank h
  | false => exact contained_of_not_blank hb h

/-- Without a tree nothing can be entered or listed: the history is all that changes. -/
theorem run_contained_unbuilt :
    ∃ s after, start {} none = .ok s ∧ after = s.run [.exec (some "cd projects")] ∧
      after.Contained (some " ls ") ∧ (after.exec (some " ls ")).1.failed = true ∧
      (after.exec (some " ls ")).2 = { s with history := ["cd projects", "ls"] } := by
  have hs : start {} none = .ok { filesystem := {} } := rfl
  have hc := run_contained hs [.exec (some "cd projects")] (some " ls ")
  exact ⟨_, _, hs, rfl, hc, rfl, (hc.failed rfl).2⟩

end Portfolio.Session
