/-
  File:      Portfolio/Proofs/Program/Intents.lean
  Subject:   What is printed of a result that leads elsewhere.

  * `Plain.navigationText`: where a result leads is plain as it is shown if the target is.
  * `intact`: the text of a result and where it leads, both as they are, each with its line
    end.
  * `IntentPrinted`: a failure prints no more than its text, on the stream for errors. Of any
    other result the text is printed as it is, however long, and then where it leads, which
    the terminal may break: all is intact if that fits, and it is not if that is too wide. A
    line on its own and the console print the same of it.
  * `intent_printed`: this holds of every result whose target is plain, on every terminal
    that does what the program relies on.
-/
import Portfolio.Proofs.Program.Conversation
import Portfolio.Proofs.Session.Frame
import Portfolio.Proofs.Text.Find

namespace Portfolio.Program

variable {t : Terminal} {r : Result} {n : Navigation}

/-! ## 1. Where a result leads -/

/-- The target as it is shown: the url, or the text of the id. -/
def targetText : Navigation → String
  | .external url => url
  | .record id => id.display

/-- What is shown is the target, after an arrow and a word without a colon. -/
theorem exists_toList_navigationText (n : Navigation) : ∃ words : List Char,
    (navigationText n).toList = '-' :: words ++ (targetText n).toList ∧
      ∀ c ∈ '-' :: words, isControl c = false ∧ c ≠ ':' := by
  cases n with
  | external url => exact ⟨['>', ' '], by simp [navigationText, targetText], by simp [isControl]⟩
  | record id =>
    exact ⟨['>', ' ', 'p', 'r', 'o', 'j', 'e', 'c', 't', ' '],
      by simp [navigationText, targetText], by simp [isControl]⟩

theorem Terminal.Plain.navigationText (h : t.Plain (targetText n)) :
    t.Plain (navigationText n) := by
  obtain ⟨words, ht, hwords⟩ := exists_toList_navigationText n
  constructor
  case still =>
    intro c hc
    rw [ht] at hc
    rcases List.mem_append.mp hc with hc | hc
    · exact (hwords c hc).1
    · exact h.still c hc
  case unpictured =>
    intro name hname hi
    rw [ht] at hi
    have hcolon : ':' ∉ '-' :: words := fun hc => (hwords ':' hc).2 rfl
    exact h.unpictured name hname (Text.infix_of_cons_infix_append hcolon hi)

theorem shows_navigationText (n : Navigation) : Shows (navigationText n) := by
  obtain ⟨words, ht, _⟩ := exists_toList_navigationText n
  exact ⟨'-', words ++ (targetText n).toList, ht, by decide, by decide⟩

/-! ## 2. What is printed -/

/-- The text of a result and where it leads, both as they are, each with its line end. -/
def intact (r : Result) (n : Navigation) : String :=
  outputText r ++ (navigationText n ++ "\n")

theorem intact_ne_empty (r : Result) (n : Navigation) : intact r n ≠ "" := by
  simp [intact]

theorem intact_ne_outputText (r : Result) (n : Navigation) : intact r n ≠ outputText r := by
  simp [intact]

theorem write_of_navigation (hd : t.Documented) (hn : r.navigation = some n)
    (h : r.failed = false) :
    t.write (printResult r) = match t.put .broken (navigationText n) with
      | .error f => ({ out := outputText r }, .error f)
      | .ok text => ({ out := outputText r ++ text }, .ok ()) := by
  have hw := write_printResult hd h
  rw [hn] at hw
  exact hw

/-- **What fits is printed intact.** -/
theorem write_of_fits (hd : t.Documented) (hn : r.navigation = some n)
    (hp : t.Plain (targetText n)) (h : r.failed = false) (hf : t.Fits (navigationText n)) :
    t.write (printResult r) = ({ out := intact r n }, .ok ()) := by
  rw [write_of_navigation hd hn h, hd.fitting _ hp.navigationText hf]
  rfl

/-- **What is too wide is not.** -/
theorem write_of_wide (hd : t.Documented) (hn : r.navigation = some n)
    (hp : t.Plain (targetText n)) (hw : terminalWidth < t.columns (navigationText n)) :
    (t.write (printResult r)).1.out ≠ intact r n := by
  cases h : r.failed with
  | true =>
    rw [write_printResult_of_failed hd h]
    exact (intact_ne_empty r n).symm
  | false =>
    rw [write_of_navigation hd hn h]
    cases hput : t.put .broken (navigationText n) with
    | error f => exact (intact_ne_outputText r n).symm
    | ok text =>
      intro hintact
      have htext : text = navigationText n ++ "\n" := (String.append_right_inj _).mp hintact
      refine hd.wide _ hp.navigationText (shows_navigationText n) hw ?_
      rw [hput, htext]

/-! ## 3. On its own and in the console -/

/-- With the handlers of the console, a result that leads elsewhere is no failure and does
    not clear the console. -/
theorem acts_of_navigation {round : Round} (hb : round.session.HasBuiltins)
    (hn : round.result.navigation = some n) :
    round.result.failed = false ∧ round.result.clear = false := by
  have hcontained : round.session.Contained (some round.line) := by
    cases h : Text.allBlank (Session.chars (some round.line)) with
    | true => exact Session.contained_of_blank h
    | false => exact Session.contained_of_not_blank hb h
  unfold Round.result at hn ⊢
  constructor
  · refine Bool.eq_false_iff.mpr fun hf => ?_
    obtain ⟨⟨message, hr⟩, _⟩ := hcontained.failed hf
    rw [hr] at hn
    cases hn
  · refine Bool.eq_false_iff.mpr fun hc => ?_
    rw [Session.exec_of_clear hb hc] at hn
    cases hn

theorem out_runLine (t : Terminal) (least : Nat) (round : Round) :
    (runLine t least round.session round.line).written.out =
      (t.write (printResult round.result)).1.out := by
  rw [written_runLine, Round.out_write_logged_append]

theorem out_written_of_not_clear {round : Round} (h : round.result.clear = false)
    (t : Terminal) (least : Nat) :
    (round.written t least).out = (t.write (printResult round.result)).1.out := by
  rw [Round.out_written]
  unfold Round.shown
  rw [h, if_neg Bool.false_ne_true]

/-- What is printed of a result that leads elsewhere. Of a failure only the text is, to the
    stream for errors. Of any other one the text comes first, as it is, and then where the
    result leads, which the terminal may break, or fail to print: all is intact if that fits,
    and it is not if that is wider than the terminal. A line on its own prints no more and no
    less of it, and neither does the console unless it is cleared. With the handlers of the
    console a line that leads elsewhere neither fails nor clears. -/
structure IntentPrinted (t : Terminal) (r : Result) (n : Navigation) : Prop where
  failed : r.failed = true → t.write (printResult r) = ({ err := r.output ++ "\n" }, .ok ())
  broken : r.failed = false →
    t.write (printResult r) = match t.put .broken (navigationText n) with
      | .error f => ({ out := outputText r }, .error f)
      | .ok text => ({ out := outputText r ++ text }, .ok ())
  intact : r.failed = false → t.Fits (navigationText n) →
    t.write (printResult r) = ({ out := intact r n }, .ok ())
  wide : terminalWidth < t.columns (navigationText n) →
    (t.write (printResult r)).1.out ≠ Program.intact r n
  alone : ∀ least (round : Round), round.result = r →
    (runLine t least round.session round.line).written.out = (t.write (printResult r)).1.out
  console : ∀ least (round : Round), round.result = r → r.clear = false →
    (round.written t least).out = (t.write (printResult r)).1.out
  acts : ∀ round : Round, round.session.HasBuiltins → round.result = r →
    r.failed = false ∧ r.clear = false

/-- **Where a result leads is printed intact if it fits on the terminal, and not if it is too
    wide**, whatever the text before it is, for every plain target. -/
theorem intent_printed (hd : t.Documented) (hn : r.navigation = some n)
    (hp : t.Plain (targetText n)) : IntentPrinted t r n where
  failed := write_printResult_of_failed hd
  broken := write_of_navigation hd hn
  intact := write_of_fits hd hn hp
  wide := write_of_wide hd hn hp
  alone least _ h := h ▸ out_runLine t least _
  console least _ h hc := h ▸ out_written_of_not_clear (h ▸ hc) t least
  acts _ hb h := h ▸ acts_of_navigation hb (h ▸ hn)

/-- A url of so many letters. -/
def lettersUrl (length : Nat) : Navigation :=
  .external (String.ofList (List.replicate length 'a'))

theorem plain_lettersUrl (length : Nat) : Terminal.folding.Plain (targetText (lettersUrl length))
    where
  still c hc := by
    unfold lettersUrl targetText at hc
    rw [String.toList_ofList] at hc
    rw [List.eq_of_mem_replicate hc]
    decide
  unpictured _ h := nomatch h

/-- With seventy-seven letters the url fills the terminal. -/
theorem intent_printed_full :
    IntentPrinted .folding { output := "Opening: /base/resume", navigation := some (lettersUrl 77) }
        (lettersUrl 77) ∧
      (Terminal.folding.write (printResult
          { output := "Opening: /base/resume", navigation := some (lettersUrl 77) })).1.out =
        intact { output := "Opening: /base/resume" } (lettersUrl 77) := by
  have hp : IntentPrinted .folding
      { output := "Opening: /base/resume", navigation := some (lettersUrl 77) } (lettersUrl 77) :=
    intent_printed documented_folding rfl (plain_lettersUrl 77)
  have hfits : Terminal.folding.Fits (navigationText (lettersUrl 77)) :=
    ⟨by decide +kernel, by decide +kernel⟩
  refine ⟨hp, ?_⟩
  rw [hp.intact rfl hfits]
  rfl

/-- With one letter more it is not printed as it is. -/
theorem long_intent_broken : ¬ ∀ (t : Terminal) (r : Result) (n : Navigation), t.Documented →
    r.navigation = some n → t.Plain (targetText n) → r.failed = false →
      (t.write (printResult r)).1.out = intact r n := by
  intro h
  have hplain := plain_lettersUrl 78
  refine write_of_wide documented_folding rfl hplain (by decide +kernel)
    (h .folding { navigation := some (lettersUrl 78) } _ documented_folding rfl hplain rfl)

end Portfolio.Program
