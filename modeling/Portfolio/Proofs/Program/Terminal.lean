/-
  File:      Portfolio/Proofs/Program/Terminal.lean
  Subject:   What is known of terminals.

  * `Plain`: a text in which nothing moves on the terminal and nothing is a picture.
  * `Documented`: what the program relies on. A text that may not be broken is written as it
    is; a plain text that may is if it fits, and is not if it is too wide.
  * `write_append`: pieces are written one after the other, up to the first that cannot be
    printed.
  * `write_printResult`: what is written of a result, on a terminal that does what the program
    relies on.
  * `documented_folding`: the terminal that folds does what the program relies on, since
    `breakText` leaves exactly what fits as it is (`breakText_eq_self_iff`).
-/
import Portfolio.Program.Run
import Portfolio.Proofs.Text.Columns

namespace Portfolio.Program

open Text (fold?)

variable {t : Terminal} {text : String}

/-! ## 1. What the program relies on -/

/-- A character that moves on the terminal and shows nothing. -/
def isControl (c : Char) : Bool :=
  c.toNat < 0x20 || (0x7f ≤ c.toNat && c.toNat < 0xa0)

/-- Nothing in the text moves on the terminal, and no name that it knows stands between
    colons there. -/
structure Terminal.Plain (t : Terminal) (text : String) : Prop where
  still : ∀ c ∈ text.toList, isControl c = false
  unpictured : ∀ name, t.knows name = true → ¬ ':' :: (name.toList ++ [':']) <:+: text.toList

/-- The text takes no more columns than there are, nor more characters if it ends in a
    blank. -/
structure Terminal.Fits (t : Terminal) (text : String) : Prop where
  columns_le : t.columns text ≤ terminalWidth
  length_le : text.toList.getLast?.any Text.isBlank = true → text.toList.length ≤ terminalWidth

/-- The text begins with a character that is shown, and stands in every alphabet. -/
def Shows (text : String) : Prop :=
  ∃ c rest, text.toList = c :: rest ∧ 0x20 < c.toNat ∧ c.toNat < 0x7f

/-- What the program relies on of its terminal: a text that is not to be broken is written
    as it is, with a line end. So is a plain text that may be broken and fits; but not one
    that is wider than the terminal. Neither is promised to be written at all. -/
structure Terminal.Documented (t : Terminal) : Prop where
  verbatim : ∀ text, t.put .verbatim text = .ok (text ++ "\n")
  fitting : ∀ text, t.Plain text → t.Fits text → t.put .broken text = .ok (text ++ "\n")
  wide : ∀ text, t.Plain text → Shows text → terminalWidth < t.columns text →
    t.put .broken text ≠ .ok (text ++ "\n")

/-! ## 2. Pieces -/

section Written

variable (first second third : Written)

theorem written_append_assoc : first ++ second ++ third = first ++ (second ++ third) :=
  congrArg₂ Written.mk String.append_assoc String.append_assoc

@[simp] theorem written_empty_append : {} ++ first = first :=
  congrArg₂ Written.mk String.empty_append String.empty_append

@[simp] theorem written_append_empty : first ++ {} = first :=
  congrArg₂ Written.mk String.append_empty String.append_empty

end Written

theorem write_singleton (t : Terminal) (p : Printed) :
    t.write [p] = match t.piece p with
      | .error f => ({}, .error f)
      | .ok written => (written, .ok ()) := by
  rw [Terminal.write]
  cases t.piece p with
  | error f => rfl
  | ok written => exact congrArg (Prod.mk · _) (written_append_empty written)

/-- **Pieces are written one after the other**, unless the first ones stop at one that cannot
    be printed. -/
theorem write_append (t : Terminal) (first second : List Printed) :
    t.write (first ++ second) = match t.write first with
      | (written, .error f) => (written, .error f)
      | (written, .ok ()) => (written ++ (t.write second).1, (t.write second).2) := by
  induction first with
  | nil => exact congrArg (Prod.mk · _) (written_empty_append _).symm
  | cons p rest ih =>
    rw [List.cons_append, Terminal.write, Terminal.write]
    cases t.piece p with
    | error f => rfl
    | ok w =>
      dsimp only
      rw [ih]
      obtain ⟨more, ended⟩ := t.write rest
      cases ended with
      | error f => rfl
      | ok _ => exact congrArg (Prod.mk · _) (written_append_assoc w more _).symm

/-- The log can always be written, and goes to the stream for errors. -/
theorem write_printLog (t : Terminal) (least : Nat) (entries : List Log.Entry) :
    ∃ err, t.write (printLog least entries) = ({ err }, .ok ()) := by
  unfold printLog
  induction Log.shown least entries with
  | nil => exact ⟨"", rfl⟩
  | cons e rest ih =>
    obtain ⟨err, h⟩ := ih
    refine ⟨e.line ++ "\n" ++ err, ?_⟩
    rw [List.map_cons, Terminal.write, h]
    exact congrArg (Prod.mk · _) (congrArg (Written.mk · _) String.empty_append)

/-! ## 3. Results -/

section Results

variable {r : Result}

/-- The text of a result, with its line end. -/
def outputText (r : Result) : String :=
  if r.output = "" then "" else r.output ++ "\n"

/-- A text that may not be broken can always be written, as it is. -/
theorem write_verbatim (hd : t.Documented) (stream : Stream) (text : String) :
    t.write [.text stream .verbatim text] = (.on (text ++ "\n") stream, .ok ()) := by
  rw [write_singleton, Terminal.piece, hd.verbatim]
  rfl

/-- Of a failure the text is written, to the stream for errors. -/
theorem write_printResult_of_failed (hd : t.Documented) (h : r.failed = true) :
    t.write (printResult r) = ({ err := r.output ++ "\n" }, .ok ()) := by
  unfold printResult
  rw [if_pos h]
  exact write_verbatim hd .err r.output

/-- **Of any other result the text is written first, as it is, and then where it leads**,
    if that can be printed. -/
theorem write_printResult (hd : t.Documented) (h : r.failed = false) :
    t.write (printResult r) = match r.navigation with
      | none => ({ out := outputText r }, .ok ())
      | some n => match t.put .broken (navigationText n) with
        | .error f => ({ out := outputText r }, .error f)
        | .ok text => ({ out := outputText r ++ text }, .ok ()) := by
  have hout : t.write (if r.output = "" then [] else [.text .out .verbatim r.output]) =
      ({ out := outputText r }, .ok ()) := by
    unfold outputText
    split
    · rfl
    · exact write_verbatim hd .out r.output
  unfold printResult
  rw [h, if_neg Bool.false_ne_true, write_append, hout]
  cases r.navigation with
  | none => exact congrArg (Prod.mk · _) (written_append_empty _)
  | some n =>
    dsimp only
    rw [Option.toList_some, List.map_singleton, write_singleton, Terminal.piece]
    cases t.put .broken (navigationText n) with
    | error f => exact congrArg (Prod.mk · _) (written_append_empty _)
    | ok text => exact congrArg (Prod.mk · _) (congrArg (Written.mk _) String.append_empty)

end Results

/-! ## 4. The terminal that folds -/

/-- Lines with a line end between them are one line if there is no line end in them. -/
theorem intercalate_eq_iff {lines : List (List Char)} {s : List Char} (hne : s ≠ [])
    (hs : '\n' ∉ s) : ['\n'].intercalate lines = s ↔ lines = [s] := by
  constructor
  · intro h
    match lines with
    | [] => exact absurd h.symm hne
    | [line] => rw [← h, List.intercalate_singleton]
    | line :: next :: rest =>
      rw [List.intercalate_cons_cons] at h
      exact absurd (by simp [← h]) hs
  · rintro rfl
    exact List.intercalate_singleton

/-- A text without a line end is broken as one line. -/
theorem breakText_of_notMem (hline : '\n' ∉ text.toList) :
    breakText text = match fold? terminalWidth text.toList with
      | none => .error .uncuttable
      | some lines => .ok (String.ofList (['\n'].intercalate lines)) := by
  unfold breakText
  rw [List.splitOn_eq_singleton hline, List.mapM_cons, List.mapM_nil]
  cases fold? terminalWidth text.toList with
  | none => rfl
  | some lines => simp

theorem breakText_of_fits (hline : '\n' ∉ text.toList)
    (h : Text.Fits terminalWidth text.toList) : breakText text = .ok text := by
  rw [breakText_of_notMem hline, Text.fold?_of_fits h]
  dsimp only
  rw [List.intercalate_singleton, String.ofList_toList]

/-- **A text is left as it is exactly if it fits**, if it begins with a character that takes
    a column and has no line end. -/
theorem breakText_eq_self_iff {c : Char} {rest : List Char} (ht : text.toList = c :: rest)
    (hc : Text.columnsOf c ≠ 0) (hline : '\n' ∉ text.toList) :
    breakText text = .ok text ↔ Text.Fits terminalWidth text.toList := by
  refine ⟨fun h => ?_, breakText_of_fits hline⟩
  have hne : text.toList ≠ [] := by
    rw [ht]
    exact List.cons_ne_nil c rest
  rw [breakText_of_notMem hline] at h
  cases hf : fold? terminalWidth text.toList with
  | none =>
    rw [hf] at h
    cases h
  | some lines =>
    rw [hf] at h
    have hjoin : ['\n'].intercalate lines = text.toList := by
      rw [← Except.ok.inj h, String.toList_ofList]
    rw [(intercalate_eq_iff hne hline).mp hjoin, ht] at hf
    rw [ht]
    exact (Text.fold?_eq_singleton_iff hc rest).mp hf

theorem Terminal.Plain.notMem_newline (h : t.Plain text) : '\n' ∉ text.toList :=
  fun hmem => nomatch h.still _ hmem

theorem put_broken_folding_iff :
    Terminal.folding.put .broken text = .ok (text ++ "\n") ↔ breakText text = .ok text := by
  change (breakText text).map (· ++ "\n") = _ ↔ _
  cases breakText text with
  | error f => simp [Except.map]
  | ok s => simp [Except.map]

/-- **The terminal that folds does what the program relies on.** -/
theorem documented_folding : Terminal.folding.Documented where
  verbatim _ := rfl
  fitting text hp hf :=
    put_broken_folding_iff.mpr (breakText_of_fits hp.notMem_newline ⟨hf.columns_le, hf.length_le⟩)
  wide text hp hs hw h := by
    obtain ⟨c, rest, ht, hlow, hhigh⟩ := hs
    have hc : Text.columnsOf c ≠ 0 := by
      unfold Text.columnsOf
      rw [if_pos (by simp; omega)]
      decide
    have hfits := (breakText_eq_self_iff ht hc hp.notMem_newline).mp (put_broken_folding_iff.mp h)
    exact absurd hfits.columns_le (Nat.not_le.mpr hw)

end Portfolio.Program
