/-
  File:      Portfolio/Proofs/Command/Stripping.lean
  Subject:   The quotes that an argument loses, and those that it keeps.

  * `count_unquote`: a token loses one quote at each end that has one, and no other.
  * `Separate`: a token without quotes, or one text between two quotes. These are the tokens
    that become arguments without quotes (`notMem_unquote_iff`), since the quotes of a token
    are paired.
  * `args_stripped`: so a line has arguments without quotes exactly if all its tokens after
    the first are of this kind. `quote_reaches_args`: not all lines are.
-/
import Portfolio.Proofs.Command.Quoting

namespace Portfolio.Command

/-! ## 1. Counting quotes -/

/-- One for a text that starts with a quote. -/
def quoteAtStart (s : List Char) : Nat :=
  if s.head? = some '"' then 1 else 0

/-- The ends of a token at which a quote stands. -/
def quotedEnds (t : String) : Nat :=
  quoteAtStart t.toList + quoteAtStart t.toList.reverse

theorem quoteAtStart_eq_one_iff {s : List Char} : quoteAtStart s = 1 ↔ s.head? = some '"' := by
  simp [quoteAtStart]

theorem quoteAtStart_le_one (s : List Char) : quoteAtStart s ≤ 1 := by
  unfold quoteAtStart
  split <;> omega

theorem count_dropQuote (s : List Char) :
    (dropQuote s).count '"' + quoteAtStart s = s.count '"' := by
  cases s with
  | nil => rfl
  | cons c rest =>
    by_cases hc : c = '"'
    · simp [dropQuote, quoteAtStart, hc]
    · simp [dropQuote, quoteAtStart, hc]

/-- A quote that is lost at the start does not stand at the end, unless it is all there is. -/
theorem quoteAtStart_reverse_dropQuote {s : List Char} (h : s ≠ ['"']) :
    quoteAtStart (dropQuote s).reverse = quoteAtStart s.reverse := by
  cases s with
  | nil => rfl
  | cons c rest =>
    by_cases hc : c = '"'
    · have hrest : rest.reverse ≠ [] := by
        intro e
        exact h (by rw [hc, List.reverse_eq_nil_iff.mp e])
      rw [dropQuote, if_pos hc, List.reverse_cons]
      unfold quoteAtStart
      rw [List.head?_append_of_ne_nil _ hrest]
    · simp [dropQuote, hc]

/-- **A token loses one quote at each end that has one**, and no other. -/
theorem count_unquote {t : String} (h : t.toList ≠ ['"']) :
    (unquote t).toList.count '"' + quotedEnds t = t.toList.count '"' := by
  have hstart := count_dropQuote t.toList
  have hend := count_dropQuote (dropQuote t.toList).reverse
  rw [quoteAtStart_reverse_dropQuote h, List.count_reverse] at hend
  unfold unquote quotedEnds
  rw [String.toList_ofList, List.count_reverse]
  omega

/-! ## 2. Tokens that stand on their own -/

/-- The token has no quote, or it is one text between two quotes. -/
def Separate (t : String) : Prop :=
  '"' ∉ t.toList ∨ ∃ text, '"' ∉ text.toList ∧ t = quotedText text

/-- Without their quotes they are what they say. -/
theorem notMem_unquote {t : String} (h : Separate t) : '"' ∉ (unquote t).toList := by
  rcases h with h | ⟨text, htext, rfl⟩
  · rwa [unquote_of_notMem h]
  · rwa [unquote_quotedText]

/-- With a quote at either end and no other one, a token is a text between two quotes. -/
theorem exists_quotedText {t : String} (hends : quotedEnds t = 2)
    (hcount : t.toList.count '"' = 2) : ∃ text, '"' ∉ text.toList ∧ t = quotedText text := by
  have hfirst := quoteAtStart_le_one t.toList
  have hlast := quoteAtStart_le_one t.toList.reverse
  unfold quotedEnds at hends
  have hstart : t.toList.head? = some '"' := quoteAtStart_eq_one_iff.mp (by omega)
  have hend : t.toList.reverse.head? = some '"' := quoteAtStart_eq_one_iff.mp (by omega)
  obtain ⟨rest, hrest⟩ := List.head?_eq_some_iff.mp hstart
  have hne : rest ≠ [] := by
    intro e
    simp [hrest, e] at hcount
  rw [List.head?_reverse, hrest, List.getLast?_cons_of_ne_nil hne] at hend
  obtain ⟨inside, hinside⟩ := List.getLast?_eq_some_iff.mp hend
  refine ⟨String.ofList inside, ?_, ?_⟩
  · rw [String.toList_ofList, ← List.count_eq_zero]
    simp [hrest, hinside] at hcount
    omega
  · rw [← String.toList_inj, toList_quotedText, String.toList_ofList, hrest, hinside]

/-- **Exactly the tokens that stand on their own become arguments without quotes.** -/
theorem notMem_unquote_iff {t : String} (h : IsToken t) :
    '"' ∉ (unquote t).toList ↔ Separate t := by
  refine ⟨fun hnone => ?_, notMem_unquote⟩
  have heven := h.whole.even_count
  have hodd : t.toList ≠ ['"'] := by
    intro e
    rw [e] at heven
    exact absurd heven (by decide)
  have hcount := count_unquote hodd
  rw [List.count_eq_zero.mpr hnone, Nat.zero_add] at hcount
  have hle : quotedEnds t ≤ 2 :=
    Nat.add_le_add (quoteAtStart_le_one t.toList) (quoteAtStart_le_one t.toList.reverse)
  obtain ⟨n, hn⟩ := heven
  by_cases hzero : t.toList.count '"' = 0
  · exact Or.inl (List.count_eq_zero.mp hzero)
  · exact Or.inr (exists_quotedText (by omega) (by omega))

/-! ## 3. The arguments of a line -/

/-- What becomes of the quotes of a line. An argument is a token after the first one, and it
    has all quotes of the token but one at each end. So there is no quote in the arguments
    exactly if each of these tokens stands on its own. -/
structure Stripped (line : String) : Prop where
  args_eq : (parse line).args = (tokens line).tail.map unquote
  count : ∀ t ∈ tokens line,
    (unquote t).toList.count '"' + quotedEnds t = t.toList.count '"'
  notMem_iff : (∀ arg ∈ (parse line).args, '"' ∉ arg.toList) ↔
    ∀ t ∈ (tokens line).tail, Separate t

/-- **Quotes are taken off the arguments of a line at their ends**, and a quote within an
    argument stays. -/
theorem args_stripped (line : String) : Stripped line where
  args_eq := parse_args line
  count t ht := by
    refine count_unquote fun e => ?_
    have heven := (isToken_of_mem_tokens ht).whole.even_count
    rw [e] at heven
    exact absurd heven (by decide)
  notMem_iff := by
    rw [parse_args]
    simp only [List.forall_mem_map]
    exact forall₂_congr fun t ht =>
      notMem_unquote_iff (isToken_of_mem_tokens (List.mem_of_mem_tail ht))

/-- A pair in the middle of a word reaches the arguments. -/
theorem quote_reaches_args : ¬ ∀ line, ∀ arg ∈ (parse line).args, '"' ∉ arg.toList := by
  intro h
  have hargs : (parse "cat a\"b c\"d").args = ["a\"b c\"d"] := by decide
  have harg := h "cat a\"b c\"d" "a\"b c\"d" (by rw [hargs]; exact List.mem_singleton_self _)
  exact absurd harg (by decide)

end Portfolio.Command
