/-
  File:      Portfolio/Proofs/Command/Splitting.lean
  Subject:   The tokens of a line, by the places of its quotes.

  * `quotePlaces`, `pairs`, `unpaired?`: the quotes of a line are paired from left to
    right, the first with the second; if their number is odd, the last one stays alone.
  * `separates`: a character at which the line is cut. It is a blank outside of all pairs,
    or the quote that is alone.
  * `runs`: what is left between the cuts, save what is empty.
    `tokensFrom_eq_runs`: reading a text in one pass, with a quote open or not, gives
    exactly these runs.
  * `tokens_split`: so does reading a line. The tokens hold all characters at which it is
    not cut, their quotes are paired, and with a space between them they are read again.
-/
import Portfolio.Proofs.Command.Quoting

namespace Portfolio.Command

open Portfolio.Text

variable {quotes : List Nat} {c : Char} {i k opening closing : Nat}

/-! ## 1. Pairs of quotes -/

/-- The places of the quotes in a text. -/
def quotePlaces (text : List Char) : List Nat :=
  text.idxsOf '"'

/-- The places, two by two from left to right. -/
def pairs : List Nat → List (Nat × Nat)
  | opening :: closing :: rest => (opening, closing) :: pairs rest
  | _ => []

/-- The place that is left over if their number is odd. -/
def unpaired? : List Nat → Option Nat
  | [] => none
  | [last] => some last
  | _ :: _ :: rest => unpaired? rest

/-- The place lies between the two of a pair. -/
def withinPair (quotes : List Nat) (i : Nat) : Bool :=
  (pairs quotes).any fun pair => pair.1 < i && i < pair.2

/-- The line is cut at the character: at a blank outside of all pairs, and at the quote
    that is alone. -/
def separates (quotes : List Nat) (c : Char × Nat) : Bool :=
  (isBlank c.1 && !withinPair quotes c.2) || unpaired? quotes == some c.2

theorem mem_of_mem_pairs {pair : Nat × Nat} (h : pair ∈ pairs quotes) : pair.1 ∈ quotes := by
  induction quotes using pairs.induct with
  | case1 opening closing rest ih =>
    rcases List.mem_cons.mp h with rfl | h
    · exact List.mem_cons_self
    · exact List.mem_cons_of_mem _ (List.mem_cons_of_mem _ (ih h))
  | case2 quotes hn =>
    rw [pairs.eq_2 quotes hn] at h
    cases h

theorem mem_of_unpaired? (h : unpaired? quotes = some i) : i ∈ quotes := by
  induction quotes using unpaired?.induct with
  | case1 => cases h
  | case2 last =>
    cases h
    exact List.mem_singleton_self i
  | case3 opening closing rest ih =>
    exact List.mem_cons_of_mem _ (List.mem_cons_of_mem _ (ih h))

theorem unpaired?_ne (h : ∀ q ∈ quotes, i < q) : (unpaired? quotes == some i) = false :=
  beq_eq_false_iff_ne.mpr fun e => Nat.lt_irrefl i (h i (mem_of_unpaired? e))

/-- Before all quotes the line is cut at every blank, and nowhere else. -/
theorem separates_before (h : ∀ q ∈ quotes, i < q) : separates quotes (c, i) = isBlank c := by
  have hw : withinPair quotes i = false := by
    unfold withinPair
    rw [List.any_eq_false]
    intro pair hp
    have hlt := h _ (mem_of_mem_pairs hp)
    simp [Nat.not_lt.mpr hlt.le]
  unfold separates
  rw [unpaired?_ne h, hw]
  simp

/-- After a pair it does not matter. -/
theorem separates_after_pair (h : closing ≤ i) :
    separates (opening :: closing :: quotes) (c, i) = separates quotes (c, i) := by
  have hw : withinPair (opening :: closing :: quotes) i = withinPair quotes i := by
    unfold withinPair
    rw [pairs, List.any_cons, decide_eq_false (Nat.not_lt.mpr h), Bool.and_false, Bool.false_or]
  unfold separates
  rw [hw]
  rfl

/-- Within a pair the line is not cut. -/
theorem separates_within (ho : opening < i) (hc : i < closing) (h : ∀ q ∈ quotes, i < q) :
    separates (opening :: closing :: quotes) (c, i) = false := by
  have hw : withinPair (opening :: closing :: quotes) i = true := by
    unfold withinPair
    rw [pairs, List.any_cons, decide_eq_true ho, decide_eq_true hc]
    rfl
  unfold separates
  rw [hw, unpaired?, unpaired?_ne h]
  simp

/-- At the quotes of a pair it is not cut either. -/
theorem separates_quote (h : ∀ q ∈ quotes, i < q) :
    separates (opening :: closing :: quotes) ('"', i) = false := by
  have hb : isBlank '"' = false := by decide
  unfold separates
  rw [hb, unpaired?, unpaired?_ne h]
  rfl

/-- At a quote that is alone it is cut. -/
theorem separates_alone : separates [i] (c, i) = true := by
  unfold separates
  rw [unpaired?, beq_self_eq_true, Bool.or_true]

theorem separates_after_alone (h : opening < i) : separates [opening] (c, i) = isBlank c := by
  have hne : (some opening == some i) = false :=
    beq_eq_false_iff_ne.mpr fun e => h.ne (Option.some.inj e)
  unfold separates withinPair
  rw [unpaired?, hne]
  simp [pairs]

/-! ## 2. Runs between the cuts -/

/-- The parts of a text between the places at which it is cut, save the empty ones. -/
def runs {α : Type} (cut : α → Bool) (text : List α) : List (List α) :=
  (text.splitOnP cut).filter (!·.isEmpty)

/-- The runs of a text that goes on with a part in reverse. -/
def runsAfter {α : Type} (cut : α → Bool) (part text : List α) : List (List α) :=
  ((text.splitOnP cut).modifyHead (part.reverse ++ ·)).filter (!·.isEmpty)

section Runs

variable {α : Type} {cut : α → Bool} {part rest text : List α} {a : α}

theorem runsAfter_eq_prepend :
    runsAfter cut part text = (text.splitOnPPrepend cut part).filter (!·.isEmpty) := by
  unfold runsAfter
  rw [List.splitOnPPrepend_eq_modifyHead]

theorem runs_eq_runsAfter : runs cut text = runsAfter cut [] text := by
  rw [runsAfter_eq_prepend, List.splitOnPPrepend_nil_right]
  rfl

theorem runsAfter_nil : runsAfter cut part [] = if part.isEmpty then [] else [part.reverse] := by
  rw [runsAfter_eq_prepend, List.splitOnPPrepend_nil, List.filter_singleton, List.isEmpty_reverse]
  cases part.isEmpty <;> rfl

theorem runsAfter_cut (h : cut a = true) :
    runsAfter cut part (a :: rest) = runsAfter cut part [] ++ runsAfter cut [] rest := by
  simp only [runsAfter_eq_prepend]
  rw [List.splitOnPPrepend_cons_pos h, List.splitOnPPrepend_nil, List.splitOnPPrepend_nil_right,
    ← List.filter_append, List.singleton_append]

theorem runsAfter_uncut (h : cut a = false) :
    runsAfter cut part (a :: rest) = runsAfter cut (a :: part) rest := by
  simp only [runsAfter_eq_prepend]
  rw [List.splitOnPPrepend_cons_eq_if, h, if_neg Bool.false_ne_true]

/-- **The runs hold all that is not cut**, in order. -/
theorem flatten_runsAfter :
    (runsAfter cut part text).flatten = part.reverse ++ text.filter fun a => !cut a := by
  induction text generalizing part with
  | nil =>
    rw [runsAfter_nil, List.filter_nil, List.append_nil]
    cases part with
    | nil => rfl
    | cons a part => exact List.append_nil _
  | cons a rest ih =>
    cases h : cut a with
    | true =>
      have hp : (runsAfter cut part []).flatten = part.reverse := by
        rw [runsAfter_nil]
        cases part with
        | nil => rfl
        | cons a part => exact List.append_nil _
      rw [runsAfter_cut h, List.flatten_append, ih, hp, List.filter_cons_of_neg (by simp [h])]
      rfl
    | false =>
      rw [runsAfter_uncut h, ih, List.filter_cons_of_pos (by simp [h]), List.reverse_cons,
        List.append_assoc]
      rfl

end Runs

/-! ## 3. Reading in one pass -/

/-- The text of a run of characters with their places. -/
def charsOf (run : List (Char × Nat)) : List Char :=
  run.map Prod.fst

theorem map_charsOf_runsAfter_nil (cut : Char × Nat → Bool) (part : List (Char × Nat)) :
    (runsAfter cut part []).map charsOf = emit (charsOf part) := by
  rw [runsAfter_nil]
  unfold emit charsOf
  rw [List.isEmpty_map]
  split
  · rfl
  · rw [List.map_singleton, List.map_reverse]

/-- The quotes that are known but not paired yet when a text is read from the place `k`
    on: none, or one that has its partner in the text. -/
def Pending (quoted : Bool) (k : Nat) (text : List Char) (pending : List Nat) : Prop :=
  match quoted with
  | false => pending = []
  | true => '"' ∈ text ∧ ∃ opening < k, pending = [opening]

/-- After the place `k` the same characters are cuts, by these quotes and by those. -/
def CutAlike (k : Nat) (quotes quotes' : List Nat) : Prop :=
  ∀ c i, k < i → separates quotes (c, i) = separates quotes' (c, i)

/-- Reading a character goes on with the token under way where the line is not cut, and
    ends it where it is. -/
inductive Step (quoted : Bool) (c : Char) (rest : List Char) : Bool → Bool → Prop where
  | goesOn {quoted' : Bool} (h : ∀ token,
      tokensFrom quoted token (c :: rest) = tokensFrom quoted' (c :: token) rest) :
      Step quoted c rest false quoted'
  | ends (h : ∀ token,
      tokensFrom quoted token (c :: rest) = emit token ++ tokensFrom false [] rest) :
      Step quoted c rest true false

section Reading

variable {quoted : Bool} {rest text : List Char} {pending : List Nat}

theorem lt_of_mem_idxsOf : ∀ q ∈ rest.idxsOf '"' (k + 1), k < q :=
  fun q hq => List.ge_of_mem_idxsOf q hq

theorem idxsOf_of_mem (h : '"' ∈ rest) :
    ∃ closing more, rest.idxsOf '"' (k + 1) = closing :: more ∧ k < closing ∧
      ∀ q ∈ more, k < q := by
  cases hq : rest.idxsOf '"' (k + 1) with
  | nil => exact absurd (List.idxsOf_eq_nil_iff.mp hq _ h) (by simp)
  | cons closing more =>
    have hlater : ∀ q ∈ rest.idxsOf '"' (k + 1), k < q := lt_of_mem_idxsOf
    rw [hq] at hlater
    exact ⟨closing, more, rfl, List.forall_mem_cons.mp hlater⟩

/-- One character while a quote is open: the partner closes it, all else stays inside. -/
theorem exists_step_open (ho : opening < k) (hm : '"' ∈ c :: rest) :
    ∃ quoted' pending', Pending quoted' (k + 1) rest pending' ∧
      CutAlike k (opening :: (c :: rest).idxsOf '"' k) (pending' ++ rest.idxsOf '"' (k + 1)) ∧
      Step true c rest (separates (opening :: (c :: rest).idxsOf '"' k) (c, k)) quoted' := by
  rw [List.idxsOf_cons]
  by_cases hq : c = '"'
  · subst hq
    rw [if_pos (beq_self_eq_true _), separates_quote lt_of_mem_idxsOf]
    refine ⟨false, [], rfl, fun d i hi => separates_after_pair hi.le, .goesOn fun token => ?_⟩
    rw [tokensFrom, bne_self_eq_false]
  · have hrest : '"' ∈ rest := (List.mem_cons.mp hm).resolve_left fun e => hq e.symm
    obtain ⟨closing, more, he, hlt, hmore⟩ := idxsOf_of_mem (k := k) hrest
    rw [if_neg (by simpa using hq)]
    refine ⟨true, [opening], ⟨hrest, opening, ho.trans k.lt_succ_self, rfl⟩, fun _ _ _ => rfl, ?_⟩
    rw [he, separates_within ho hlt hmore]
    refine .goesOn fun token => ?_
    rw [tokensFrom, bne_iff_ne.mpr hq]

/-- One character while no quote is open. -/
theorem exists_step_closed (k : Nat) (c : Char) (rest : List Char) :
    ∃ quoted' pending', Pending quoted' (k + 1) rest pending' ∧
      CutAlike k ((c :: rest).idxsOf '"' k) (pending' ++ rest.idxsOf '"' (k + 1)) ∧
      Step false c rest (separates ((c :: rest).idxsOf '"' k) (c, k)) quoted' := by
  rw [List.idxsOf_cons]
  by_cases hq : c = '"'
  · subst hq
    rw [if_pos (beq_self_eq_true _)]
    by_cases hm : '"' ∈ rest
    · -- the quote opens a pair
      obtain ⟨closing, more, he, _, hmore⟩ := idxsOf_of_mem (k := k) hm
      refine ⟨true, [k], ⟨hm, k, k.lt_succ_self, rfl⟩, fun _ _ _ => rfl, ?_⟩
      rw [he, separates_quote hmore]
      refine .goesOn fun token => ?_
      rw [tokensFrom, if_pos rfl, if_pos (List.contains_iff_mem.mpr hm)]
    · -- the quote is alone
      have hnone : rest.idxsOf '"' (k + 1) = [] :=
        List.idxsOf_eq_nil_iff.mpr fun d hd => beq_eq_false_iff_ne.mpr fun e => hm (e ▸ hd)
      rw [hnone, separates_alone]
      refine ⟨false, [], rfl, fun d i hi => ?_, .ends fun token => ?_⟩
      · rw [separates_after_alone hi]
        exact (separates_before fun _ h => absurd h List.not_mem_nil).symm
      · rw [tokensFrom, if_pos rfl, if_neg fun h => hm (List.contains_iff_mem.mp h)]
  · rw [if_neg (by simpa using hq), separates_before lt_of_mem_idxsOf]
    refine ⟨false, [], rfl, fun _ _ _ => rfl, ?_⟩
    cases hb : isBlank c with
    | true => exact .ends fun token => tokensFrom_blank hb token rest
    | false =>
      refine .goesOn fun token => ?_
      rw [tokensFrom, if_neg hq, hb, if_neg Bool.false_ne_true]

theorem exists_step (hp : Pending quoted k (c :: rest) pending) :
    ∃ quoted' pending', Pending quoted' (k + 1) rest pending' ∧
      CutAlike k (pending ++ (c :: rest).idxsOf '"' k) (pending' ++ rest.idxsOf '"' (k + 1)) ∧
      Step quoted c rest (separates (pending ++ (c :: rest).idxsOf '"' k) (c, k)) quoted' := by
  cases quoted with
  | true =>
    obtain ⟨hm, opening, ho, rfl⟩ := hp
    exact exists_step_open ho hm
  | false =>
    obtain rfl : pending = [] := hp
    exact exists_step_closed k c rest

/-- **Reading gives the runs.** The cuts need to be those of the whole line only for what
    is still to be read. -/
theorem tokensFrom_eq_runs (hp : Pending quoted k text pending) {cut : Char × Nat → Bool}
    (hcut : ∀ a ∈ text.zipIdx k, cut a = separates (pending ++ text.idxsOf '"' k) a)
    (part : List (Char × Nat)) :
    tokensFrom quoted (charsOf part) text = (runsAfter cut part (text.zipIdx k)).map charsOf := by
  induction text generalizing k quoted pending part with
  | nil =>
    cases quoted with
    | true => exact absurd hp.1 List.not_mem_nil
    | false => exact (map_charsOf_runsAfter_nil cut part).symm
  | cons c rest ih =>
    obtain ⟨quoted', pending', hp', halike, hstep⟩ := exists_step hp
    rw [List.zipIdx_cons, List.forall_mem_cons] at hcut
    obtain ⟨hc, hrest⟩ := hcut
    have hcut' : ∀ a ∈ rest.zipIdx (k + 1),
        cut a = separates (pending' ++ rest.idxsOf '"' (k + 1)) a := fun a ha =>
      (hrest a ha).trans (halike a.1 a.2 (List.le_snd_of_mem_zipIdx ha))
    rw [List.zipIdx_cons]
    rw [← hc] at hstep
    cases hk : cut (c, k) with
    | true =>
      rw [hk] at hstep
      cases hstep with
      | ends h =>
        rw [runsAfter_cut hk, List.map_append, map_charsOf_runsAfter_nil, h, ← ih hp' hcut' []]
        rfl
    | false =>
      rw [hk] at hstep
      cases hstep with
      | goesOn h =>
        rw [runsAfter_uncut hk, h]
        exact ih hp' hcut' ((c, k) :: part)

end Reading

/-! ## 4. The tokens of a line -/

/-- The line is cut at the character at its place. -/
def cutIn (line : String) : Char × Nat → Bool :=
  separates (quotePlaces line.toList)

/-- The tokens of a line are the runs between its cuts. So they hold all characters at
    which it is not cut, none is empty, the quotes in each are paired, and with a space
    between them they are read again. -/
structure SplitAtCuts (line : String) : Prop where
  runs_eq : (tokens line).map String.toList = (runs (cutIn line) line.toList.zipIdx).map charsOf
  join_eq : (tokens line).flatMap String.toList =
    charsOf (line.toList.zipIdx.filter fun c => !cutIn line c)
  paired : ∀ t ∈ tokens line, t ≠ "" ∧ Even (t.toList.count '"')
  again : tokens (" ".intercalate (tokens line)) = tokens line

/-- **Every line is split at its cuts**, wherever its quotes stand. -/
theorem tokens_split (line : String) : SplitAtCuts line := by
  have hread : (tokens line).map String.toList = tokensFrom false [] line.toList := by
    unfold tokens
    rw [List.map_map]
    exact List.map_id'' (fun w => String.toList_ofList) _
  have hruns : tokensFrom false [] line.toList =
      (runs (cutIn line) line.toList.zipIdx).map charsOf := by
    have hnone : Pending false 0 line.toList [] := rfl
    rw [runs_eq_runsAfter]
    exact tokensFrom_eq_runs hnone (fun _ _ => rfl) []
  refine ⟨hread.trans hruns, ?_, fun t ht => ?_, tokens_intercalate fun t => isToken_of_mem_tokens⟩
  · unfold charsOf at hruns ⊢
    rw [List.flatMap_def, hread, hruns, ← List.map_flatten, runs_eq_runsAfter, flatten_runsAfter]
    rfl
  · have h := isToken_of_mem_tokens ht
    exact ⟨h.ne_empty, h.whole.even_count⟩

/-- A pair in the middle of a word, and a quote that is alone in the middle of another. -/
example : tokens "a\"b c\"d  e\"f" = ["a\"b c\"d", "e", "f"] := by decide

end Portfolio.Command
