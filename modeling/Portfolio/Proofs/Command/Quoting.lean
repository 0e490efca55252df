/-
  File:      Portfolio/Proofs/Command/Quoting.lean
  Subject:   Tokens with quotes in them, and lines that are made of tokens.

  * `Whole`: a text that is read without a break: characters that neither separate nor
    group, and texts between two quotes. Every token is whole (`isToken_of_mem_tokens`),
    and a whole text is read as one token or a part of one (`Whole.tokensFrom_append`).
  * `tokens_intercalate`: tokens with a space between them are read as these tokens.
  * `quotedText`: a text between quotes. `parse_quoted`: a name and quoted texts are read
    as the name and the texts, whatever blanks the texts hold.
-/
import Mathlib.Algebra.Group.Nat.Even
import Portfolio.Proofs.Command.Tokens

namespace Portfolio.Command

open Portfolio.Text

variable {quoted : Bool} {token text before inside word w : List Char} {c : Char}

/-! ## 1. Texts without a break -/

/-- Characters that neither separate nor group, and texts between two quotes. -/
inductive Whole : List Char → Prop where
  | nil : Whole []
  | plain {c : Char} {rest : List Char} (hb : isBlank c = false) (hq : c ≠ '"')
      (h : Whole rest) : Whole (c :: rest)
  | group {inside rest : List Char} (hq : '"' ∉ inside) (h : Whole rest) :
      Whole ('"' :: (inside ++ '"' :: rest))

theorem Whole.append (h : Whole word) (hw : Whole w) : Whole (word ++ w) := by
  induction h with
  | nil => exact hw
  | plain hb hq _ ih => exact .plain hb hq ih
  | @group inside rest hq _ ih =>
    have he : '"' :: (inside ++ '"' :: rest) ++ w = '"' :: (inside ++ '"' :: (rest ++ w)) := by
      simp
    rw [he]
    exact .group hq ih

theorem Unbroken.whole (h : Unbroken word) : Whole word := by
  induction word with
  | nil => exact .nil
  | cons c word ih =>
    obtain ⟨hb, hq⟩ := h c List.mem_cons_self
    exact .plain hb hq (ih fun d hd => h d (List.mem_cons_of_mem _ hd))

/-- What stands between two quotes is one group. -/
theorem whole_group (h : '"' ∉ inside) : Whole ('"' :: (inside ++ ['"'])) :=
  .group h .nil

/-- The quotes in it are paired. -/
theorem Whole.even_count (h : Whole word) : Even (word.count '"') := by
  induction h with
  | nil => exact Even.zero
  | plain _ hq _ ih =>
    rw [List.count_cons_of_ne hq]
    exact ih
  | group hq _ ih =>
    rw [List.count_cons_self, List.count_append, List.count_eq_zero_of_not_mem hq,
      List.count_cons_self, Nat.zero_add]
    exact ih.add ⟨1, rfl⟩

/-! ## 2. Reading them -/

/-- An open quote takes in all characters up to the next quote. -/
theorem tokensFrom_inside (h : '"' ∉ inside) (token rest : List Char) :
    tokensFrom true token (inside ++ '"' :: rest) =
      tokensFrom false ('"' :: (inside.reverse ++ token)) rest := by
  induction inside generalizing token with
  | nil => rfl
  | cons c inside ih =>
    have hc : (c != '"') = true := bne_iff_ne.mpr fun e => h (e ▸ List.mem_cons_self)
    rw [List.cons_append, tokensFrom, hc, ih fun hm => h (List.mem_cons_of_mem _ hm),
      List.reverse_cons, List.append_assoc]
    rfl

/-- **The characters of a whole text are added to the token under way.** -/
theorem Whole.tokensFrom_append (h : Whole word) (token rest : List Char) :
    tokensFrom false token (word ++ rest) = tokensFrom false (word.reverse ++ token) rest := by
  induction h generalizing token with
  | nil => rfl
  | plain hb hq _ ih =>
    rw [List.cons_append, tokensFrom, if_neg hq, hb, if_neg Bool.false_ne_true, ih]
    simp
  | @group inside more hq _ ih =>
    have he : '"' :: (inside ++ '"' :: more) ++ rest =
        '"' :: (inside ++ '"' :: (more ++ rest)) := by
      simp
    have hc : (inside ++ '"' :: (more ++ rest)).contains '"' = true := by simp
    rw [he, tokensFrom, if_pos rfl, if_pos hc, tokensFrom_inside hq, ih]
    simp

/-- What is known of the token under way: it is whole, or a quote with a partner is
    open at its end. -/
def UnderWay : Bool → List Char → List Char → Prop
  | false, token, _ => Whole token.reverse
  | true, token, text => '"' ∈ text ∧ ∃ before inside,
      token.reverse = before ++ '"' :: inside ∧ Whole before ∧ '"' ∉ inside

theorem ne_nil_of_mem_emit (h : w ∈ emit token) : w ≠ [] := by
  unfold emit at h
  split at h
  · cases h
  · rename_i hne
    rw [List.mem_singleton.mp h, ne_eq, List.reverse_eq_nil_iff]
    exact fun e => hne (List.isEmpty_iff.mpr e)

/-- What a token under way is followed by gives only tokens that are whole. -/
theorem whole_of_mem_tokensFrom (hu : UnderWay quoted token text)
    (h : w ∈ tokensFrom quoted token text) : Whole w ∧ w ≠ [] := by
  have hemit : ∀ {token : List Char}, Whole token.reverse → w ∈ emit token → Whole w ∧ w ≠ [] :=
    fun ht hw => ⟨mem_emit hw ▸ ht, ne_nil_of_mem_emit hw⟩
  induction text generalizing quoted token with
  | nil =>
    cases quoted with
    | true => exact absurd hu.1 List.not_mem_nil
    | false => exact hemit hu h
  | cons c rest ih =>
    cases quoted with
    | true =>
      obtain ⟨hc, before, inside, he, hb, hi⟩ := hu
      rw [tokensFrom] at h
      by_cases hq : c = '"'
      · -- the partner: what was open is a group now
        subst hq
        have hclosed : UnderWay false ('"' :: token) rest := by
          show Whole ('"' :: token).reverse
          rw [List.reverse_cons, he, List.append_assoc, List.cons_append]
          exact hb.append (whole_group hi)
        exact ih hclosed h
      · rw [bne_iff_ne.mpr hq] at h
        have hopen : UnderWay true (c :: token) rest := by
          refine ⟨?_, before, inside ++ [c], ?_, hb, ?_⟩
          · exact (List.mem_cons.mp hc).resolve_left fun e => hq e.symm
          · rw [List.reverse_cons, he, List.append_assoc, List.cons_append]
          · simpa [hi] using fun e => hq e.symm
        exact ih hopen h
    | false =>
      have ht : Whole token.reverse := hu
      have hnew : UnderWay false [] rest := Whole.nil
      rw [tokensFrom] at h
      split at h
      · rename_i hq
        subst hq
        split at h
        · rename_i hc
          have hopen : UnderWay true ('"' :: token) rest :=
            ⟨List.contains_iff_mem.mp hc, token.reverse, [], List.reverse_cons, ht,
              List.not_mem_nil⟩
          exact ih hopen h
        · rcases List.mem_append.mp h with h | h
          · exact hemit ht h
          · exact ih hnew h
      · rename_i hq
        split at h
        · rcases List.mem_append.mp h with h | h
          · exact hemit ht h
          · exact ih hnew h
        · rename_i hb
          have hplain : UnderWay false (c :: token) rest := by
            show Whole (c :: token).reverse
            rw [List.reverse_cons]
            exact ht.append (.plain (Bool.eq_false_iff.mpr hb) hq .nil)
          exact ih hplain h

/-- A whole text with at least one character. -/
structure IsToken (t : String) : Prop where
  whole : Whole t.toList
  ne_empty : t ≠ ""

/-- **Every token of a line is whole and has at least one character.** -/
theorem isToken_of_mem_tokens {line t : String} (h : t ∈ tokens line) : IsToken t := by
  obtain ⟨w, hw, rfl⟩ := List.mem_map.mp h
  have hnew : UnderWay false [] line.toList := Whole.nil
  obtain ⟨hwhole, hne⟩ := whole_of_mem_tokensFrom hnew hw
  refine ⟨by rwa [String.toList_ofList], fun e => hne ?_⟩
  rw [← String.toList_ofList (l := w), e]
  rfl

/-! ## 3. Lines that are made of tokens -/

/-- Whole texts with a space between them are read as these texts. -/
theorem tokensFrom_intercalate {words : List (List Char)}
    (h : ∀ word ∈ words, Whole word ∧ word ≠ []) :
    tokensFrom false [] ([' '].intercalate words) = words := by
  have hspace : isBlank ' ' = true := by decide
  induction words with
  | nil => rfl
  | cons word more ih =>
    obtain ⟨hw, hne⟩ := h word List.mem_cons_self
    have hmore := ih fun v hv => h v (List.mem_cons_of_mem _ hv)
    cases more with
    | nil =>
      have hr := hw.tokensFrom_append [] []
      rw [List.append_nil, List.append_nil] at hr
      rw [List.intercalate_singleton, hr, tokensFrom, emit_reverse hne]
    | cons next rest =>
      rw [List.intercalate_cons_cons, List.append_assoc, hw.tokensFrom_append, List.append_nil,
        List.singleton_append, tokensFrom_blank hspace, emit_reverse hne, hmore]
      rfl

/-- **Tokens with a space between them are read as these tokens.** -/
theorem tokens_intercalate {ts : List String} (h : ∀ t ∈ ts, IsToken t) :
    tokens (" ".intercalate ts) = ts := by
  have hspace : (" " : String).toList = [' '] := rfl
  unfold tokens
  rw [String.toList_intercalate, hspace, tokensFrom_intercalate, List.map_map]
  · exact List.map_id'' (fun t => String.ofList_toList) ts
  · intro word hm
    obtain ⟨t, ht, rfl⟩ := List.mem_map.mp hm
    exact ⟨(h t ht).whole, fun e => (h t ht).ne_empty (String.toList_eq_nil_iff.mp e)⟩

/-! ## 4. Quoted arguments -/

/-- The text between two quotes. -/
def quotedText (text : String) : String :=
  "\"" ++ text ++ "\""

theorem toList_quotedText (text : String) :
    (quotedText text).toList = '"' :: (text.toList ++ ['"']) := by
  unfold quotedText
  rw [String.toList_append, String.toList_append]
  rfl

theorem isToken_quotedText {text : String} (h : '"' ∉ text.toList) : IsToken (quotedText text) := by
  refine ⟨?_, fun e => ?_⟩
  · rw [toList_quotedText]
    exact whole_group h
  · have hl := congrArg String.toList e
    rw [toList_quotedText] at hl
    exact List.cons_ne_nil _ _ hl

/-- Without its two quotes it is the text. -/
theorem unquote_quotedText (text : String) : unquote (quotedText text) = text := by
  unfold unquote
  rw [toList_quotedText, dropQuote, if_pos rfl, List.reverse_append, List.reverse_singleton,
    List.singleton_append, dropQuote, if_pos rfl, List.reverse_reverse, String.ofList_toList]

/-- **A name and quoted texts are read as the name and the texts.** The name has no blank
    and no quote, the texts have no quote; they may be empty or hold any blanks. -/
theorem parse_quoted {name : String} {args : List String} (hn : name ≠ "")
    (hu : Unbroken name.toList) (ha : ∀ arg ∈ args, '"' ∉ arg.toList) :
    parse (" ".intercalate (name :: args.map quotedText)) = ⟨name, args⟩ := by
  have ht : tokens (" ".intercalate (name :: args.map quotedText)) =
      name :: args.map quotedText := by
    refine tokens_intercalate (List.forall_mem_cons.mpr ⟨⟨hu.whole, hn⟩, fun t hm => ?_⟩)
    obtain ⟨arg, harg, rfl⟩ := List.mem_map.mp hm
    exact isToken_quotedText (ha arg harg)
  have hargs : (args.map quotedText).map unquote = args := by
    rw [List.map_map]
    exact List.map_id'' unquote_quotedText args
  unfold parse
  rw [ht]
  dsimp only
  rw [hargs]

/-- An empty text, blanks alone, and a text that ends in a new line. -/
theorem parse_quoted_blanks :
    Unbroken "cat".toList ∧ (∀ arg ∈ ["", " \t ", "a  b\n"], '"' ∉ arg.toList) ∧
      parse "cat \"\" \" \t \" \"a  b\n\"" = ⟨"cat", ["", " \t ", "a  b\n"]⟩ := by
  have hword : IsWord "cat" := by decide
  have hu : Unbroken "cat".toList := hword.unbroken
  have ha : ∀ arg ∈ ["", " \t ", "a  b\n"], '"' ∉ arg.toList := by decide
  exact ⟨hu, ha, parse_quoted (by decide) hu ha⟩

end Portfolio.Command
