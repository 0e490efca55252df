/-
  File:      Portfolio/Proofs/Command/Tokens.lean
  Subject:   Where the tokens of a line stand in it.

  * `tokensFrom_cons`: one character goes on with the token under way or ends it.
    So every token is a part of the line (`infix_of_mem_tokens`), and a line that ends
    in neither a blank nor a quote ends in its last token (`exists_last_token`).
  * `parse_of_last_token`: the last token is the name, or gives the last argument.
  * Without quotes a text is read up to a blank and from there on its own
    (`tokensFrom_append`), and what follows its last blank is its last token
    (`tokens_append_unbroken`).
-/
import Portfolio.Proofs.Command.Line

namespace Portfolio.Command

open Portfolio.Text

variable {quoted : Bool} {token text before word w : List Char} {c d : Char}

/-! ## 1. Tokens as parts of a line -/

theorem mem_emit (h : w ∈ emit token) : w = token.reverse := by
  unfold emit at h
  split at h
  · cases h
  · exact List.mem_singleton.mp h

/-- One character goes on with the token under way, or ends it and is dropped. -/
theorem tokensFrom_cons (quoted : Bool) (token : List Char) (c : Char) (rest : List Char) :
    (∃ quoted', tokensFrom quoted token (c :: rest) = tokensFrom quoted' (c :: token) rest) ∨
      tokensFrom quoted token (c :: rest) = emit token ++ tokensFrom false [] rest := by
  cases quoted with
  | true => exact Or.inl ⟨_, rfl⟩
  | false =>
    rw [tokensFrom]
    split
    · split
      · exact Or.inl ⟨true, rfl⟩
      · exact Or.inr rfl
    · split
      · exact Or.inr rfl
      · exact Or.inl ⟨false, rfl⟩

/-- Every token is a part of what was read. -/
theorem infix_of_mem_tokensFrom (h : w ∈ tokensFrom quoted token text) :
    w <:+: token.reverse ++ text := by
  induction text generalizing quoted token with
  | nil =>
    have hw : w = token.reverse := by
      cases quoted <;> exact mem_emit h
    rw [hw]
    exact (List.prefix_append _ _).isInfix
  | cons c rest ih =>
    have hc : token.reverse ++ c :: rest = (c :: token).reverse ++ rest := by simp
    rcases tokensFrom_cons quoted token c rest with ⟨quoted', he⟩ | he
    · rw [he] at h
      rw [hc]
      exact ih h
    · rw [he] at h
      rcases List.mem_append.mp h with h | h
      · rw [mem_emit h]
        exact (List.prefix_append _ _).isInfix
      · have hi : w <:+: rest := ih h
        exact hi.trans ⟨token.reverse ++ [c], [], by simp⟩

/-- **Every token is a part of the line.** -/
theorem infix_of_mem_tokens {line t : String} (h : t ∈ tokens line) :
    t.toList <:+: line.toList := by
  obtain ⟨w, hw, rfl⟩ := List.mem_map.mp h
  rw [String.toList_ofList]
  exact infix_of_mem_tokensFrom hw

theorem length_le_of_mem_tokens {line t : String} (h : t ∈ tokens line) :
    t.length ≤ line.length := by
  rw [← String.length_toList, ← String.length_toList]
  exact (infix_of_mem_tokens h).length_le

/-- What ends in a character that neither separates nor groups ends in a token. -/
theorem exists_last_tokensFrom (hb : isBlank d = false) (hq : d ≠ '"') (quoted : Bool)
    (token text : List Char) :
    ∃ w, (tokensFrom quoted token (text ++ [d])).getLast? = some (w ++ [d]) ∧
      w ++ [d] <:+ token.reverse ++ (text ++ [d]) := by
  induction text generalizing quoted token with
  | nil =>
    have he : tokensFrom quoted token [d] = [token.reverse ++ [d]] := by
      cases quoted <;> simp [tokensFrom, emit, hb, hq]
    exact ⟨token.reverse, by rw [List.nil_append, he]; rfl, List.suffix_refl _⟩
  | cons c rest ih =>
    rw [List.cons_append]
    rcases tokensFrom_cons quoted token c (rest ++ [d]) with ⟨quoted', he⟩ | he
    · obtain ⟨w, hw, hs⟩ := ih quoted' (c :: token)
      refine ⟨w, by rw [he, hw], ?_⟩
      simpa using hs
    · obtain ⟨w, hw, hs⟩ := ih false []
      refine ⟨w, ?_, ?_⟩
      · rw [he, List.getLast?_append, hw]
        rfl
      · have hrest : w ++ [d] <:+ rest ++ [d] := hs
        exact hrest.trans ⟨token.reverse ++ [c], by simp⟩

/-- **A line that ends in neither a blank nor a quote ends in its last token.** -/
theorem exists_last_token {line : String} (hl : line.toList.getLast? = some d)
    (hb : isBlank d = false) (hq : d ≠ '"') :
    ∃ t, (tokens line).getLast? = some t ∧ t.toList <:+ line.toList ∧
      t.toList.getLast? = some d := by
  obtain ⟨rest, hrest⟩ := List.getLast?_eq_some_iff.mp hl
  obtain ⟨w, hw, hs⟩ := exists_last_tokensFrom hb hq false [] rest
  refine ⟨String.ofList (w ++ [d]), ?_, ?_, ?_⟩
  · unfold tokens
    rw [hrest, List.getLast?_map, hw]
    rfl
  · rw [String.toList_ofList, hrest]
    exact hs
  · rw [String.toList_ofList, List.getLast?_concat]

/-- Blanks before the first token do not matter. -/
theorem tokensFrom_stripLeft (text : List Char) :
    tokensFrom false [] (stripLeft text) = tokensFrom false [] text := by
  induction text with
  | nil => rfl
  | cons c rest ih =>
    cases hb : isBlank c with
    | false => rw [stripLeft_eq_self_of_head hb]
    | true =>
      have hs : stripLeft (c :: rest) = stripLeft rest := List.dropWhile_cons_of_pos hb
      rw [hs, ih, tokensFrom_blank hb]
      rfl

theorem parse_stripLeft (line : String) :
    parse (String.ofList (stripLeft line.toList)) = parse line := by
  have ht : tokens (String.ofList (stripLeft line.toList)) = tokens line := by
    unfold tokens
    rw [String.toList_ofList, tokensFrom_stripLeft]
  unfold parse
  rw [ht]

/-! ## 2. The last argument -/

theorem dropQuote_suffix (s : List Char) : dropQuote s <:+ s := by
  cases s with
  | nil => exact List.suffix_refl _
  | cons c rest =>
    rw [dropQuote]
    split
    · exact List.suffix_cons c rest
    · exact List.suffix_refl _

theorem length_unquote_le (t : String) : (unquote t).length ≤ t.length := by
  have h1 := (dropQuote_suffix t.toList).length_le
  have h2 := (dropQuote_suffix (dropQuote t.toList).reverse).length_le
  unfold unquote
  rw [String.length_ofList, List.length_reverse]
  rw [List.length_reverse] at h2
  rw [← String.length_toList]
  omega

/-- Where no quote ends a token, unquoting leaves an end of it. -/
theorem unquote_suffix {t : String} (hl : t.toList.getLast? = some d) (hq : d ≠ '"') :
    (unquote t).toList <:+ t.toList := by
  have hs := dropQuote_suffix t.toList
  have hback : dropQuote (dropQuote t.toList).reverse = (dropQuote t.toList).reverse := by
    cases hr : (dropQuote t.toList).reverse with
    | nil => rfl
    | cons c rest =>
      -- the last character of what is left is the last one of the token
      have hlast : (dropQuote t.toList).getLast? = some c := by
        rw [← List.head?_reverse, hr]
        rfl
      obtain ⟨gone, he⟩ := hs
      rw [← he, List.getLast?_append, hlast] at hl
      have hc : c ≠ '"' := by
        intro e
        exact hq (Option.some.inj hl ▸ e)
      unfold dropQuote
      exact if_neg hc
  unfold unquote
  rw [String.toList_ofList, hback, List.reverse_reverse]
  exact hs

theorem parse_name (line : String) : (parse line).name = (tokens line).headD "" := by
  unfold parse
  split
  · rename_i h
    rw [h]
    rfl
  · rename_i h
    rw [h]
    rfl

theorem parse_args (line : String) : (parse line).args = (tokens line).tail.map unquote := by
  unfold parse
  split
  · rename_i h
    rw [h]
    rfl
  · rename_i h
    rw [h]
    rfl

/-- No argument is longer than the line. -/
theorem length_le_of_mem_args {line arg : String} (h : arg ∈ (parse line).args) :
    arg.length ≤ line.length := by
  rw [parse_args] at h
  obtain ⟨t, ht, rfl⟩ := List.mem_map.mp h
  calc (unquote t).length ≤ t.length := length_unquote_le t
    _ ≤ line.length := length_le_of_mem_tokens (List.mem_of_mem_tail ht)

/-- Neither is the name. -/
theorem length_name_le (line : String) : (parse line).name.length ≤ line.length := by
  rw [parse_name]
  cases ht : tokens line with
  | nil => exact Nat.zero_le _
  | cons t rest =>
    have hm : t ∈ tokens line := ht ▸ List.mem_cons_self
    exact length_le_of_mem_tokens hm

/-- A token after the first one gives the last argument if it is the last one. -/
theorem getLast?_args {line t : String} {before : List String}
    (h : tokens line = before ++ [t]) (hne : before ≠ []) :
    (parse line).args.getLast? = some (unquote t) := by
  rw [parse_args, h, List.tail_append_of_ne_nil hne, List.map_append, List.map_singleton,
    List.getLast?_concat]

/-- The last token of a line is its name, or else gives the last argument. -/
theorem parse_of_last_token {line t : String} (h : (tokens line).getLast? = some t) :
    ((parse line).args = [] ∧ (parse line).name = t) ∨
      (parse line).args.getLast? = some (unquote t) := by
  obtain ⟨before, hb⟩ := List.getLast?_eq_some_iff.mp h
  by_cases hne : before = []
  · subst hne
    refine Or.inl ⟨?_, ?_⟩
    · rw [parse_args, hb]
      rfl
    · rw [parse_name, hb]
      rfl
  · exact Or.inr (getLast?_args hb hne)

/-! ## 3. Lines without quotes -/

/-- Up to a blank, a text without quotes is read on its own, and so is what follows. -/
theorem tokensFrom_append (hq : '"' ∉ before) (hb : isBlank c = true) (token rest : List Char) :
    tokensFrom false token (before ++ c :: rest) =
      tokensFrom false token before ++ tokensFrom false [] rest := by
  induction before generalizing token with
  | nil => exact tokensFrom_blank hb token rest
  | cons d before ih =>
    have hd : d ≠ '"' := fun e => hq (e ▸ List.mem_cons_self)
    have hrest : '"' ∉ before := fun hm => hq (List.mem_cons_of_mem _ hm)
    rw [List.cons_append, tokensFrom, if_neg hd, tokensFrom, if_neg hd, ih hrest, ih hrest]
    split
    · rw [List.append_assoc]
    · rfl

/-- A text without quotes is unbroken, or has an unbroken end after its last blank. -/
theorem unbroken_or_exists_blank (hq : '"' ∉ text) :
    Unbroken text ∨ ∃ before c word, text = before ++ c :: word ∧ isBlank c = true ∧
      Unbroken word := by
  induction text with
  | nil => exact Or.inl fun _ h => absurd h List.not_mem_nil
  | cons d rest ih =>
    have hd : d ≠ '"' := fun e => hq (e ▸ List.mem_cons_self)
    rcases ih fun hm => hq (List.mem_cons_of_mem _ hm) with hu | ⟨before, c, word, rfl, hb, hu⟩
    · cases hb : isBlank d with
      | true => exact Or.inr ⟨[], d, rest, rfl, hb, hu⟩
      | false => exact Or.inl (List.forall_mem_cons.mpr ⟨⟨hb, hd⟩, hu⟩)
    · exact Or.inr ⟨d :: before, c, word, rfl, hb, hu⟩

theorem tokens_append_blank (hq : '"' ∉ before) (hb : isBlank c = true) :
    tokens (String.ofList (before ++ [c])) = tokens (String.ofList before) := by
  unfold tokens
  rw [String.toList_ofList, String.toList_ofList, tokensFrom_append hq hb]
  simp [tokensFrom, emit]

/-- After a blank, an unbroken text is the last token. -/
theorem tokens_append_unbroken (hq : '"' ∉ before) (hb : isBlank c = true) (hw : Unbroken word)
    (hne : word ≠ []) :
    tokens (String.ofList (before ++ c :: word)) =
      tokens (String.ofList before) ++ [String.ofList word] := by
  unfold tokens
  rw [String.toList_ofList, String.toList_ofList, tokensFrom_append hq hb,
    tokensFrom_eq_singleton hw hne, List.map_append]
  rfl

end Portfolio.Command
