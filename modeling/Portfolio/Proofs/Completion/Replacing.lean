/-
  File:      Portfolio/Proofs/Completion/Replacing.lean
  Subject:   What accepting a suggestion does to the text before the cursor.

  * `replaced_suffix`: a text that does not end in a quote ends in what a suggestion
    takes the place of; `replaced_prefix`: every suggestion begins with it. Its length
    is never more than that of the text (`length_replaced_le`).
  * `GoesOn`: the characters that are taken away are the beginning of the word that is
    put there. `goesOn_iff_prefix_accept`: so nothing of the text is lost.
  * `Offered`: when an offer goes on with the text. `offered`: this holds of all that is
    offered in every session. `not_goesOn_of_quote`: a text that ends in a quote loses
    it and what stands before the word.
-/
import Portfolio.Proofs.Completion.Suggestions
import Portfolio.Proofs.Session.Listed

namespace Portfolio.Completion

open Portfolio.Text

variable {s : Session} {text word : String} {count : Nat}

/-! ## 1. What a suggestion takes the place of -/

/-- It is no longer than the text. -/
theorem length_replaced_le (text : String) : (replaced text).length ≤ text.length := by
  rw [replaced_eq]
  cases hf : fragment? text with
  | none => exact Command.length_name_le text
  | some fragment =>
    have hcut := congrArg String.length (cutAt_cutAtSlash fragment).whole
    rw [String.length_append] at hcut
    have hfragment : fragment.length ≤ text.length := by
      unfold fragment? at hf
      split at hf
      · cases hf
        exact Nat.zero_le _
      · exact Command.length_le_of_mem_args (List.mem_of_getLast? hf)
    dsimp only
    omega

/-- **A text that does not end in a quote ends in it.** -/
theorem replaced_suffix {d : Char} (hl : text.toList.getLast? = some d) (hq : d ≠ '"') :
    (replaced text).toList <:+ text.toList := by
  rw [replaced_eq]
  cases hb : isBlank d with
  | true =>
    rw [fragment?_of_endsBlank (endsBlank_eq hl ▸ hb)]
    exact List.nil_suffix
  | false =>
    rw [fragment?_of_not_endsBlank (endsBlank_eq hl ▸ hb)]
    obtain ⟨t, ht, hs, hd⟩ := Command.exists_last_token hl hb hq
    rcases Command.parse_of_last_token ht with ⟨ha, hn⟩ | ha
    · rw [ha, hn]
      exact hs
    · rw [ha]
      have htail : (cutAtSlash (Command.unquote t)).2.toList <:+ (Command.unquote t).toList :=
        ⟨_, (cutAt_cutAtSlash _).toList_eq.symm⟩
      exact (htail.trans (Command.unquote_suffix hd hq)).trans hs

/-- **Every suggestion begins with it.** -/
theorem replaced_prefix (h : word ∈ complete s text) :
    (replaced text).toList <+: word.toList := by
  rw [replaced_eq]
  rcases mem_complete h with ⟨hf, hw⟩ | ⟨fragment, hf, hw⟩
  · rw [hf]
    exact (mem_commandSuggestions.mp hw).2
  · rw [hf]
    obtain ⟨_, _, _, _, e, _, ht, rfl⟩ := (mem_pathSuggestions (cutAt_cutAtSlash fragment)).mp hw
    exact ht.trans (prefix_suggestion e)

/-! ## 2. Suggestions without quotes -/

theorem notMem_of_mem_commandWords (h : word ∈ commandWords) : '"' ∉ word.toList :=
  (by decide : ∀ word ∈ commandWords, '"' ∉ word.toList) word h

theorem unbroken_suggestion {e : DirectoryEntry} (h : Site.Spelled e.name) :
    Command.Unbroken (suggestion e).toList := by
  unfold suggestion
  split
  · rw [String.toList_append]
    exact h.unbroken.append (List.forall_mem_singleton.mpr (by decide))
  · exact h.unbroken

/-- With a tree that is built from records no suggestion has a quote. -/
theorem notMem_of_mem_complete (hf : s.filesystem.FromRecords) (h : word ∈ complete s text) :
    '"' ∉ word.toList := by
  rcases mem_complete h with ⟨_, hw⟩ | ⟨fragment, _, hw⟩
  · exact notMem_of_mem_commandWords (mem_commandSuggestions.mp hw).1
  · obtain ⟨_, entries, _, hl, e, he, _, rfl⟩ :=
      (mem_pathSuggestions (cutAt_cutAtSlash fragment)).mp hw
    obtain ⟨d, n, hr, hn, rfl⟩ := Filesystem.exists_child_of_mem_list hl he
    exact (unbroken_suggestion (hf.spelled hr hn)).notMem

/-! ## 3. Offers -/

/-- A word in the place of the last characters of a text, as many as are said. -/
def accept (text word : String) (count : Nat) : String :=
  String.ofList (text.toList.take (text.length - count)) ++ word

/-- The text has so many characters, and the last ones are the beginning of the word. -/
structure GoesOn (text word : String) (count : Nat) : Prop where
  within : count ≤ text.length
  typed : text.toList.drop (text.length - count) <+: word.toList

/-- A word goes on with a text if, and only if, accepting it only adds to the text. -/
theorem goesOn_iff_prefix_accept (h : count ≤ text.length) :
    GoesOn text word count ↔ text.toList <+: (accept text word count).toList := by
  have hparts : text.toList.take (text.length - count) ++
      text.toList.drop (text.length - count) = text.toList := List.take_append_drop _ _
  have hadd : text.toList <+: (accept text word count).toList ↔
      text.toList.drop (text.length - count) <+: word.toList := by
    unfold accept
    rw [String.toList_append, String.toList_ofList]
    nth_rewrite 1 [← hparts]
    exact List.prefix_append_right_inj _
  rw [hadd]
  exact ⟨fun hg => hg.typed, fun ht => ⟨h, ht⟩⟩

/-- When an offer goes on with the text: always, unless the text ends in a quote; and
    then, if the word has none, only by taking nothing away. No word has a quote if the
    tree is built from records. -/
structure Offered (s : Session) (text word : String) (count : Nat) : Prop where
  within : count ≤ text.length
  goesOn : text.toList.getLast? ≠ some '"' → GoesOn text word count
  goesOn_iff : '"' ∉ word.toList →
    (GoesOn text word count ↔ text.toList.getLast? ≠ some '"' ∨ count = 0)
  plain : s.filesystem.FromRecords → '"' ∉ word.toList
  adds : GoesOn text word count ↔ text.toList <+: (accept text word count).toList

theorem mem_completions {position : Int} :
    (word, position) ∈ completions s text ↔
      word ∈ complete s text ∧ position = -(replaced text).length := by
  unfold completions
  cases hb : allBlank text.toList with
  | true =>
    rw [complete_eq, hb]
    simp
  | false =>
    rw [if_neg Bool.false_ne_true, List.mem_map]
    constructor
    · rintro ⟨w, hw, he⟩
      cases he
      exact ⟨hw, rfl⟩
    · rintro ⟨hw, rfl⟩
      exact ⟨word, hw, rfl⟩

/-- A text that does not end in a quote ends in what is taken away from it. -/
theorem drop_replaced (hl : text.toList.getLast? ≠ some '"') :
    text.toList.drop (text.length - (replaced text).length) = (replaced text).toList := by
  have hs : (replaced text).toList <:+ text.toList := by
    cases he : text.toList.getLast? with
    | none =>
      have hn : text = "" := String.toList_eq_nil_iff.mp (List.getLast?_eq_none_iff.mp he)
      subst hn
      decide
    | some d =>
      refine replaced_suffix he ?_
      rintro rfl
      exact hl he
  rw [← String.length_toList, ← String.length_toList]
  exact (List.suffix_iff_eq_drop.mp hs).symm

/-- A quote at the end of the text is taken away, and no word without quotes begins with it. -/
theorem not_goesOn_of_quote (hl : text.toList.getLast? = some '"') (hc : count ≠ 0)
    (hw : '"' ∉ word.toList) : ¬ GoesOn text word count := by
  rintro ⟨hle, ht⟩
  obtain ⟨rest, hrest⟩ := List.getLast?_eq_some_iff.mp hl
  have hlen : text.length = rest.length + 1 := by
    rw [← String.length_toList, hrest, List.length_append]
    rfl
  have hmem : '"' ∈ text.toList.drop (text.length - count) := by
    rw [hrest, List.drop_append_of_le_length (by omega)]
    exact List.mem_append_right _ List.mem_cons_self
  exact hw (ht.subset hmem)

/-- **When accepting an offer only adds to what is typed**, in every session and for
    every text before the cursor. -/
theorem offered {position : Int} (h : (word, position) ∈ completions s text) :
    ∃ count : Nat, position = -count ∧ Offered s text word count := by
  obtain ⟨hw, rfl⟩ := mem_completions.mp h
  have hle := length_replaced_le text
  have hgo : text.toList.getLast? ≠ some '"' → GoesOn text word (replaced text).length := by
    intro hl
    refine ⟨hle, ?_⟩
    rw [drop_replaced hl]
    exact replaced_prefix hw
  refine ⟨(replaced text).length, rfl, hle, hgo, fun hq => ?_,
    fun hf => notMem_of_mem_complete hf hw, goesOn_iff_prefix_accept hle⟩
  constructor
  · intro hg
    by_cases hl : text.toList.getLast? = some '"'
    · right
      by_contra hc
      exact not_goesOn_of_quote hl hc hq hg
    · exact Or.inl hl
  · rintro (hl | hc)
    · exact hgo hl
    · refine ⟨hle, ?_⟩
      rw [hc, Nat.sub_zero, ← String.length_toList, List.drop_length]
      exact List.nil_prefix

/-! ### Quotes around a path -/

/-- In the tree without projects, the directory for them is offered for its first letters. -/
theorem exists_offer_of_projects (text : String)
    (hw : Command.ofWord? (Command.parse text).name = some .read)
    (hf : fragment? text = some "/pro") :
    ∃ s : Session, s.filesystem.FromRecords ∧ ("projects/", -3) ∈ completions s text := by
  obtain ⟨made, hm⟩ : ∃ made, Filesystem.ofRecords {} [] = .ok made := ⟨_, rfl⟩
  have hc : CutAt "/pro" "/" "pro" := ⟨by decide, by decide, Or.inr rfl⟩
  refine ⟨{ filesystem := made.result }, .built hm, mem_completions.mpr ⟨?_, ?_⟩⟩
  · cases hm
    rw [complete_of_fragment hw hf, mem_pathSuggestions_iff_child hc rfl rfl rfl]
    exact ⟨_, List.mem_cons_of_mem _ List.mem_cons_self, by decide, by decide⟩
  · rw [replaced_eq, hf]
    dsimp only
    rw [hc.cutAtSlash]
    decide

/-- A path is still going on after an opening quote. -/
theorem offered_after_quote :
    ∃ s : Session, ("projects/", -3) ∈ completions s "cat \"/pro" ∧
      ∃ count : Nat, (-3 : Int) = -count ∧ Offered s "cat \"/pro" "projects/" count := by
  obtain ⟨s, _, h⟩ := exists_offer_of_projects "cat \"/pro" (by decide) (by decide)
  exact ⟨s, h, offered h⟩

/-- After the closing quote the offer takes it away, and letters of the path with it. -/
theorem not_goesOn_closed_quote :
    ∃ s : Session, s.filesystem.FromRecords ∧
      ("projects/", -3) ∈ completions s "cat \"/pro\"" ∧
      ¬ GoesOn "cat \"/pro\"" "projects/" 3 ∧
      accept "cat \"/pro\"" "projects/" 3 = "cat \"/pprojects/" := by
  obtain ⟨s, hf, h⟩ := exists_offer_of_projects "cat \"/pro\"" (by decide) (by decide)
  have hno : ¬ GoesOn "cat \"/pro\"" "projects/" 3 :=
    not_goesOn_of_quote (by decide) (by decide) (by decide)
  exact ⟨s, hf, h, hno, by decide⟩

end Portfolio.Completion
