/-
  File:      Portfolio/Proofs/Slug/Grammar.lean
  Subject:   What a slug looks like, and what part of a title decides it.

  * `words`: the longest runs of kept characters in a text (`text_induction` takes a
    text apart into them). `trimHyphens_hyphenate`: what is hyphenated and trimmed are
    these words with single hyphens between them.
  * `IsSlug`: words of kept characters with one hyphen between two of them, or
    nothing. `ofTitle_eq_self_iff`: these texts are the slugs of themselves, and no
    others are.
  * `heading_emDash`: an em dash has no case and is not passed over where a word end is
    looked for; so what comes after it changes nothing before it.
  * `ofTitle_canonical`: what every slug looks like, that it stays as it is, and that
    it comes from what stands before the em dash.
-/
import Portfolio.Proofs.Slug.Names
import Portfolio.Proofs.Text.Blank
import Portfolio.Proofs.Text.Case

namespace Portfolio.Slug

open Portfolio.Text

variable {s w rest : List Char} {c : Char} {ws : List (List Char)}

/-! ## 1. The words of a text -/

/-- At least one character, and all of them kept. -/
structure IsRun (w : List Char) : Prop where
  ne_nil : w ≠ []
  kept : ∀ c ∈ w, isKept c = true

/-- The runs of kept characters in a text, as long as they can be. -/
def words (s : List Char) : List (List Char) :=
  (s.splitOnP fun c => !isKept c).filter (!·.isEmpty)

/-- **A text is taken apart** into what is not kept and runs that end at such a character
    or with the text. -/
theorem text_induction {P : List Char → Prop} (nil : P [])
    (skip : ∀ c s, isKept c = false → P s → P (c :: s)) (last : ∀ w, IsRun w → P w)
    (word : ∀ w c s, IsRun w → isKept c = false → P s → P (w ++ c :: s)) (s : List Char) : P s := by
  induction h : s.length using Nat.strong_induction_on generalizing s with
  | h n ih =>
    cases s with
    | nil => exact nil
    | cons c s =>
      cases hc : isKept c with
      | false => exact skip c s hc (ih s.length (by simp [← h]) s rfl)
      | true =>
        -- the run that starts here, and what is left behind it
        have hrun : IsRun (c :: s.takeWhile isKept) :=
          ⟨List.cons_ne_nil _ _,
            List.forall_mem_cons.mpr ⟨hc, fun d hd => List.mem_takeWhile_imp hd⟩⟩
        have hs : c :: s = (c :: s.takeWhile isKept) ++ s.dropWhile isKept := by simp
        cases hd : s.dropWhile isKept with
        | nil =>
          rw [hs, hd, List.append_nil]
          exact last _ hrun
        | cons d rest =>
          have hkept : isKept d = false := by
            have := List.head_dropWhile_not isKept (l := s) (by simp [hd])
            simpa [hd] using this
          have hlen : rest.length < n := by
            have := congrArg List.length hs
            simp [hd] at this
            simp at h
            omega
          rw [hs, hd]
          exact word _ d rest hrun hkept (ih rest.length hlen rest rfl)

theorem words_cons_of_not_kept (h : isKept c = false) (s : List Char) :
    words (c :: s) = words s := by
  unfold words
  rw [List.splitOnP_cons_eq_if_modifyHead, h, Bool.not_false, if_pos rfl]
  simp

theorem IsRun.filter_cons (h : IsRun w) (ws : List (List Char)) :
    (w :: ws).filter (!·.isEmpty) = w :: ws.filter (!·.isEmpty) :=
  List.filter_cons_of_pos (by simpa using h.ne_nil)

theorem IsRun.words (h : IsRun w) : words w = [w] := by
  have hk : ∀ c ∈ w, (!isKept c) = false := fun c hc => by simp [h.kept c hc]
  unfold Slug.words
  rw [List.splitOnP_eq_singleton hk, h.filter_cons, List.filter_nil]

/-- A run ends at the first character that is not kept. -/
theorem IsRun.words_append (h : IsRun w) (hc : isKept c = false) (s : List Char) :
    Slug.words (w ++ c :: s) = w :: Slug.words s := by
  have hk : ∀ c ∈ w, (!isKept c) = false := fun c hc => by simp [h.kept c hc]
  unfold Slug.words
  rw [List.splitOnP_append_cons_of_forall_mem hk c (by simp [hc]), h.filter_cons]

theorem isRun_of_mem_words : ∀ w ∈ words s, IsRun w := by
  induction s using text_induction with
  | nil => exact fun w h => absurd h List.not_mem_nil
  | skip c s hc ih =>
    rw [words_cons_of_not_kept hc]
    exact ih
  | last w hw =>
    rw [hw.words]
    exact List.forall_mem_singleton.mpr hw
  | word w c s hw hc ih =>
    rw [hw.words_append hc]
    exact List.forall_mem_cons.mpr ⟨hw, ih⟩

/-! ## 2. Hyphens between words -/

/-- The words with a hyphen between two of them. -/
def joined (ws : List (List Char)) : List Char :=
  ['-'].intercalate ws

theorem joined_nil : joined [] = [] := rfl

theorem joined_cons (w : List Char) (ws : List (List Char)) :
    joined (w :: ws) = w ++ if ws = [] then [] else '-' :: joined ws := by
  unfold joined
  cases ws with
  | nil => simp
  | cons v ws => simp [List.intercalate_cons_of_ne_nil (List.cons_ne_nil v ws)]

theorem joined_eq_nil_iff (h : ∀ w ∈ ws, IsRun w) : joined ws = [] ↔ ws = [] := by
  cases ws with
  | nil => simp [joined_nil]
  | cons w ws => simp [joined_cons, (h w List.mem_cons_self).ne_nil]

theorem not_kept_hyphen : isKept '-' = false := by decide

theorem IsRun.not_hyphen (h : IsRun w) : ∀ c ∈ w, (c == '-') = false := by
  intro c hc
  rw [beq_eq_false_iff_ne]
  rintro rfl
  exact absurd (h.kept '-' hc) (by decide)

/-- **Joined words are read again as these words.** -/
theorem words_joined (h : ∀ w ∈ ws, IsRun w) : words (joined ws) = ws := by
  induction ws with
  | nil => rfl
  | cons w ws ih =>
    have hw := h w List.mem_cons_self
    have hws := ih fun v hv => h v (List.mem_cons_of_mem _ hv)
    rw [joined_cons]
    split
    · rename_i hnil
      rw [List.append_nil, hw.words, hnil]
    · rw [hw.words_append not_kept_hyphen, hws]

/-- The characters of a run are written as they are. -/
theorem hyphenate_append (h : ∀ c ∈ w, isKept c = true) (s : List Char) :
    hyphenate false (w ++ s) = w ++ hyphenate false s := by
  induction w with
  | nil => rfl
  | cons c w ih =>
    have hw := ih fun d hd => h d (List.mem_cons_of_mem _ hd)
    rw [List.cons_append, hyphenate, if_pos (h c List.mem_cons_self), hw, List.cons_append]

theorem IsRun.hyphenate_append (h : IsRun w) (inRun : Bool) (s : List Char) :
    hyphenate inRun (w ++ s) = w ++ hyphenate false s := by
  obtain ⟨c, more, rfl⟩ := List.exists_cons_of_ne_nil h.ne_nil
  rw [List.cons_append, hyphenate, if_pos (h.kept c List.mem_cons_self),
    Slug.hyphenate_append fun d hd => h.kept d (List.mem_cons_of_mem _ hd), List.cons_append]

/-- A character that is not kept is written as a hyphen, unless there is one. -/
theorem hyphenate_cons_of_not_kept (h : isKept c = false) (inRun : Bool) (s : List Char) :
    hyphenate inRun (c :: s) = (if inRun then [] else ['-']) ++ hyphenate true s := by
  rw [hyphenate, h]
  cases inRun <;> rfl

/-- Without the hyphens at its end. -/
def trimRight (s : List Char) : List Char :=
  s.rdropWhile (· == '-')

/-- The hyphens before the first word are all that a new run of them adds. -/
theorem dropWhile_hyphenate (inRun : Bool) (s : List Char) :
    (hyphenate inRun s).dropWhile (· == '-') = hyphenate true s := by
  have hword : ∀ w s inRun, IsRun w →
      (hyphenate inRun (w ++ s)).dropWhile (· == '-') = hyphenate true (w ++ s) := by
    intro w s inRun hw
    obtain ⟨c, more, rfl⟩ := List.exists_cons_of_ne_nil hw.ne_nil
    have hc : ¬ (c == '-') = true := by simp [hw.not_hyphen c List.mem_cons_self]
    rw [hw.hyphenate_append, hw.hyphenate_append]
    exact List.dropWhile_cons_of_neg hc
  induction s using text_induction generalizing inRun with
  | nil => rfl
  | skip c s hc ih =>
    rw [hyphenate_cons_of_not_kept hc, hyphenate_cons_of_not_kept hc]
    cases inRun <;> simpa using ih true
  | last w hw => simpa using hword w [] inRun hw
  | word w c s hw hc _ => exact hword w (c :: s) inRun hw

theorem IsRun.trimRight (h : IsRun w) : trimRight w = w := by
  unfold Slug.trimRight
  rw [List.rdropWhile_eq_self_iff]
  intro hne
  simp [h.not_hyphen _ (List.getLast_mem hne)]

/-- Hyphens stay between a run and what is left behind them. -/
theorem IsRun.trimRight_append (h : IsRun w) (s : List Char) :
    Slug.trimRight (w ++ '-' :: s) =
      w ++ if Slug.trimRight s = [] then [] else '-' :: Slug.trimRight s := by
  have hw : w.reverse.dropWhile (· == '-') = w.reverse := by
    have ht := h.trimRight
    unfold Slug.trimRight List.rdropWhile at ht
    rw [← List.reverse_eq_iff, ht]
  unfold Slug.trimRight List.rdropWhile
  rw [List.reverse_append, List.reverse_cons, List.append_assoc, List.dropWhile_append]
  by_cases hs : s.reverse.dropWhile (· == '-') = []
  · simp [hs, hw]
  · simp [hs]

/-- **What is hyphenated and trimmed are the words, with single hyphens between them.** -/
theorem trimHyphens_hyphenate (s : List Char) :
    trimHyphens (hyphenate false s) = joined (words s) := by
  show trimRight ((hyphenate false s).dropWhile (· == '-')) = joined (words s)
  rw [dropWhile_hyphenate]
  induction s using text_induction with
  | nil => rfl
  | skip c s hc ih =>
    rw [hyphenate_cons_of_not_kept hc, words_cons_of_not_kept hc]
    exact ih
  | last w hw =>
    have hwrite := hw.hyphenate_append true []
    rw [List.append_nil, hyphenate, List.append_nil] at hwrite
    rw [hwrite, hw.words, hw.trimRight, joined_cons, if_pos rfl, List.append_nil]
  | word w c s hw hc ih =>
    rw [hw.hyphenate_append, hyphenate_cons_of_not_kept hc, hw.words_append hc, joined_cons]
    simp only [Bool.false_eq_true, if_false, List.singleton_append]
    rw [hw.trimRight_append, ih]
    simp only [joined_eq_nil_iff isRun_of_mem_words]

/-! ## 3. Slugs -/

/-- The part of a title that names the project. -/
def heading (title : String) : List Char :=
  strip ((lower title.toList).takeWhile (· != emDash))

/-- **A slug is the words of the heading**, joined with hyphens. -/
theorem toList_ofTitle (title : String) :
    (ofTitle title).toList = joined (words (heading title)) := by
  unfold ofTitle
  rw [String.toList_ofList]
  exact trimHyphens_hyphenate (heading title)

/-- Words of kept characters with one hyphen between two of them; nothing, if there is no
    word. -/
def IsSlug (text : String) : Prop :=
  ∃ ws : List String, (∀ w ∈ ws, w ≠ "" ∧ ∀ c ∈ w.toList, isKept c = true) ∧
    text = "-".intercalate ws

theorem isSlug_iff {text : String} :
    IsSlug text ↔ ∃ ws, (∀ w ∈ ws, IsRun w) ∧ text.toList = joined ws := by
  constructor
  · intro ⟨ws, hws, h⟩
    refine ⟨ws.map String.toList, ?_, ?_⟩
    · intro w hw
      obtain ⟨v, hv, rfl⟩ := List.mem_map.mp hw
      exact ⟨fun e => (hws v hv).1 (String.toList_eq_nil_iff.mp e), (hws v hv).2⟩
    · rw [h, String.toList_intercalate]
      rfl
  · intro ⟨ws, hws, h⟩
    refine ⟨ws.map String.ofList, ?_, ?_⟩
    · intro v hv
      obtain ⟨w, hw, rfl⟩ := List.mem_map.mp hv
      refine ⟨fun e => (hws w hw).ne_nil ?_, ?_⟩
      · rw [← String.toList_ofList (l := w), e]
        rfl
      · rw [String.toList_ofList]
        exact (hws w hw).kept
    · rw [← String.toList_inj, h, String.toList_intercalate, List.map_map]
      have hid : String.toList ∘ String.ofList = id := by
        funext w
        exact String.toList_ofList
      rw [hid, List.map_id]
      rfl

theorem isSlug_ofTitle (title : String) : IsSlug (ofTitle title) :=
  isSlug_iff.mpr ⟨_, isRun_of_mem_words, toList_ofTitle title⟩

/-! ## 4. Slugs of slugs -/

theorem mem_joined (h : ∀ w ∈ ws, IsRun w) (hc : c ∈ joined ws) : isKept c = true ∨ c = '-' := by
  induction ws with
  | nil => exact absurd hc List.not_mem_nil
  | cons w ws ih =>
    rw [joined_cons] at hc
    rcases List.mem_append.mp hc with hc | hc
    · exact Or.inl ((h w List.mem_cons_self).kept c hc)
    · split at hc
      · exact absurd hc List.not_mem_nil
      · rcases List.mem_cons.mp hc with hc | hc
        · exact Or.inr hc
        · exact ih (fun v hv => h v (List.mem_cons_of_mem _ hv)) hc

/-- What a slug is made of is in lower case, separates nothing and ends no heading. -/
theorem slugCharacter (h : isKept c = true ∨ c = '-') :
    lowerChar c = [c] ∧ c ≠ capitalSigma ∧ c ≠ emDash ∧ isBlank c = false := by
  have hall : ∀ n < 123, isKept (Char.ofNat n) = true ∨ Char.ofNat n = '-' →
      lowerChar (Char.ofNat n) = [Char.ofNat n] ∧ Char.ofNat n ≠ capitalSigma ∧
        Char.ofNat n ≠ emDash ∧ isBlank (Char.ofNat n) = false := by decide +kernel
  have hlt : c.toNat < 123 := by
    unfold isKept at h
    simp only [Bool.or_eq_true, Bool.and_eq_true, decide_eq_true_eq] at h
    rcases h with (⟨_, h⟩ | ⟨_, h⟩) | rfl
    · exact Nat.lt_succ_of_le h
    · exact Nat.lt_of_le_of_lt h (by decide)
    · decide
  rw [← Char.ofNat_toNat c] at h ⊢
  exact hall c.toNat hlt h

theorem lower_eq_self (h : ∀ c ∈ s, isKept c = true ∨ c = '-') : lower s = s := by
  have hsigma : capitalSigma ∉ s := fun hm => (slugCharacter (h _ hm)).2.1 rfl
  rw [lower_eq_lowerWithin, lowerWithin_of_sigma_notMem hsigma]
  clear hsigma
  induction s with
  | nil => rfl
  | cons c s ih =>
    rw [List.flatMap_cons, (slugCharacter (h c List.mem_cons_self)).1,
      ih fun d hd => h d (List.mem_cons_of_mem _ hd), List.singleton_append]

/-- A text of such characters is its own heading. -/
theorem heading_eq_self {text : String} (h : ∀ c ∈ text.toList, isKept c = true ∨ c = '-') :
    heading text = text.toList := by
  have hdash : ∀ c ∈ text.toList, (c != emDash) = true := fun c hc =>
    bne_iff_ne.mpr (slugCharacter (h c hc)).2.2.1
  unfold heading
  rw [lower_eq_self h, List.takeWhile_eq_self_iff.mpr hdash]
  exact strip_of_no_blank fun c hc => (slugCharacter (h c hc)).2.2.2

/-- **The texts that are the slugs of themselves** are the slugs. -/
theorem ofTitle_eq_self_iff {text : String} : ofTitle text = text ↔ IsSlug text := by
  constructor
  · intro h
    rw [← h]
    exact isSlug_ofTitle text
  · intro h
    obtain ⟨ws, hws, htext⟩ := isSlug_iff.mp h
    have hchars : ∀ c ∈ text.toList, isKept c = true ∨ c = '-' := fun c hc =>
      mem_joined hws (htext ▸ hc)
    rw [← String.toList_inj, toList_ofTitle, heading_eq_self hchars, htext, words_joined hws]

/-! ## 5. The em dash -/

/-- Nothing behind an em dash says how what stands before it is lowered. -/
theorem lower_emDash (before after : List Char) :
    ∃ rest, lower (before ++ [emDash] ++ after) = lower before ++ emDash :: rest := by
  have hignorable : isIgnorable emDash = false := by decide +kernel
  have hcased : isCased emDash = false := by decide +kernel
  have hlower : lowerChar emDash = [emDash] := by decide +kernel
  have hafter : casedAfter false ([emDash] ++ after) = false := by
    rw [List.singleton_append, casedAfter_cons, hignorable, hcased]
    rfl
  have hdash : ∀ cased goesOn, lowerWithin cased goesOn [emDash] = [emDash] := by
    intro cased goesOn
    rw [lowerWithin_of_sigma_notMem (by decide), List.flatMap_singleton, hlower]
  rw [lower_append_append, hafter, hdash, ← lower_eq_lowerWithin, List.append_assoc,
    List.singleton_append]
  exact ⟨_, rfl⟩

theorem takeWhile_append_cons {p : Char → Bool} (h : p c = false) (s rest : List Char) :
    (s ++ c :: rest).takeWhile p = s.takeWhile p := by
  induction s with
  | nil => simp [h]
  | cons d s ih => simp [List.takeWhile_cons, ih]

/-- **The heading ends before the em dash**, whatever comes after it. -/
theorem heading_emDash (before after : String) :
    heading (before ++ "—" ++ after) = heading before := by
  have hdash : ("—" : String).toList = [emDash] := rfl
  obtain ⟨rest, hrest⟩ := lower_emDash before.toList after.toList
  unfold heading
  rw [String.toList_append, String.toList_append, hdash, hrest, takeWhile_append_cons (by decide)]

/-! ## 6. Every title -/

/-- **What every title gives**: words of letters a to z and digits with single hyphens
    between them, or nothing; a name that is its own slug, as all names of this kind are and
    no others; and one that what comes after an em dash does not change. -/
theorem ofTitle_canonical :
    (∀ title, IsSlug (ofTitle title)) ∧
      (∀ title, ofTitle (ofTitle title) = ofTitle title) ∧
      (∀ text, ofTitle text = text ↔ IsSlug text) ∧
      ∀ before after, ofTitle (before ++ "—" ++ after) = ofTitle before := by
  refine ⟨isSlug_ofTitle, fun title => ?_, fun text => ofTitle_eq_self_iff, fun before after => ?_⟩
  · exact ofTitle_eq_self_iff.mpr (isSlug_ofTitle title)
  · rw [← String.toList_inj, toList_ofTitle, toList_ofTitle, heading_emDash]

/-- A sigma at the end of a word, a capital that becomes two characters, and two dashes. -/
example : ofTitle " 2 ΟΔΟΣ—Σ—İ" = "2" ∧ ofTitle "İstanbul -- A  b!" = "i-stanbul-a-b" := by
  decide +kernel

end Portfolio.Slug
