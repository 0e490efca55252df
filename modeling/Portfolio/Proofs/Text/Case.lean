/-
  File:      Portfolio/Proofs/Text/Case.lean
  Subject:   The lower case of a part of a text.

  * `lowerWithin`: the lower case of a part, given what its surroundings say: if
    a character with a case comes before it, and if the word goes on after it.
    A text is lowered part by part (`lowerWithin_append`).
  * `length_lowerWithin`: only the capital i with a dot becomes longer.
  * `LaterSigma`: two lower cases of one part in different surroundings differ in
    final sigmas only, and those are the more, the more surroundings call for one
    (`laterSigma_lowerWithin`).
  * `LowersAlike`: a text whose lower case is the same in all surroundings. Just
    such a text is found, lowered, in the lower case of every text that holds it
    (`infix_lower_iff`).
-/
import Mathlib.Data.List.Forall2
import Portfolio.Text.Case

namespace Portfolio.Text

variable {cased cased' goesOn goesOn' : Bool} {s t : List Char}

/-! ## 1. What the surroundings say -/

/-- The last character before the end of the part that is not ignorable has a
    case; `cased` says so of what comes before the part. -/
def casedBefore (cased : Bool) (s : List Char) : Bool :=
  s.foldl (fun cased c => if isIgnorable c then cased else isCased c) cased

/-- The first character from the start of the part on that is not ignorable has a
    case; `goesOn` says so of what comes after the part. -/
def casedAfter (goesOn : Bool) (s : List Char) : Bool :=
  match s.dropWhile isIgnorable with
  | [] => goesOn
  | c :: _ => isCased c

theorem casedBefore_append (cased : Bool) (s t : List Char) :
    casedBefore cased (s ++ t) = casedBefore (casedBefore cased s) t :=
  List.foldl_append

theorem casedAfter_cons (goesOn : Bool) (c : Char) (s : List Char) :
    casedAfter goesOn (c :: s) = if isIgnorable c then casedAfter goesOn s else isCased c := by
  unfold casedAfter
  by_cases hc : isIgnorable c = true
  · rw [List.dropWhile_cons_of_pos hc, if_pos hc]
  · rw [List.dropWhile_cons_of_neg hc, if_neg hc]

theorem casedAfter_append (goesOn : Bool) (s t : List Char) :
    casedAfter goesOn (s ++ t) = casedAfter (casedAfter goesOn t) s := by
  induction s with
  | nil => rfl
  | cons c s ih => rw [List.cons_append, casedAfter_cons, casedAfter_cons, ih]

theorem casedBefore_of_all_ignorable (h : ∀ c ∈ s, isIgnorable c = true) (cased : Bool) :
    casedBefore cased s = cased := by
  induction s with
  | nil => rfl
  | cons c s ih =>
    have hc := h c List.mem_cons_self
    unfold casedBefore at ih ⊢
    rw [List.foldl_cons, if_pos hc]
    exact ih fun d hd => h d (List.mem_cons_of_mem _ hd)

theorem casedAfter_of_all_ignorable (h : ∀ c ∈ s, isIgnorable c = true) (goesOn : Bool) :
    casedAfter goesOn s = goesOn := by
  induction s with
  | nil => rfl
  | cons c s ih =>
    rw [casedAfter_cons, if_pos (h c List.mem_cons_self)]
    exact ih fun d hd => h d (List.mem_cons_of_mem _ hd)

/-- Past a character that is not ignorable it does not matter what comes
    before. -/
theorem casedBefore_congr {c : Char} (hc : c ∈ s) (hi : isIgnorable c = false)
    (cased cased' : Bool) : casedBefore cased s = casedBefore cased' s := by
  induction s generalizing cased cased' with
  | nil => exact absurd hc List.not_mem_nil
  | cons d s ih =>
    unfold casedBefore at ih ⊢
    rw [List.foldl_cons, List.foldl_cons]
    rcases List.mem_cons.mp hc with rfl | hc
    · rw [hi]
      rfl
    · exact ih hc _ _

theorem casedAfter_congr {c : Char} (hc : c ∈ s) (hi : isIgnorable c = false)
    (goesOn goesOn' : Bool) : casedAfter goesOn s = casedAfter goesOn' s := by
  induction s with
  | nil => exact absurd hc List.not_mem_nil
  | cons d s ih =>
    rw [casedAfter_cons, casedAfter_cons]
    rcases List.mem_cons.mp hc with rfl | hc
    · rw [hi]
      rfl
    · rw [ih hc]

theorem casedBefore_capitalSigma (cased : Bool) : casedBefore cased [capitalSigma] = true := by
  have hi : isIgnorable capitalSigma = false := by decide +kernel
  have hc : isCased capitalSigma = true := by decide +kernel
  unfold casedBefore
  rw [List.foldl_cons, hi, List.foldl_nil, hc]
  rfl

/-! ## 2. The lower case of a part -/

/-- The lower case of one character of a text. -/
def lowerOne (cased goesOn : Bool) (c : Char) : List Char :=
  if c = capitalSigma then [if cased && !goesOn then 'ς' else 'σ'] else lowerChar c

/-- The lower case of a part of a text. -/
def lowerWithin (cased goesOn : Bool) : List Char → List Char
  | [] => []
  | c :: rest =>
    lowerOne cased (casedAfter goesOn rest) c ++ lowerWithin (casedBefore cased [c]) goesOn rest

theorem lowerAfter_eq_lowerWithin (cased : Bool) (s : List Char) :
    lowerAfter cased s = lowerWithin cased false s := by
  induction s generalizing cased with
  | nil => rfl
  | cons c rest ih =>
    unfold lowerAfter lowerWithin lowerOne
    by_cases hc : c = capitalSigma
    · rw [if_pos hc, if_pos hc, ih, hc, casedBefore_capitalSigma]
      rfl
    · rw [if_neg hc, if_neg hc, ih]
      rfl

theorem lower_eq_lowerWithin (s : List Char) : lower s = lowerWithin false false s :=
  lowerAfter_eq_lowerWithin false s

/-- **A text is lowered part by part.** -/
theorem lowerWithin_append (cased goesOn : Bool) (s t : List Char) :
    lowerWithin cased goesOn (s ++ t) =
      lowerWithin cased (casedAfter goesOn t) s ++ lowerWithin (casedBefore cased s) goesOn t := by
  induction s generalizing cased with
  | nil => rfl
  | cons c s ih =>
    rw [List.cons_append, lowerWithin, lowerWithin, ih, casedAfter_append, List.append_assoc]
    rfl

/-- The lower case of a part in its place in a text. -/
theorem lower_append_append (s t u : List Char) :
    lower (s ++ t ++ u) =
      lowerWithin false (casedAfter false (t ++ u)) s ++
        lowerWithin (casedBefore false s) (casedAfter false u) t ++
          lowerWithin (casedBefore false (s ++ t)) false u := by
  rw [lower_eq_lowerWithin, lowerWithin_append, lowerWithin_append, casedAfter_append]

/-! ## 3. Lengths -/

/-- The capital i with a dot, whose lower case is two characters. -/
def dottedI : Char := 'İ'

theorem length_lowerChar (c : Char) :
    (lowerChar c).length = if c = dottedI then 2 else 1 := by
  have hi : c = dottedI ↔ c.toNat = 0x130 :=
    ⟨fun h => h ▸ rfl, fun h => Char.toNat_inj.mp h⟩
  unfold lowerChar tableImage lowerSpecial
  by_cases hc : c.toNat = 0x130
  · rw [if_pos (hi.mpr hc), hc]
    rfl
  · rw [if_neg (mt hi.mp hc)]
    rw [List.lookup_cons, beq_false_of_ne hc, List.lookup_nil]
    dsimp only
    split
    · rfl
    · split <;> rfl

theorem length_lowerOne (cased goesOn : Bool) (c : Char) :
    (lowerOne cased goesOn c).length = if c = dottedI then 2 else 1 := by
  unfold lowerOne
  split
  · rename_i hc
    have hd : capitalSigma ≠ dottedI := by decide
    rw [hc, if_neg hd, List.length_singleton]
  · exact length_lowerChar c

/-- **Only the capital i with a dot becomes longer.** -/
theorem length_lowerWithin (cased goesOn : Bool) (s : List Char) :
    (lowerWithin cased goesOn s).length = s.length + s.count dottedI := by
  induction s generalizing cased with
  | nil => rfl
  | cons c s ih =>
    rw [lowerWithin, List.length_append, length_lowerOne, ih, List.length_cons, List.count_cons]
    by_cases hc : c = dottedI
    · rw [if_pos hc, if_pos (beq_iff_eq.mpr hc)]
      omega
    · rw [if_neg hc, if_neg (mt beq_iff_eq.mp hc)]
      omega

/-! ## 4. Final sigmas -/

/-- The same character, or a sigma and the final one. -/
def LaterSigma (c d : Char) : Prop :=
  c = d ∨ c = 'σ' ∧ d = 'ς'

theorem forall₂_laterSigma_refl (s : List Char) : List.Forall₂ LaterSigma s s :=
  List.forall₂_same.mpr fun _ _ => Or.inl rfl

theorem casedBefore_mono (h : cased = true → cased' = true) (s : List Char)
    (hs : casedBefore cased s = true) : casedBefore cased' s = true := by
  by_cases hi : ∃ c ∈ s, isIgnorable c = false
  · obtain ⟨c, hc, hi⟩ := hi
    rw [← hs]
    exact casedBefore_congr hc hi _ _
  · have ha : ∀ c ∈ s, isIgnorable c = true := by simpa using hi
    rw [casedBefore_of_all_ignorable ha] at hs ⊢
    exact h hs

theorem casedAfter_mono (h : goesOn' = true → goesOn = true) (s : List Char)
    (hs : casedAfter goesOn' s = true) : casedAfter goesOn s = true := by
  by_cases hi : ∃ c ∈ s, isIgnorable c = false
  · obtain ⟨c, hc, hi⟩ := hi
    rw [← hs]
    exact casedAfter_congr hc hi _ _
  · have ha : ∀ c ∈ s, isIgnorable c = true := by simpa using hi
    rw [casedAfter_of_all_ignorable ha] at hs ⊢
    exact h hs

theorem laterSigma_lowerOne (hb : cased = true → cased' = true)
    (hg : goesOn' = true → goesOn = true) (c : Char) :
    List.Forall₂ LaterSigma (lowerOne cased goesOn c) (lowerOne cased' goesOn' c) := by
  unfold lowerOne
  split
  · refine List.Forall₂.cons ?_ List.Forall₂.nil
    cases cased <;> cases cased' <;> cases goesOn <;> cases goesOn' <;>
      simp_all [LaterSigma]
  · exact forall₂_laterSigma_refl _

/-- **The more the surroundings call for final sigmas, the more there are**, and
    nothing else becomes different. -/
theorem laterSigma_lowerWithin (cased goesOn cased' goesOn' : Bool)
    (hb : cased = true → cased' = true) (hg : goesOn' = true → goesOn = true) (s : List Char) :
    List.Forall₂ LaterSigma (lowerWithin cased goesOn s) (lowerWithin cased' goesOn' s) := by
  induction s generalizing cased cased' with
  | nil => exact List.Forall₂.nil
  | cons c s ih =>
    refine List.rel_append (laterSigma_lowerOne hb (casedAfter_mono hg s) c) ?_
    exact ih _ _ (casedBefore_mono hb [c])

/-- How many sigmas become final is seen at either count. -/
theorem exists_count_of_laterSigma (h : List.Forall₂ LaterSigma s t) :
    ∃ k, s.count 'σ' = t.count 'σ' + k ∧ t.count 'ς' = s.count 'ς' + k ∧ (k = 0 → s = t) := by
  induction h with
  | nil => exact ⟨0, rfl, rfl, fun _ => rfl⟩
  | @cons c d s t hcd _ ih =>
    obtain ⟨k, hs, ht, he⟩ := ih
    rcases hcd with rfl | ⟨rfl, rfl⟩
    · refine ⟨k, ?_, ?_, fun hk => by rw [he hk]⟩
      · rw [List.count_cons, List.count_cons, hs]
        omega
      · rw [List.count_cons, List.count_cons, ht]
        omega
    · refine ⟨k + 1, ?_, ?_, fun hk => absurd hk (by omega)⟩
      · rw [List.count_cons_self, List.count_cons_of_ne (by decide), hs]
        omega
      · rw [List.count_cons_self, List.count_cons_of_ne (by decide), ht]
        omega

theorem eq_of_laterSigma (h : List.Forall₂ LaterSigma s t) (h' : List.Forall₂ LaterSigma t s) :
    s = t := by
  obtain ⟨k, hk, _, he⟩ := exists_count_of_laterSigma h
  obtain ⟨k', hk', _, _⟩ := exists_count_of_laterSigma h'
  exact he (by omega)

theorem lowerOne_of_ne {c : Char} (hc : c ≠ capitalSigma) (cased goesOn : Bool) :
    lowerOne cased goesOn c = lowerChar c :=
  if_neg hc

/-- Without a capital sigma the surroundings do not matter. -/
theorem lowerWithin_of_sigma_notMem (h : capitalSigma ∉ s) (cased goesOn : Bool) :
    lowerWithin cased goesOn s = s.flatMap lowerChar := by
  induction s generalizing cased with
  | nil => rfl
  | cons c s ih =>
    have hc : c ≠ capitalSigma := fun e => h (e ▸ List.mem_cons_self)
    rw [lowerWithin, lowerOne_of_ne hc, ih fun hm => h (List.mem_cons_of_mem _ hm),
      List.flatMap_cons]

/-- The sigma that does not say where it stands. -/
def plainSigma (c : Char) : Char :=
  if c = 'ς' then 'σ' else c

theorem map_plainSigma_of_laterSigma (h : List.Forall₂ LaterSigma s t) :
    s.map plainSigma = t.map plainSigma := by
  induction h with
  | nil => rfl
  | cons hcd _ ih =>
    rcases hcd with rfl | ⟨rfl, rfl⟩
    · rw [List.map_cons, List.map_cons, ih]
    · rw [List.map_cons, List.map_cons, ih]
      rfl

/-- But for the form of the sigmas the surroundings do not matter. -/
theorem map_plainSigma_lowerWithin (cased goesOn cased' goesOn' : Bool) (s : List Char) :
    (lowerWithin cased goesOn s).map plainSigma =
      (lowerWithin cased' goesOn' s).map plainSigma := by
  have h : ∀ b g, (lowerWithin b g s).map plainSigma = (lowerWithin true false s).map plainSigma :=
    fun b g => map_plainSigma_of_laterSigma
      (laterSigma_lowerWithin b g true false (fun _ => rfl) (fun e => (nomatch e)) s)
  rw [h, h cased']

theorem map_plainSigma_eq_self (h : 'σ' ∉ s.map plainSigma) : s.map plainSigma = s := by
  induction s with
  | nil => rfl
  | cons c s ih =>
    rw [List.map_cons, List.mem_cons, not_or] at h
    have hc : plainSigma c = c := if_neg fun e => h.1 (by rw [e]; rfl)
    rw [List.map_cons, hc, ih h.2]

/-- What holds no sigma is found in the lower case of a part whatever surrounds
    the part. -/
theorem infix_lowerWithin_congr {needle : List Char} (h : 'σ' ∉ needle.map plainSigma)
    (hn : needle <:+: lowerWithin cased goesOn s) (cased' goesOn' : Bool) :
    needle <:+: lowerWithin cased' goesOn' s := by
  have hm := List.IsInfix.map plainSigma hn
  rw [map_plainSigma_lowerWithin cased goesOn cased' goesOn', List.infix_map_iff] at hm
  obtain ⟨found, hf, e⟩ := hm
  have hw : 'σ' ∉ found.map plainSigma := e ▸ h
  rw [map_plainSigma_eq_self h, map_plainSigma_eq_self hw] at e
  exact e ▸ hf

/-! ## 5. Texts that are lowered alike everywhere -/

/-- The lower case of the text is the same in all surroundings. -/
def LowersAlike (s : List Char) : Prop :=
  ∀ cased goesOn, lowerWithin cased goesOn s = lower s

theorem lowersAlike_of_sigma_notMem (h : capitalSigma ∉ s) : LowersAlike s := by
  intro cased goesOn
  rw [lower_eq_lowerWithin, lowerWithin_of_sigma_notMem h, lowerWithin_of_sigma_notMem h]

/-- In its place between two texts a text is lowered as on its own, if the
    surroundings there have it so. -/
theorem infix_lower_of_lowerWithin_eq {before after : List Char}
    (h : lowerWithin (casedBefore false before) (casedAfter false after) s = lower s) :
    lower s <:+: lower (before ++ s ++ after) := by
  rw [lower_append_append, h]
  exact List.infix_append _ _ _

/-- A letter with a case, or nothing: surroundings with a given answer. -/
def letterIf : Bool → List Char
  | true => ['a']
  | false => []

theorem casedBefore_letterIf (b : Bool) : casedBefore false (letterIf b) = b := by
  cases b
  · rfl
  · decide +kernel

theorem casedAfter_letterIf (g : Bool) : casedAfter false (letterIf g) = g := by
  cases g
  · rfl
  · decide +kernel

theorem lowerWithin_letterIf (cased goesOn b : Bool) :
    lowerWithin cased goesOn (letterIf b) = letterIf b := by
  cases b
  · rfl
  · rw [lowerWithin_of_sigma_notMem (by decide)]
    rfl

theorem count_le_of_infix_lower {b g : Bool} {c : Char} (hc : c ≠ 'a')
    (h : lower s <:+: lower (letterIf b ++ s ++ letterIf g)) :
    (lower s).count c ≤ (lowerWithin b g s).count c := by
  have hz : ∀ b, (letterIf b).count c = 0 := by
    intro b
    cases b
    · rfl
    · exact List.count_eq_zero.mpr fun hm => hc (List.mem_singleton.mp hm)
  have hle := h.sublist.count_le c
  rw [lower_append_append, casedBefore_letterIf, casedAfter_letterIf, lowerWithin_letterIf,
    lowerWithin_letterIf, List.count_append, List.count_append, hz, hz] at hle
  omega

/-- The surroundings that call most and least for final sigmas decide. -/
theorem lowersAlike_of_ends (hl : lowerWithin false true s = lower s)
    (hm : lowerWithin true false s = lower s) : LowersAlike s := by
  intro cased goesOn
  have hle := laterSigma_lowerWithin false true cased goesOn (fun e => (nomatch e)) (fun _ => rfl) s
  have hge := laterSigma_lowerWithin cased goesOn true false (fun _ => rfl) (fun e => (nomatch e)) s
  rw [hl] at hle
  rw [hm] at hge
  exact eq_of_laterSigma hge hle

/-- **A text is found in the lower case of every text that holds it exactly if it
    is lowered alike everywhere.** -/
theorem infix_lower_iff :
    (∀ before after, lower s <:+: lower (before ++ s ++ after)) ↔ LowersAlike s := by
  constructor
  · intro h
    refine lowersAlike_of_ends ?_ ?_
    · have hle := laterSigma_lowerWithin false true false false id (fun _ => rfl) s
      rw [← lower_eq_lowerWithin] at hle
      obtain ⟨k, _, hk, he⟩ := exists_count_of_laterSigma hle
      have hc := count_le_of_infix_lower (by decide : 'ς' ≠ 'a')
        (h (letterIf false) (letterIf true))
      exact he (by omega)
    · have hle := laterSigma_lowerWithin false false true false (fun _ => rfl) id s
      rw [← lower_eq_lowerWithin] at hle
      obtain ⟨k, hk, _, he⟩ := exists_count_of_laterSigma hle
      have hc := count_le_of_infix_lower (by decide : 'σ' ≠ 'a')
        (h (letterIf true) (letterIf false))
      exact (he (by omega)).symm
  · exact fun h before after => infix_lower_of_lowerWithin_eq (h _ _)

end Portfolio.Text
