/-
  File:      Portfolio/Proofs/Search/Snippet.lean
  Subject:   What a snippet shows of a match.

  * `snippetChars_natCast`: a snippet is a part of the text, with dots where text
    is left out before or after it.
  * `shift`: how many capital i's with a dot stand before an offset in the lower case, each
    of which takes two characters there. `infix_lowerWithin_part`: a match in the lower case
    of a text comes from a part of the text that begins as much earlier.
  * `Showable`: the lower case moves no match of the keyword out of its snippet,
    and no sigma in it takes its form from beyond the snippet.
    `infix_lower_snippetChars`: then the snippet shows the match.
-/
import Portfolio.Proofs.Text.Case
import Portfolio.Proofs.Text.Find
import Portfolio.Search

namespace Portfolio.Search

open Portfolio.Text

variable {s needle : List Char} {o r : Nat}

/-! ## 1. Windows -/

/-- **A snippet is a part of the text**, with dots where text is left out. -/
theorem snippetChars_natCast (s : List Char) (o n r : Nat) :
    snippetChars s o n r =
      (if r < o then dots else []) ++ part s (o - r) (o + n + r) ++
        (if o + n + r < s.length then dots else []) := by
  have hf : max 0 ((o : Int) - r) = ((o - r : Nat) : Int) := by omega
  have hl : min (s.length : Int) (o + n + r) = ((min s.length (o + n + r) : Nat) : Int) := by omega
  have hp : part s (o - r) (min s.length (o + n + r)) = part s (o - r) (o + n + r) := by
    unfold part
    rw [Nat.min_comm, ← List.take_eq_take_min]
  unfold snippetChars
  dsimp only
  rw [hf, hl, slice_natCast, hp]
  congr 2
  · congr 1
    rw [eq_iff_iff]
    omega
  · rw [eq_iff_iff]
    omega

/-! ## 2. Where a match comes from -/

/-- What starts past a first text and ends within the second is a part of the
    second. -/
theorem infix_of_prefix_drop {a b c : List Char} (h : needle <+: (a ++ b ++ c).drop o)
    (ha : a.length ≤ o) (hb : o + needle.length ≤ (a ++ b).length) : needle <:+: b := by
  rw [List.append_assoc, List.drop_append, List.drop_eq_nil_of_le ha, List.nil_append] at h
  have hd : b.drop (o - a.length) <+: (b ++ c).drop (o - a.length) := by
    rw [List.drop_append]
    exact List.prefix_append _ _
  have hl : needle.length ≤ (b.drop (o - a.length)).length := by
    rw [List.length_append] at hb
    rw [List.length_drop]
    omega
  exact (List.prefix_of_prefix_length_le h hd hl).isInfix.trans (List.drop_suffix _ b).isInfix

theorem infix_lowerWithin_of_append {a b c : List Char}
    (h : needle <+: (lower (a ++ b ++ c)).drop o) (ha : a.length + a.count dottedI ≤ o)
    (hb : o + needle.length ≤ (a ++ b).length + (a ++ b).count dottedI) :
    needle <:+: lowerWithin (casedBefore false a) (casedAfter false c) b := by
  rw [lower_append_append] at h
  refine infix_of_prefix_drop h ?_ ?_
  · rwa [length_lowerWithin]
  · rw [List.length_append, List.count_append] at hb
    rw [List.length_append, length_lowerWithin, length_lowerWithin]
    omega

/-- The number of capital i's with a dot whose lower case begins before an offset. -/
def shift : List Char → Nat → Nat
  | [], _ => 0
  | _ :: _, 0 => 0
  | c :: rest, o + 1 => if c = dottedI then 1 + shift rest (o - 1) else shift rest o

/-- What is lowered before an offset begins as much before it as there are such i's. -/
theorem shift_le_and_count_le (s : List Char) (o : Nat) : shift s o ≤ o ∧
    shift s o ≤ s.count dottedI ∧ (s.take (o - shift s o)).count dottedI ≤ shift s o := by
  induction s, o using shift.induct with
  | case1 => simp [shift]
  | case2 => simp [shift]
  | case3 rest o ih =>
    obtain ⟨hle, hcount, htake⟩ := ih
    rw [shift, if_pos rfl, List.count_cons_self]
    -- the offset may lie between the two characters that such an i becomes
    cases o with
    | zero => exact ⟨by omega, by omega, by simp⟩
    | succ o =>
      rw [Nat.add_sub_cancel] at hle hcount htake ⊢
      have hoffset : o + 1 + 1 - (1 + shift rest o) = o - shift rest o + 1 := by omega
      rw [hoffset, List.take_succ_cons, List.count_cons_self]
      omega
  | case4 c rest o hc ih =>
    obtain ⟨hle, hcount, htake⟩ := ih
    have hoffset : o + 1 - shift rest o = o - shift rest o + 1 := by omega
    rw [shift, if_neg hc, Nat.succ_eq_add_one, hoffset, List.take_succ_cons,
      List.count_cons_of_ne hc, List.count_cons_of_ne hc]
    omega

/-- What is lowered before an offset begins within the text if the offset is within its
    lower case. -/
theorem start_le_length (h : o ≤ (lower s).length) : o - shift s o ≤ s.length := by
  rw [lower_eq_lowerWithin, length_lowerWithin] at h
  induction s, o using shift.induct with
  | case1 => simpa [shift] using h
  | case2 => simp
  | case3 rest o ih =>
    rw [List.length_cons, List.count_cons_self] at h
    have hstart := ih (by omega)
    rw [shift, if_pos rfl, List.length_cons]
    omega
  | case4 c rest o hc ih =>
    rw [List.length_cons, List.count_cons_of_ne hc] at h
    have hstart := ih (by omega)
    rw [shift, if_neg hc, List.length_cons]
    omega

/-- **A match in the lower case comes from a part of the text** that begins as much earlier
    as there are capital i's with a dot before it, and ends no later. -/
theorem infix_lowerWithin_part (h : needle <+: (lower s).drop o) (ho : o ≤ (lower s).length)
    {d : Nat} (hd : shift s o = d) :
    needle <:+: lowerWithin (casedBefore false (s.take (o - d)))
      (casedAfter false (s.drop (o + needle.length))) (part s (o - d) (o + needle.length)) := by
  subst hd
  have hs := take_append_part_append_drop s (by omega : o - shift s o ≤ o + needle.length)
  have hlen := h.length_le
  rw [List.length_drop] at hlen
  rw [lower_eq_lowerWithin, length_lowerWithin] at hlen ho
  refine infix_lowerWithin_of_append (o := o) (by rwa [hs]) ?_ ?_
  · -- what stands before the part does not reach into the match
    obtain ⟨hle, _, htake⟩ := shift_le_and_count_le s o
    rw [List.length_take]
    omega
  · -- the match does not reach beyond the part
    rw [take_append_part s (by omega), List.length_take]
    by_cases hj : o + needle.length ≤ s.length
    · omega
    · rw [List.take_of_length_le (by omega)]
      omega

/-! ## 3. Texts whose matches are shown -/

/-- A text of which the snippet shows what was found, `r` characters around: the
    lower case moves the match by at most as much, and where the keyword has a sigma,
    no run of ignorable characters is so long that what decides the form of a sigma
    lies beyond the snippet. -/
structure Showable (r : Nat) (needle s : List Char) : Prop where
  near : ∀ o, indexOf? needle (lower s) = some o → shift s o ≤ r
  told : 'σ' ∈ needle.map plainSigma → capitalSigma ∈ s →
    ∀ o, indexOf? needle (lower s) = some o → ∀ run, run <:+: s →
      (∀ c ∈ run, isIgnorable c = true) → run.length + shift s o < r

/-- A text that is shown whole is such a text. -/
theorem showable_of_short (h : s.length + s.count dottedI < r) : Showable r needle s where
  near o _ := by
    have hshift := (shift_le_and_count_le s o).2.1
    omega
  told _ _ o _ run hrun _ := by
    have hshift := (shift_le_and_count_le s o).2.1
    have hlength := hrun.length_le
    omega

/-- A part of the text that is as long as what a snippet shows for certain has a
    character that says something about a sigma. -/
theorem Showable.exists_telling (hs : Showable r needle s) (hn : 'σ' ∈ needle.map plainSigma)
    (hm : capitalSigma ∈ s) (ho : indexOf? needle (lower s) = some o) {i j : Nat}
    (hl : r ≤ (part s i j).length + shift s o) : ∃ c ∈ part s i j, isIgnorable c = false := by
  refine Classical.byContradiction fun hne => ?_
  have ha : ∀ c ∈ part s i j, isIgnorable c = true := by simpa using hne
  exact absurd (hs.told hn hm o ho _ (part_isInfix s i j) ha) (Nat.not_lt.mpr hl)

/-- On the left of a match the snippet says of its sigmas what the text says. -/
theorem Showable.casedBefore_left (hs : Showable r needle s) (hn : 'σ' ∈ needle.map plainSigma)
    (hm : capitalSigma ∈ s) (ho : indexOf? needle (lower s) = some o) {d : Nat}
    (hd : shift s o = d) (hstart : o - d ≤ s.length) :
    casedBefore false ((if r < o then dots else []) ++ part s (o - r) (o - d)) =
      casedBefore false (s.take (o - d)) := by
  subst hd
  have hr := hs.near o ho
  rw [← take_append_part s (by omega : o - r ≤ o - shift s o)]
  split
  · obtain ⟨c, hc, hi⟩ := hs.exists_telling hn hm ho (i := o - r) (j := o - shift s o)
      (by rw [length_part]; omega)
    rw [casedBefore_append, casedBefore_append]
    exact casedBefore_congr hc hi _ _
  · rw [Nat.sub_eq_zero_of_le (by omega : o ≤ r), List.take_zero]

/-- On the right of a match the snippet says of its sigmas what the text says. -/
theorem Showable.casedAfter_right (hs : Showable r needle s) (hn : 'σ' ∈ needle.map plainSigma)
    (hm : capitalSigma ∈ s) (ho : indexOf? needle (lower s) = some o) (e : Nat) :
    casedAfter false (part s e (e + r) ++ (if e + r < s.length then dots else [])) =
      casedAfter false (s.drop e) := by
  rw [← part_append_drop s (by omega : e ≤ e + r)]
  split
  · obtain ⟨c, hc, hi⟩ := hs.exists_telling hn hm ho (i := e) (j := e + r)
      (by rw [length_part]; omega)
    rw [casedAfter_append, casedAfter_append]
    exact casedAfter_congr hc hi _ _
  · rw [List.drop_eq_nil_of_le (by omega : s.length ≤ e + r)]

/-- **The snippet shows the match**: its lower case holds what was found in the
    lower case of the text. -/
theorem infix_lower_snippetChars (h : indexOf? needle (lower s) = some o)
    (hs : Showable r needle s) : needle <:+: lower (snippetChars s o needle.length r) := by
  have hr := hs.near o h
  have ho := le_length_of_indexOf? h
  have hw := infix_lowerWithin_part (prefix_drop_of_indexOf? h) ho rfl
  have hstart := start_le_length ho
  generalize hd : shift s o = d at hw hr hstart
  generalize hcore : part s (o - d) (o + needle.length) = core at hw
  have hp : part s (o - r) (o + needle.length + r) =
      part s (o - r) (o - d) ++
        (core ++ part s (o + needle.length) (o + needle.length + r)) := by
    rw [← hcore, part_append_part s (by omega) (by omega),
      part_append_part s (by omega) (by omega)]
  have hwin : ∀ a b c d e : List Char, a ++ (b ++ (c ++ d)) ++ e = a ++ b ++ c ++ (d ++ e) := by
    simp
  rw [snippetChars_natCast, hp, hwin, lower_append_append]
  refine List.IsInfix.trans ?_ (List.infix_append _ _ _)
  by_cases hn : 'σ' ∈ needle.map plainSigma
  · by_cases hm : capitalSigma ∈ s
    · rw [hs.casedBefore_left hn hm h hd hstart, hs.casedAfter_right hn hm h]
      exact hw
    · have hc : capitalSigma ∉ core := fun hx => hm ((hcore ▸ part_isInfix s _ _).subset hx)
      rw [lowerWithin_of_sigma_notMem hc] at hw ⊢
      exact hw
  · exact infix_lowerWithin_congr hn hw _ _

end Portfolio.Search
