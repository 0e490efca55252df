/-
  File:      Portfolio/Proofs/Text/Find.lean
  Subject:   What it means that a needle is found.

  * `prefix_drop_of_indexOf?`: at the offset that is found stands the needle.
  * `indexOf?_eq_none_iff`: nothing is found exactly if the needle is no part
    of the text.
  * `infix_of_infix_append`: what shares no character with a needle can be taken away
    before a text, and after it, without losing the needle.
  * `part`: the characters between two offsets, both counted from the start;
    adjoining parts make one (`part_append_part`).
-/
import Portfolio.Text.Find

namespace Portfolio.Text

variable {needle text : List Char}

theorem prefix_drop_of_indexOf? {k : Nat} (h : indexOf? needle text = some k) :
    needle <+: text.drop k := by
  induction text generalizing k with
  | nil =>
    unfold indexOf? at h
    split at h
    · rename_i hn
      exact hn ▸ List.nil_prefix
    · cases h
  | cons c rest ih =>
    unfold indexOf? at h
    split at h
    · rename_i hp
      cases h
      exact List.isPrefixOf_iff_prefix.mp hp
    · obtain ⟨j, hj, rfl⟩ := Option.map_eq_some_iff.mp h
      exact ih hj

theorem le_length_of_indexOf? {k : Nat} (h : indexOf? needle text = some k) : k ≤ text.length := by
  induction text generalizing k with
  | nil =>
    unfold indexOf? at h
    split at h
    · cases h
      exact Nat.zero_le _
    · cases h
  | cons c rest ih =>
    unfold indexOf? at h
    split at h
    · cases h
      exact Nat.zero_le _
    · obtain ⟨j, hj, rfl⟩ := Option.map_eq_some_iff.mp h
      exact Nat.succ_le_succ (ih hj)

/-- **Nothing is found exactly if the needle is no part of the text.** -/
theorem indexOf?_eq_none_iff : indexOf? needle text = none ↔ ¬ needle <:+: text := by
  induction text with
  | nil =>
    unfold indexOf?
    rw [List.infix_nil]
    split
    · rename_i hn
      exact ⟨fun h => (nomatch h), fun h => absurd hn h⟩
    · rename_i hn
      exact ⟨fun _ => hn, fun _ => rfl⟩
  | cons c rest ih =>
    unfold indexOf?
    rw [List.infix_cons_iff]
    by_cases hp : needle.isPrefixOf (c :: rest) = true
    · rw [if_pos hp]
      exact ⟨fun h => (nomatch h), fun h => absurd (Or.inl (List.isPrefixOf_iff_prefix.mp hp)) h⟩
    · rw [if_neg hp, Option.map_eq_none_iff, ih, not_or]
      exact ⟨fun h => ⟨fun hc => hp (List.isPrefixOf_iff_prefix.mpr hc), h⟩, And.right⟩

theorem exists_indexOf?_of_infix (h : needle <:+: text) : ∃ k, indexOf? needle text = some k := by
  cases hk : indexOf? needle text with
  | none => exact absurd h (indexOf?_eq_none_iff.mp hk)
  | some k => exact ⟨k, rfl⟩

/-! ## Needles apart from what stands around a text -/

/-- A needle is found in the text itself if its first character is not in what stands
    before the text. -/
theorem infix_of_cons_infix_append {c : Char} {before : List Char} (hc : c ∉ before)
    (h : c :: needle <:+: before ++ text) : c :: needle <:+: text := by
  induction before with
  | nil => exact h
  | cons b before ih =>
    rcases List.infix_cons_iff.mp h with hp | hi
    · -- the needle would start with the character before
      exact absurd ((List.cons_prefix_cons.mp hp).1 ▸ List.mem_cons_self) hc
    · exact ih (fun hb => hc (List.mem_cons_of_mem _ hb)) hi

/-- A needle that shares no character with what stands before a text is found in the
    text itself. -/
theorem infix_of_infix_append {before : List Char} (hne : needle ≠ [])
    (hd : ∀ c ∈ needle, c ∉ before) (h : needle <:+: before ++ text) : needle <:+: text := by
  obtain ⟨c, more, rfl⟩ := List.exists_cons_of_ne_nil hne
  exact infix_of_cons_infix_append (hd c List.mem_cons_self) h

theorem infix_of_append_infix {after : List Char} (hne : needle ≠ [])
    (hd : ∀ c ∈ needle, c ∉ after) (h : needle <:+: text ++ after) : needle <:+: text := by
  rw [← List.reverse_infix] at h ⊢
  rw [List.reverse_append] at h
  have hne' : needle.reverse ≠ [] := fun e => hne (List.reverse_eq_nil_iff.mp e)
  refine infix_of_infix_append hne' (fun c hc ha => ?_) h
  exact hd c (List.mem_reverse.mp hc) (List.mem_reverse.mp ha)

/-! ## Parts of a text -/

/-- The characters from one offset up to another. -/
def part (s : List Char) (first last : Nat) : List Char :=
  (s.take last).drop first

theorem take_append_part (s : List Char) {i j : Nat} (h : i ≤ j) :
    s.take i ++ part s i j = s.take j := by
  have hi : (s.take j).take i = s.take i := by rw [List.take_take, Nat.min_eq_left h]
  unfold part
  rw [← hi, List.take_append_drop]

theorem part_append_drop (s : List Char) {i j : Nat} (h : i ≤ j) :
    part s i j ++ s.drop j = s.drop i := by
  have hs : s.take i ++ (part s i j ++ s.drop j) = s.take i ++ s.drop i := by
    rw [← List.append_assoc, take_append_part s h, List.take_append_drop, List.take_append_drop]
  exact List.append_cancel_left hs

theorem part_append_part (s : List Char) {i j k : Nat} (h : i ≤ j) (h' : j ≤ k) :
    part s i j ++ part s j k = part s i k := by
  have ht := part_append_drop (s.take k) h
  unfold part at ht ⊢
  rwa [List.take_take, Nat.min_eq_left h'] at ht

theorem take_append_part_append_drop (s : List Char) {i j : Nat} (h : i ≤ j) :
    s.take i ++ part s i j ++ s.drop j = s := by
  rw [take_append_part s h, List.take_append_drop]

theorem part_isInfix (s : List Char) (i j : Nat) : part s i j <:+: s :=
  (List.drop_suffix i _).isInfix.trans (List.take_prefix j s).isInfix

theorem length_part (s : List Char) (i j : Nat) : (part s i j).length = min j s.length - i := by
  unfold part
  rw [List.length_drop, List.length_take]

theorem slice_natCast (s : List Char) (first last : Nat) :
    slice s first last = part s first last := by
  have hc : ∀ k : Nat, clampOffset s.length k = min k s.length := by
    intro k
    unfold clampOffset
    rw [if_neg (by omega), Int.toNat_natCast]
  unfold slice part
  dsimp only
  rw [hc, hc, ← List.take_eq_take_min, List.drop_eq_drop_iff, List.length_take]
  omega

end Portfolio.Text
