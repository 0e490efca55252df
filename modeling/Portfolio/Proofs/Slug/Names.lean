/-
  File:      Portfolio/Proofs/Slug/Names.lean
  Subject:   Slugs and file names as names in a path.

  * `mem_ofTitle`: a slug has no character but letters, digits and hyphens,
    so it holds no slash, and unless it is empty it is a name that leads on
    (`isName_ofTitle`). It can be empty.
  * `candidate_inj`: two candidates for a file name are different.
  * `uniqueFrom_spec`: the file name that is found is the first candidate that
    is not taken; it is a name that leads on (`isName_unique`).
  * `FirstFree`: the bare name if it is free, else the one with the least number that is;
    the name that is found is the only one of this kind (`firstFree_iff`).
-/
import Portfolio.Proofs.Path.Canonical
import Portfolio.Slug

namespace Portfolio

/-! ## 1. Numbers in names -/

theorem countText_inj {m n : Nat} (h : countText m = countText n) : m = n := by
  have ht : Nat.toDigits 10 m = Nat.toDigits 10 n := by
    simpa [countText] using congrArg String.toList h
  have hv := congrArg (fun s => Nat.ofDigitChars 10 s 0) ht
  simpa [Nat.ofDigitChars_toDigits] using hv

theorem slash_notMem_countText (n : Nat) : '/' ∉ (countText n).toList := by
  intro h
  unfold countText at h
  rw [String.toList_ofList] at h
  have := Nat.isDigit_of_mem_toDigits (by decide) (by decide) h
  exact absurd this (by decide)

namespace Slug

/-! ## 2. Slugs -/

theorem mem_hyphenate {c : Char} {s : List Char} {inRun : Bool} (h : c ∈ hyphenate inRun s) :
    isKept c = true ∨ c = '-' := by
  induction s generalizing inRun with
  | nil => exact absurd h List.not_mem_nil
  | cons d rest ih =>
    unfold hyphenate at h
    split at h
    · rename_i hd
      rcases List.mem_cons.mp h with rfl | h
      · exact Or.inl hd
      · exact ih h
    · split at h
      · exact ih h
      · rcases List.mem_cons.mp h with rfl | h
        · exact Or.inr rfl
        · exact ih h

theorem mem_trimHyphens {c : Char} {s : List Char} (h : c ∈ trimHyphens s) : c ∈ s := by
  unfold trimHyphens at h
  rw [List.mem_reverse] at h
  have h1 := (List.dropWhile_suffix _).subset h
  rw [List.mem_reverse] at h1
  exact (List.dropWhile_suffix _).subset h1

/-- **A slug has no other characters than those that it keeps and hyphens.** -/
theorem mem_ofTitle {c : Char} {title : String} (h : c ∈ (ofTitle title).toList) :
    isKept c = true ∨ c = '-' := by
  unfold ofTitle at h
  rw [String.toList_ofList] at h
  exact mem_hyphenate (mem_trimHyphens h)

theorem slash_notMem_ofTitle (title : String) : '/' ∉ (ofTitle title).toList := by
  intro h
  exact absurd (mem_ofTitle h) (by decide)

theorem dot_notMem_ofTitle (title : String) : '.' ∉ (ofTitle title).toList := by
  intro h
  exact absurd (mem_ofTitle h) (by decide)

/-- A slug that is not empty leads on. -/
theorem isName_ofTitle {title : String} (h : ofTitle title ≠ "") : Path.IsName (ofTitle title) where
  ne_empty := h
  no_slash := slash_notMem_ofTitle title
  ne_dot e := dot_notMem_ofTitle title (by rw [e]; decide)
  ne_dots e := dot_notMem_ofTitle title (by rw [e]; decide)

/-! ## 3. Candidates -/

theorem toList_candidate_zero (base ext : String) :
    (candidate base ext 0).toList = base.toList ++ '.' :: ext.toList := by
  simp [candidate, String.toList_append]

theorem toList_candidate_succ (base ext : String) (k : Nat) :
    (candidate base ext (k + 1)).toList =
      base.toList ++ '-' :: ((countText (k + 1)).toList ++ '.' :: ext.toList) := by
  simp [candidate, String.toList_append]

/-- **Two candidates are different.** -/
theorem candidate_inj {base ext : String} {j k : Nat}
    (h : candidate base ext j = candidate base ext k) : j = k := by
  have ht := congrArg String.toList h
  cases j with
  | zero =>
    cases k with
    | zero => rfl
    | succ k =>
      rw [toList_candidate_zero, toList_candidate_succ] at ht
      have hc := List.append_cancel_left ht
      exact absurd (List.cons.inj hc).1 (by decide)
  | succ j =>
    cases k with
    | zero =>
      rw [toList_candidate_zero, toList_candidate_succ] at ht
      have hc := List.append_cancel_left ht
      exact absurd (List.cons.inj hc).1 (by decide)
    | succ k =>
      rw [toList_candidate_succ, toList_candidate_succ] at ht
      have hc := (List.cons.inj (List.append_cancel_left ht)).2
      exact countText_inj (String.toList_inj.mp (List.append_cancel_right hc))

/-- A candidate is a base and an extension with a dot between them, so it
    leads on if the base and the extension do not bring it a slash. -/
theorem isName_candidate {base ext : String} (hb : '/' ∉ base.toList) (he : '/' ∉ ext.toList)
    (hl : 2 ≤ ext.length) (k : Nat) : Path.IsName (candidate base ext k) := by
  have hlen : 3 ≤ (candidate base ext k).length := by
    rw [← String.length_toList] at hl ⊢
    cases k with
    | zero => rw [toList_candidate_zero]; simp; omega
    | succ k => rw [toList_candidate_succ]; simp; omega
  refine ⟨⟨fun e => ?_, fun hm => ?_⟩, fun e => ?_, fun e => ?_⟩
  · rw [e] at hlen
    exact absurd hlen (by decide)
  · cases k with
    | zero =>
      rw [toList_candidate_zero] at hm
      simp [hb, he] at hm
    | succ k =>
      rw [toList_candidate_succ] at hm
      simp [hb, he, slash_notMem_countText] at hm
  · rw [e] at hlen
    exact absurd hlen (by decide)
  · rw [e] at hlen
    exact absurd hlen (by decide)

/-! ## 4. The candidate that is found -/

theorem mem_others {name n : String} {taken : List String} :
    n ∈ others name taken ↔ n ∈ taken ∧ n ≠ name := by
  unfold others
  simp

/-- **The first candidate from the `k`-th on that is not taken** is what is
    found, and every candidate before it is taken. -/
theorem uniqueFrom_spec (base ext : String) (k : Nat) (taken : List String) :
    ∃ j, k ≤ j ∧ uniqueFrom base ext k taken = candidate base ext j ∧
      candidate base ext j ∉ taken ∧ ∀ i, k ≤ i → i < j → candidate base ext i ∈ taken := by
  fun_induction uniqueFrom base ext k taken with
  | case1 k taken hm ih =>
    obtain ⟨j, hkj, he, hf, hb⟩ := ih
    refine ⟨j, by omega, he, fun hj => ?_, fun i hki hij => ?_⟩
    · -- the name forgotten on the way is not the one that is found
      refine hf (mem_others.mpr ⟨hj, fun e => ?_⟩)
      have := candidate_inj e
      omega
    · by_cases hi : i = k
      · exact hi ▸ hm
      · exact (mem_others.mp (hb i (by omega) hij)).1
  | case2 k taken hm => exact ⟨k, Nat.le_refl k, rfl, hm, fun i hki hik => by omega⟩

theorem isName_unique {base ext : String} (hb : '/' ∉ base.toList) (he : '/' ∉ ext.toList)
    (hl : 2 ≤ ext.length) (taken : List String) : Path.IsName (unique base ext taken) := by
  obtain ⟨j, _, hu, _⟩ := uniqueFrom_spec base ext 0 taken
  unfold unique
  rw [hu]
  exact isName_candidate hb he hl j

/-! ## 5. The rule for names -/

/-- The name with a number between base and extension. -/
def numberedName (base ext : String) (k : Nat) : String :=
  base ++ "-" ++ countText k ++ "." ++ ext

/-- The name is free: it is the bare one if that is free, and else the one with the
    least number from one on that makes it free. -/
structure FirstFree (base ext : String) (taken : List String) (name : String) : Prop where
  free : name ∉ taken
  bare : base ++ "." ++ ext ∉ taken → name = base ++ "." ++ ext
  numbered : base ++ "." ++ ext ∈ taken → ∃ k, 1 ≤ k ∧ name = numberedName base ext k ∧
    ∀ j, 1 ≤ j → j < k → numberedName base ext j ∈ taken

/-- The candidates are the bare name and the numbered ones. -/
theorem candidate_of_pos {base ext : String} {k : Nat} (hk : 1 ≤ k) :
    candidate base ext k = numberedName base ext k := by
  obtain ⟨j, rfl⟩ : ∃ j, k = j + 1 := ⟨k - 1, by omega⟩
  rfl

theorem firstFree_unique (base ext : String) (taken : List String) :
    FirstFree base ext taken (unique base ext taken) := by
  obtain ⟨k, _, hname, hfree, hbefore⟩ := uniqueFrom_spec base ext 0 taken
  have hunique : unique base ext taken = candidate base ext k := hname
  rw [hunique]
  refine ⟨hfree, fun hbare => ?_, fun htaken => ?_⟩
  · by_cases hk : k = 0
    · rw [hk]
      rfl
    · exact absurd (hbefore 0 (Nat.le_refl 0) (by omega)) hbare
  · have hk : k ≠ 0 := by
      rintro rfl
      exact hfree htaken
    refine ⟨k, by omega, candidate_of_pos (by omega), fun j hj hjk => ?_⟩
    rw [← candidate_of_pos hj]
    exact hbefore j (Nat.zero_le j) hjk

/-- **The rule leaves one name**, and it is the one that is found. -/
theorem firstFree_iff {base ext : String} {taken : List String} {name : String} :
    FirstFree base ext taken name ↔ name = unique base ext taken := by
  constructor
  · intro h
    have h' := firstFree_unique base ext taken
    by_cases hm : base ++ "." ++ ext ∈ taken
    · obtain ⟨k, hk, hname, hbefore⟩ := h.numbered hm
      obtain ⟨k', hk', hname', hbefore'⟩ := h'.numbered hm
      -- a smaller number of the two would be both free and taken
      have hle : ¬ k' < k := fun hlt => h'.free (hname' ▸ hbefore k' hk' hlt)
      have hge : ¬ k < k' := fun hlt => h.free (hname ▸ hbefore' k hk hlt)
      have hkk : k = k' := by omega
      rw [hname, hname', hkk]
    · rw [h.bare hm, h'.bare hm]
  · rintro rfl
    exact firstFree_unique base ext taken

end Slug

end Portfolio
