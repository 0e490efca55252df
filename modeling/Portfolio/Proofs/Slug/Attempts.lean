/-
  File:      Portfolio/Proofs/Slug/Attempts.lean
  Subject:   The search for a free file name, one attempt after the other.

  * `Attempt`: the name under test, and the number for the next one. `Attempt.round`: a
    name that is taken gives way to the next one, and a free name ends the search.
  * `Ends`: the search ends with a name after a number of rounds. It has one end at most
    (`Ends.inj`).
  * `le_card_of_taken`: as many candidates in a row as there are different names taken,
    and no more, can be taken.
  * `unique_found`: the search ends, with the name that is given.
-/
import Mathlib.Data.Finset.Card
import Mathlib.Data.Finset.Image
import Mathlib.Data.Finset.Range
import Portfolio.Proofs.Slug.Names

namespace Portfolio.Slug

/-! ## 1. Rounds -/

/-- A name under test, and the number that the next one gets. -/
structure Attempt where
  name : String
  next : Nat

/-- The bare name comes first. -/
def Attempt.first (base ext : String) : Attempt :=
  ⟨base ++ "." ++ ext, 1⟩

/-- One round: a name that is taken gives way to the one with the next number. There is no
    round for a name that is free. -/
def Attempt.round (base ext : String) (taken : List String) (a : Attempt) : Option Attempt :=
  if a.name ∈ taken then some ⟨numberedName base ext a.next, a.next + 1⟩ else none

/-- From the attempt on, the search ends with the name after so many rounds. -/
inductive Ends (base ext : String) (taken : List String) : Nat → Attempt → String → Prop where
  | free {a : Attempt} (h : a.round base ext taken = none) : Ends base ext taken 0 a a.name
  | goesOn {a b : Attempt} {rounds : Nat} {name : String}
      (h : a.round base ext taken = some b) (he : Ends base ext taken rounds b name) :
      Ends base ext taken (rounds + 1) a name

variable {base ext : String} {taken : List String}

/-- The search has one end at most. -/
theorem Ends.inj {a : Attempt} {rounds rounds' : Nat} {name name' : String}
    (h : Ends base ext taken rounds a name) (h' : Ends base ext taken rounds' a name') :
    rounds = rounds' ∧ name = name' := by
  induction h generalizing rounds' with
  | free hr =>
    cases h' with
    | free => exact ⟨rfl, rfl⟩
    | goesOn hr' => simp [hr] at hr'
  | goesOn hr _ ih =>
    cases h' with
    | free hr' => simp [hr] at hr'
    | goesOn hr' he' =>
      rw [hr] at hr'
      cases hr'
      obtain ⟨hrounds, hname⟩ := ih he'
      exact ⟨by omega, hname⟩

/-! ## 2. The candidates are the attempts -/

/-- The attempt with the `k`-th candidate. -/
def attempt (base ext : String) (k : Nat) : Attempt :=
  ⟨candidate base ext k, k + 1⟩

theorem first_eq_attempt (base ext : String) : Attempt.first base ext = attempt base ext 0 := rfl

theorem round_attempt_of_taken {k : Nat} (h : candidate base ext k ∈ taken) :
    (attempt base ext k).round base ext taken = some (attempt base ext (k + 1)) :=
  if_pos h

theorem round_attempt_of_free {k : Nat} (h : candidate base ext k ∉ taken) :
    (attempt base ext k).round base ext taken = none :=
  if_neg h

/-- Past the candidates that are taken the search comes to the first that is free. -/
theorem ends_attempt {k rounds : Nat} (hfree : candidate base ext (k + rounds) ∉ taken)
    (htaken : ∀ i, k ≤ i → i < k + rounds → candidate base ext i ∈ taken) :
    Ends base ext taken rounds (attempt base ext k) (candidate base ext (k + rounds)) := by
  induction rounds generalizing k with
  | zero => exact .free (round_attempt_of_free hfree)
  | succ rounds ih =>
    have hk : candidate base ext k ∈ taken := htaken k (by omega) (by omega)
    have hnext : k + (rounds + 1) = k + 1 + rounds := by omega
    rw [hnext] at hfree htaken ⊢
    exact .goesOn (round_attempt_of_taken hk)
      (ih hfree fun i hki hi => htaken i (by omega) (by omega))

/-- **As many candidates in a row as there are different names taken, and no more, can be
    taken**, for they are all different. -/
theorem le_card_of_taken {k : Nat} (h : ∀ i < k, candidate base ext i ∈ taken) :
    k ≤ taken.toFinset.card := by
  have hsub : (Finset.range k).image (candidate base ext) ⊆ taken.toFinset := by
    intro name hname
    obtain ⟨i, hi, rfl⟩ := Finset.mem_image.mp hname
    exact List.mem_toFinset.mpr (h i (Finset.mem_range.mp hi))
  calc k = (Finset.range k).card := (Finset.card_range k).symm
    _ = ((Finset.range k).image (candidate base ext)).card :=
      (Finset.card_image_of_injective _ fun _ _ => candidate_inj).symm
    _ ≤ taken.toFinset.card := Finset.card_le_card hsub

/-! ## 3. The name that is found -/

/-- What the search for a free name comes to. -/
structure Found (base ext : String) (taken : List String) (name : String) : Prop where
  /-- It ends with the name, after no more rounds than there are different names taken. -/
  ends : ∃ rounds ≤ taken.toFinset.card,
    Ends base ext taken rounds (Attempt.first base ext) name
  /-- It ends with no other. -/
  only : ∀ rounds name', Ends base ext taken rounds (Attempt.first base ext) name' → name' = name
  /-- The name is not taken. It is the bare one if that is free, and else the one with the
      least number that makes it free. -/
  firstFree : FirstFree base ext taken name

/-- **The search for a free name ends, with the first name that is free**, whatever the names
    are that are taken. -/
theorem unique_found (base ext : String) (taken : List String) :
    Found base ext taken (unique base ext taken) := by
  obtain ⟨k, _, hname, hfree, htaken⟩ := uniqueFrom_spec base ext 0 taken
  have hunique : unique base ext taken = candidate base ext k := hname
  have hends : Ends base ext taken k (Attempt.first base ext) (unique base ext taken) := by
    rw [hunique, first_eq_attempt]
    have h : Ends base ext taken k (attempt base ext 0) (candidate base ext (0 + k)) :=
      ends_attempt (by rwa [Nat.zero_add]) (by rwa [Nat.zero_add])
    rwa [Nat.zero_add] at h
  refine ⟨⟨k, ?_, hends⟩, fun _ _ h => (h.inj hends).2, firstFree_unique base ext taken⟩
  exact le_card_of_taken fun i hi => htaken i (Nat.zero_le i) hi

/-- Names are taken twice and out of order, and one number is passed over. -/
example : unique "a" "jpg" ["a-1.jpg", "a.jpg", "a-3.jpg", "a.jpg"] = "a-2.jpg" := by
  cbv

end Portfolio.Slug
