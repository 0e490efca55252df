/-
  File:      Portfolio/Text/Blank.lean
  Subject:   Blank characters, and a text without the blanks at its ends.

  * `isBlank`: the 29 characters that separate words.
  * `stripLeft`, `stripRight`, `strip`: what remains after blanks at the
    ends are taken away; the blanks between words stay.
-/
namespace Portfolio.Text

/-- The blank characters: tab to carriage return, the four separators of
    ASCII, the space, and the spaces and line separators of Unicode. -/
def isBlank (c : Char) : Bool :=
  let n := c.toNat
  (0x09 ≤ n && n ≤ 0x0d) || (0x1c ≤ n && n ≤ 0x20) || n == 0x85 || n == 0xa0 || n == 0x1680 ||
    (0x2000 ≤ n && n ≤ 0x200a) || n == 0x2028 || n == 0x2029 || n == 0x202f || n == 0x205f ||
    n == 0x3000

/-- A text without the blanks before its first word. -/
def stripLeft (s : List Char) : List Char :=
  s.dropWhile isBlank

/-- A text without the blanks after its last word. -/
def stripRight (s : List Char) : List Char :=
  (s.reverse.dropWhile isBlank).reverse

/-- A text without the blanks at either end. -/
def strip (s : List Char) : List Char :=
  stripRight (stripLeft s)

/-- Nothing but blanks; the empty text too. -/
def allBlank (s : List Char) : Bool :=
  s.all isBlank

/-- A stripped text starts with no blank. -/
theorem stripLeft_eq_self_of_head {c : Char} {s : List Char} (h : isBlank c = false) :
    stripLeft (c :: s) = c :: s := by
  simp [stripLeft, h]

/-- Only a text of blanks strips to nothing. -/
theorem stripLeft_eq_nil_iff (s : List Char) : stripLeft s = [] ↔ allBlank s = true := by
  induction s with
  | nil => exact ⟨fun _ => rfl, fun _ => rfl⟩
  | cons c s ih =>
    unfold stripLeft allBlank at ih ⊢
    cases h : isBlank c
    · rw [List.dropWhile_cons_of_neg (by simp [h]), List.all_cons, h]
      simp
    · rw [List.dropWhile_cons_of_pos h, List.all_cons, h, Bool.true_and]
      exact ih

end Portfolio.Text
