/-
  File:      Portfolio/Slug.lean
  Subject:   Names that are safe in a path, derived from titles.

  * `ofTitle`: the lower-case letters a to z and the digits of what stands
    before the first em dash, every run of other characters as one hyphen,
    and no hyphen at the ends.
  * `unique`: a file name that is not taken, with the smallest number that
    makes it so.
-/
import Portfolio.Error
import Portfolio.Text.Blank
import Portfolio.Text.Case

namespace Portfolio.Slug

open Portfolio.Text

/-! ## 1. Slugs -/

/-- What ends the part of a title that names the project. -/
def emDash : Char := '—'

/-- A character that a slug keeps. -/
def isKept (c : Char) : Bool :=
  ('a' ≤ c && c ≤ 'z') || ('0' ≤ c && c ≤ '9')

/-- Every run of characters that are not kept becomes one hyphen;
    `inRun` says that the hyphen of the run under way is written. -/
def hyphenate : Bool → List Char → List Char
  | _, [] => []
  | inRun, c :: rest =>
    if isKept c then c :: hyphenate false rest
    else if inRun then hyphenate true rest
    else '-' :: hyphenate true rest

/-- A text without the hyphens at its ends. -/
def trimHyphens (s : List Char) : List Char :=
  ((s.dropWhile (· == '-')).reverse.dropWhile (· == '-')).reverse

/-- The slug of a title. -/
def ofTitle (title : String) : String :=
  let head := strip ((lower title.toList).takeWhile (· != emDash))
  String.ofList (trimHyphens (hyphenate false head))

/-! ## 2. File names -/

/-- The `k`-th candidate for a file name: the bare one, then numbered. -/
def candidate (base ext : String) : Nat → String
  | 0 => base ++ "." ++ ext
  | k + 1 => base ++ "-" ++ countText (k + 1) ++ "." ++ ext

/-- The names other than the given one. -/
def others (name : String) (taken : List String) : List String :=
  taken.filter (· ≠ name)

theorem length_others_lt {name : String} {taken : List String} (h : name ∈ taken) :
    (others name taken).length < taken.length := by
  unfold others
  rw [List.length_filter_lt_length_iff_exists]
  exact ⟨name, h, by simp⟩

/-- The first candidate from the `k`-th on that is not taken. A name that
    is taken can be forgotten, since no later candidate is equal to it. -/
def uniqueFrom (base ext : String) (k : Nat) (taken : List String) : String :=
  if candidate base ext k ∈ taken then
    uniqueFrom base ext (k + 1) (others (candidate base ext k) taken)
  else candidate base ext k
termination_by taken.length
decreasing_by exact length_others_lt (by assumption)

/-- The first candidate that is not taken. -/
def unique (base ext : String) (taken : List String) : String :=
  uniqueFrom base ext 0 taken

end Portfolio.Slug
