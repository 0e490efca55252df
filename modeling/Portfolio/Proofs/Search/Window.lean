/-
  File:      Portfolio/Proofs/Search/Window.lean
  Subject:   How much of a text a snippet shows.

  * `Window`: a text cut in three, with what is shown of it in the middle: the match and
    what stands up to a radius before it and after it. `window_part`: so the text is cut.
  * `Excerpt`: the piece with dots on the sides on which the window ends within the text.
  * `snippet_excerpts`: a snippet is such an excerpt, wherever in the text or past its end
    the match is said to be.
-/
import Portfolio.Proofs.Search.Snippet

namespace Portfolio.Search

open Portfolio.Text

/-! ## 1. Windows -/

/-- The text is cut in three for a match of so many characters at the offset `start`. The
    piece in the middle is what lies within `radius` characters of the match. Match and
    window may go past the end of the text, and begin there. -/
structure Window (content : String) (start length radius : Nat) (before piece after : String) :
    Prop where
  whole : before ++ piece ++ after = content
  length_before : before.length = min (start - radius) content.length
  length_after : after.length = content.length - (start + length + radius)
  length_piece : piece.length ≤ length + 2 * radius
  /-- A match that ends within the text stands in the piece, with as many characters on
      either side as the radius allows and the text has. -/
  around : start + length ≤ content.length → ∃ left found right : String,
    piece = left ++ found ++ right ∧
      (before ++ left).length = start ∧ found.length = length ∧
      left.length = min radius start ∧
      right.length = min radius (content.length - start - length)

/-- What lies in a window is what stands before the match in it, the match, and what
    stands after it. -/
theorem part_window (s : List Char) (o n r : Nat) :
    part s (o - r) (o + n + r) =
      part s (o - r) o ++ part s o (o + n) ++ part s (o + n) (o + n + r) := by
  rw [part_append_part s (by omega) (by omega), part_append_part s (by omega) (by omega)]

/-- **The characters between the two bounds of a window are its piece of the text.** -/
theorem window_part (content : String) (start length radius : Nat) :
    Window content start length radius
      (String.ofList (content.toList.take (start - radius)))
      (String.ofList (part content.toList (start - radius) (start + length + radius)))
      (String.ofList (content.toList.drop (start + length + radius))) where
  whole := by
    rw [← String.ofList_append, ← String.ofList_append,
      take_append_part_append_drop _ (by omega), String.ofList_toList]
  length_before := by
    rw [String.length_ofList, List.length_take, String.length_toList]
  length_after := by
    rw [String.length_ofList, List.length_drop, String.length_toList]
  length_piece := by
    rw [String.length_ofList, length_part]
    omega
  around h := by
    rw [← String.length_toList] at h ⊢
    refine ⟨String.ofList (part content.toList (start - radius) start),
      String.ofList (part content.toList start (start + length)),
      String.ofList (part content.toList (start + length) (start + length + radius)),
      ?_, ?_, ?_, ?_, ?_⟩
    · rw [part_window, String.ofList_append, String.ofList_append]
    · rw [← String.ofList_append, take_append_part _ (by omega), String.length_ofList,
        List.length_take]
      omega
    · rw [String.length_ofList, length_part]
      omega
    · rw [String.length_ofList, length_part]
      omega
    · rw [String.length_ofList, length_part]
      omega

/-! ## 2. Excerpts -/

/-- What is shown of a text around a match: its piece in the window, with dots before it
    exactly if the window begins past the first character, and dots after it exactly if the
    window ends before the last one. A text that the window covers is shown as it is. -/
structure Excerpt (content : String) (start length radius : Nat) (shown : String) : Prop where
  cut : ∃ before piece after : String,
    Window content start length radius before piece after ∧
    shown = (if radius < start then "..." else "") ++ piece ++
      (if start + length + radius < content.length then "..." else "")
  covered : start ≤ radius → content.length ≤ start + length + radius → shown = content

theorem ofList_dots (p : Prop) [Decidable p] :
    String.ofList (if p then dots else []) = if p then "..." else "" := by
  split <;> rfl

theorem snippet_natCast (content : String) (start length radius : Nat) :
    snippet content start length radius = (if radius < start then "..." else "") ++
      String.ofList (part content.toList (start - radius) (start + length + radius)) ++
      (if start + length + radius < content.length then "..." else "") := by
  unfold snippet
  rw [snippetChars_natCast, String.ofList_append, String.ofList_append, ofList_dots, ofList_dots,
    String.length_toList]

/-- **A snippet is an excerpt of its text**, wherever the match is said to be. -/
theorem snippet_excerpts (content : String) (start length radius : Nat) :
    Excerpt content start length radius (snippet content start length radius) where
  cut := ⟨_, _, _, window_part content start length radius,
    snippet_natCast content start length radius⟩
  covered hstart hend := by
    have hbefore : start - radius = 0 := by omega
    have hpiece : part content.toList 0 (start + length + radius) = content.toList := by
      unfold part
      rw [List.drop_zero, List.take_of_length_le (by rwa [String.length_toList])]
    rw [snippet_natCast, if_neg (by omega), if_neg (by omega), hbefore, hpiece,
      String.ofList_toList, String.empty_append, String.append_empty]

/-- The match begins in the text and ends past it; then it begins past the end. -/
example : snippet "abcdef" 4 5 1 = "...def" ∧ snippet "abcdef" 9 2 1 = "..." := by
  decide

end Portfolio.Search
