/-
  File:      Portfolio/Text/Find.lean
  Subject:   A text inside of another text.

  * `indexOf?`: where a needle first occurs.
  * `slice`: the characters between two offsets, where an offset below
    zero counts from the end.
-/
namespace Portfolio.Text

/-- The offset of the first occurrence of `needle`. -/
def indexOf? (needle : List Char) : List Char → Option Nat
  | [] => if needle = [] then some 0 else none
  | c :: rest =>
    if needle.isPrefixOf (c :: rest) then some 0 else (indexOf? needle rest).map (· + 1)

/-- The needle occurs. -/
def occurs (needle text : List Char) : Bool :=
  (indexOf? needle text).isSome

/-- An offset made absolute: one below zero counts from the end, and none
    lies outside of the text. -/
def clampOffset (size : Nat) (offset : Int) : Nat :=
  if offset < 0 then (offset + size).toNat else min offset.toNat size

/-- The characters from the first offset up to the second. -/
def slice (s : List Char) (first last : Int) : List Char :=
  let first := clampOffset s.length first
  let last := clampOffset s.length last
  (s.take last).drop first

end Portfolio.Text
