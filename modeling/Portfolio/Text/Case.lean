/-
  File:      Portfolio/Text/Case.lean
  Subject:   Lower case and upper case of a text, over all of Unicode.

  * `lower`: character by character, save two rules: the capital i with a
    dot becomes two characters, and a capital sigma at the end of a word
    becomes the final sigma.
  * `upper`: character by character; a sharp s, a ligature or a letter
    with an unmatched accent becomes two or three characters.

  "The end of a word" is a matter of the surroundings: a character with a
  case comes before and none comes after, where ignorable characters
  (apostrophes, accents) are passed over on both sides.
-/
import Portfolio.Text.CaseTable

namespace Portfolio.Text

/-! ## 1. Looking into the tables -/

/-- Some range holds the code point. -/
def inRanges (ranges : List (Nat × Nat)) (n : Nat) : Bool :=
  ranges.any fun r => r.1 ≤ n && n ≤ r.2

/-- The image of a code point under the first run that holds it. -/
def runImage? (runs : List (Nat × Nat × Nat × Int)) (n : Nat) : Option Nat :=
  (runs.find? fun r => r.1 ≤ n && n ≤ r.2.1 && (n - r.1) % r.2.2.1 == 0).map fun r =>
    ((n : Int) + r.2.2.2).toNat

/-- The image of a code point beyond ASCII: special, by a run, or itself. -/
def tableImage (special : List (Nat × List Nat)) (runs : List (Nat × Nat × Nat × Int))
    (c : Char) : List Char :=
  match special.lookup c.toNat with
  | some image => image.map Char.ofNat
  | none =>
    match runImage? runs c.toNat with
    | some n => [Char.ofNat n]
    | none => [c]

/-! ## 2. One character -/

/-- The lower case of one character, whatever surrounds it. -/
def lowerChar (c : Char) : List Char :=
  if c.toNat < 0x80 then
    [if 0x41 ≤ c.toNat && c.toNat ≤ 0x5a then Char.ofNat (c.toNat + 0x20) else c]
  else tableImage lowerSpecial lowerRuns c

/-- The upper case of one character. -/
def upperChar (c : Char) : List Char :=
  if c.toNat < 0x80 then
    [if 0x61 ≤ c.toNat && c.toNat ≤ 0x7a then Char.ofNat (c.toNat - 0x20) else c]
  else tableImage upperSpecial upperRuns c

/-- A character with a case. -/
def isCased (c : Char) : Bool :=
  inRanges casedRanges c.toNat

/-- A character that is passed over when a word end is looked for. -/
def isIgnorable (c : Char) : Bool :=
  inRanges ignorableRanges c.toNat

/-! ## 3. A whole text -/

/-- The word goes on: the first character that is not ignorable has a
    case. -/
def wordGoesOn (rest : List Char) : Bool :=
  match rest.dropWhile isIgnorable with
  | [] => false
  | c :: _ => isCased c

/-- The capital sigma. -/
def capitalSigma : Char := 'Σ'

/-- Lower case, given whether the last character before that is not
    ignorable has a case. -/
def lowerAfter : Bool → List Char → List Char
  | _, [] => []
  | afterCased, c :: rest =>
    if c = capitalSigma then
      (if afterCased && !wordGoesOn rest then 'ς' else 'σ') :: lowerAfter true rest
    else
      lowerChar c ++ lowerAfter (if isIgnorable c then afterCased else isCased c) rest

/-- The lower case of a text. -/
def lower (s : List Char) : List Char :=
  lowerAfter false s

/-- The upper case of a text. -/
def upper (s : List Char) : List Char :=
  s.flatMap upperChar

end Portfolio.Text
