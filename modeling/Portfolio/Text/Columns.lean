/-
  File:      Portfolio/Text/Columns.lean
  Subject:   Breaking one line of text to a number of columns.

  * `columns`: how wide a text is. A joiner takes the columns from the
    character after it; a selector shows the symbol before it as a picture.
  * `clusters`: what is shown in one place, and never cut in two.
  * `words`: a word together with the blanks around it.
  * `breakOffsets`: before which characters a new line starts. A word that
    does not fit on the line goes to the next one; a word wider than a
    whole line is cut into pieces of full width.
  * `fold?`: the lines, each without the blanks that stand out at its end.
    There are none if a line is too wide and yet has no place to be cut.
-/
import Portfolio.Text.Blank
import Portfolio.Text.Case
import Portfolio.Text.WidthTable

namespace Portfolio.Text

/-! ## 1. Width -/

/-- The columns of one character on its own. -/
def columnsOf (c : Char) : Nat :=
  if 0x20 ≤ c.toNat && c.toNat ≤ 0x7e then 1
  else if inRanges zeroRanges c.toNat then 0
  else if inRanges wideRanges c.toNat then 2
  else 1

/-- The character that joins the next one to the one before. -/
def joiner : Char := '\u200d'

/-- The character that asks for a picture. -/
def selector : Char := '\ufe0f'

/-- A symbol of one column that takes two as a picture. -/
def isWidening (c : Char) : Bool :=
  inRanges wideningRanges c.toNat

/-- The columns of a text, where `joined` says that a joiner comes right
    before and `widening` that a picture would widen the last symbol. -/
def columnsFrom : Bool → Bool → List Char → Nat
  | _, _, [] => 0
  | true, widening, _ :: rest => columnsFrom false widening rest
  | false, widening, c :: rest =>
    if c = joiner then columnsFrom true widening rest
    else if c = selector then widening.toNat + columnsFrom false false rest
    else if columnsOf c = 0 then columnsFrom false widening rest
    else columnsOf c + columnsFrom false (isWidening c) rest

/-- The columns of a text. -/
def columns (s : List Char) : Nat :=
  columnsFrom false false s

/-! ## 2. Clusters -/

/-- Characters that are shown in one place. -/
structure Cluster where
  chars : List Char
  columns : Nat
  deriving DecidableEq, Repr

/-- The cluster with one more character. -/
def Cluster.add (k : Cluster) (c : Char) (more : Nat) : Cluster :=
  ⟨k.chars ++ [c], k.columns + more⟩

/-- The clusters of a text, given the one under way; `joined` and
    `widening` are as for the columns. -/
def clustersFrom : Bool → Bool → Cluster → List Char → List Cluster
  | _, _, k, [] => [k]
  | true, widening, k, c :: rest => clustersFrom false widening (k.add c 0) rest
  | false, widening, k, c :: rest =>
    if c = joiner then clustersFrom true widening (k.add c 0) rest
    else if c = selector then clustersFrom false false (k.add c widening.toNat) rest
    else if columnsOf c = 0 then clustersFrom false widening (k.add c 0) rest
    else k :: clustersFrom false (isWidening c) ⟨[c], columnsOf c⟩ rest

/-- The clusters of a text. A joiner at its start has nothing to join to. -/
def clusters : List Char → List Cluster
  | [] => []
  | c :: rest => clustersFrom false (isWidening c) ⟨[c], columnsOf c⟩ rest

/-- The columns that clusters take side by side. A joiner at the start of a
    text joins nothing here, and takes the columns from the character after
    it in `columns`, so the two may differ. -/
def clusterColumns : List Cluster → Nat
  | [] => 0
  | k :: rest => k.columns + clusterColumns rest

/-! ## 3. Words -/

/-- The words, each with the blanks after it; the first one with the
    blanks before it too. `begun` says that the word under way has begun,
    `ended` that blanks have followed it. -/
def wordsFrom : Bool → Bool → List Char → List Char → List (List Char)
  | begun, _, word, [] => if begun then [word.reverse] else []
  | begun, ended, word, c :: rest =>
    if isBlank c then wordsFrom begun begun (c :: word) rest
    else if ended then word.reverse :: wordsFrom true false [c] rest
    else wordsFrom true false (c :: word) rest

/-- The words of a line, blanks included. A line of blanks has no word. -/
def words (line : List Char) : List (List Char) :=
  wordsFrom false false [] line

/-! ## 4. Where lines break -/

/-- The pieces of a word that is wider than a line, given the piece under
    way and the columns that it takes. -/
def piecesFrom (width : Nat) : Nat → List Char → List Cluster → List (List Char)
  | _, piece, [] => [piece]
  | used, piece, k :: rest =>
    if used + k.columns > width then piece :: piecesFrom width k.columns k.chars rest
    else piecesFrom width (used + k.columns) (piece ++ k.chars) rest

/-- The pieces of a word that is wider than a line. -/
def pieces (width : Nat) (word : List Char) : List (List Char) :=
  piecesFrom width 0 [] (clusters word)

/-- The offsets at which the pieces of a word start. -/
def pieceOffsets : Nat → List (List Char) → List Nat
  | _, [] => []
  | start, piece :: rest =>
    (if start = 0 then [] else [start]) ++ pieceOffsets (start + piece.length) rest

/-- The offsets at which new lines start, given the offset of the next word
    and the columns in use on the line. -/
def breakOffsets (width : Nat) : Nat → Nat → List (List Char) → List Nat
  | _, _, [] => []
  | start, used, word :: rest =>
    let next := start + word.length
    let bare := columns (stripRight word)
    if used + bare ≤ width then breakOffsets width next (used + columns word) rest
    else if bare > width then
      let cut := pieces width word
      pieceOffsets start cut ++ breakOffsets width next (columns (cut.getLastD [])) rest
    else if 0 < used ∧ 0 < start then
      start :: breakOffsets width next (columns word) rest
    else breakOffsets width next used rest

/-- A text cut at ascending offsets, counted from `start`. -/
def cutAt : Nat → List Nat → List Char → List (List Char)
  | _, [], s => [s]
  | start, offset :: rest, s =>
    s.take (offset - start) :: cutAt offset rest (s.drop (offset - start))

/-! ## 5. The lines -/

/-- The line without those blanks at its end that exceed the width. Here
    every character counts as one, whatever its columns. -/
def trimExcess (width : Nat) (line : List Char) : List Char :=
  let blanks := (line.reverse.takeWhile isBlank).length
  line.take (line.length - min blanks (line.length - width))

/-- The clusters at the beginning that fit; spaces fill the place of one
    that is cut in half. -/
def cropClusters : Nat → List Cluster → List Char
  | _, [] => []
  | room, k :: rest =>
    if k.columns ≤ room then k.chars ++ cropClusters (room - k.columns) rest
    else List.replicate room ' '

/-- The line, or as much of it as fits. A line that is too wide although its
    clusters do not fill the width has no place to be cut. -/
def crop? (width : Nat) (line : List Char) : Option (List Char) :=
  if columns line ≤ width then some line
  else if clusterColumns (clusters line) < width then none
  else some (cropClusters width (clusters line))

/-- One line of text as lines of at most `width` columns, unless one of them
    has no place to be cut. -/
def fold? (width : Nat) (line : List Char) : Option (List (List Char)) :=
  (cutAt 0 (breakOffsets width 0 0 (words line)) line).mapM fun piece =>
    crop? width (trimExcess width piece)

end Portfolio.Text
