/-
  File:      Portfolio/Proofs/Text/Columns.lean
  Subject:   Which lines are printed as they are on a terminal of some width.

  * `Advance`: what one character does to the columns and the clusters of a text. All that
    is said of them here comes from `exists_advance`.
  * `columns_add_le`: two parts of a text take no more columns than both together. So its
    words take no more than it does (`sum_columns_words_le`), and a line is not broken if it
    takes no more columns than there are (`breakOffsets_words`).
  * `not_prefix_cropClusters`: what is cropped does not go on with all that it is cropped
    from.
  * `Fits`: a line takes no more columns than there are, nor more characters if it ends in
    a blank. `fold?_eq_singleton_iff`: exactly such a line is left as it is.
-/
import Mathlib
import Portfolio.Text.Columns

namespace Portfolio.Text

variable {joined widening : Bool} {c : Char} {s t : List Char} {k : Cluster} {width : Nat}

/-! ## 1. One character -/

/-- A character adds columns, and leads on to another state. It is added to the cluster
    under way, which gets no wider unless a picture widens it; or it begins a cluster, which
    is one column wide for a space. -/
structure Advance (joined widening : Bool) (c : Char) (more : Nat) (joined' widening' : Bool) :
    Prop where
  columns_eq : ∀ rest, columnsFrom joined widening (c :: rest) =
    more + columnsFrom joined' widening' rest
  not_joined : c ≠ joiner → joined' = false
  clusters_eq :
    (∀ k rest, clustersFrom joined widening k (c :: rest) =
        clustersFrom joined' widening' (k.add c more) rest) ∧
      (widening = false → more = 0 ∧ widening' = false) ∨
    (∀ k rest, clustersFrom joined widening k (c :: rest) =
        k :: clustersFrom joined' widening' ⟨[c], more⟩ rest) ∧
      (c = ' ' → more = 1 ∧ widening' = false)

/-- **Every character does one of these things.** -/
theorem exists_advance (joined widening : Bool) (c : Char) :
    ∃ more joined' widening', Advance joined widening c more joined' widening' := by
  have hspace : c = ' ' → columnsOf c = 1 ∧ isWidening c = false := by
    intro e
    rw [e]
    decide
  cases joined with
  | true =>
    refine ⟨0, false, widening, fun rest => ?_, fun _ => rfl, Or.inl ⟨fun _ _ => rfl, ?_⟩⟩
    · rw [columnsFrom, Nat.zero_add]
    · exact fun h => ⟨rfl, h⟩
  | false =>
    by_cases hj : c = joiner
    · refine ⟨0, true, widening, fun rest => ?_, fun h => absurd hj h,
        Or.inl ⟨fun k rest => ?_, fun h => ⟨rfl, h⟩⟩⟩
      · rw [columnsFrom, if_pos hj, Nat.zero_add]
      · rw [clustersFrom, if_pos hj]
    · by_cases hs : c = selector
      · refine ⟨widening.toNat, false, false, fun rest => ?_, fun _ => rfl,
          Or.inl ⟨fun k rest => ?_, fun h => ⟨by rw [h]; rfl, rfl⟩⟩⟩
        · rw [columnsFrom, if_neg hj, if_pos hs]
        · rw [clustersFrom, if_neg hj, if_pos hs]
      · by_cases hz : columnsOf c = 0
        · refine ⟨0, false, widening, fun rest => ?_, fun _ => rfl,
            Or.inl ⟨fun k rest => ?_, fun h => ⟨rfl, h⟩⟩⟩
          · rw [columnsFrom, if_neg hj, if_neg hs, if_pos hz, Nat.zero_add]
          · rw [clustersFrom, if_neg hj, if_neg hs, if_pos hz]
        · refine ⟨columnsOf c, false, isWidening c, fun rest => ?_, fun _ => rfl,
            Or.inr ⟨fun k rest => ?_, hspace⟩⟩
          · rw [columnsFrom, if_neg hj, if_neg hs, if_neg hz]
          · rw [clustersFrom, if_neg hj, if_neg hs, if_neg hz]

/-! ## 2. The columns of parts -/

@[simp] theorem columnsFrom_nil (joined widening : Bool) : columnsFrom joined widening [] = 0 := by
  cases joined <;> rfl

/-- **A text takes the columns of its first part and those of the rest, read on from there.**
    Nothing is joined there unless the first part ends in a joiner. -/
theorem exists_columnsFrom_append (joined widening : Bool) (s : List Char) :
    ∃ joined' widening', (∀ c, s.getLast? = some c → c ≠ joiner → joined' = false) ∧
      ∀ t, columnsFrom joined widening (s ++ t) =
        columnsFrom joined widening s + columnsFrom joined' widening' t := by
  induction s generalizing joined widening with
  | nil => exact ⟨joined, widening, nofun, fun t => by simp⟩
  | cons c rest ih =>
    obtain ⟨more, joined₁, widening₁, hc⟩ := exists_advance joined widening c
    obtain ⟨joined₂, widening₂, hjoined, happend⟩ := ih joined₁ widening₁
    cases rest with
    | nil =>
      refine ⟨joined₁, widening₁, fun d hd hne => hc.not_joined ?_, fun t => ?_⟩
      · rwa [Option.some.inj (List.getLast?_singleton.symm.trans hd)]
      · rw [List.singleton_append, hc.columns_eq, hc.columns_eq, columnsFrom_nil, Nat.add_zero]
    | cons d rest =>
      refine ⟨joined₂, widening₂, fun e he => hjoined e ?_, fun t => ?_⟩
      · rwa [List.getLast?_cons_cons] at he
      · rw [List.cons_append, hc.columns_eq, hc.columns_eq, happend, Nat.add_assoc]

theorem columns_le_append (s t : List Char) : columns s ≤ columns (s ++ t) := by
  obtain ⟨_, _, _, happend⟩ := exists_columnsFrom_append false false s
  unfold columns
  rw [happend]
  exact Nat.le_add_right _ _

/-- A symbol that a picture would widen makes no text narrower. -/
theorem columnsFrom_false_le (joined widening : Bool) (s : List Char) :
    columnsFrom joined false s ≤ columnsFrom joined widening s := by
  induction s generalizing joined with
  | nil => simp
  | cons c rest ih =>
    cases joined with
    | true =>
      rw [columnsFrom, columnsFrom]
      exact ih false
    | false =>
      rw [columnsFrom, columnsFrom]
      split
      · exact ih true
      · split
        · simp
        · split
          · exact ih false
          · exact Nat.le_refl _

/-- **Two parts take no more columns than both together**, if the first one does not end in
    a joiner. -/
theorem columns_add_le (hl : s.getLast? = some c) (hc : c ≠ joiner) (t : List Char) :
    columns s + columns t ≤ columns (s ++ t) := by
  obtain ⟨joined', widening', hjoined, happend⟩ := exists_columnsFrom_append false false s
  unfold columns
  rw [happend, hjoined c hl hc]
  exact Nat.add_le_add_left (columnsFrom_false_le false widening' t) _

/-! ## 3. Words -/

theorem ne_joiner_of_isBlank (h : isBlank c = true) : c ≠ joiner := by
  intro e
  rw [e] at h
  exact absurd h (by decide)

/-- A word that has ended ends in a blank, which joins nothing to the next word. -/
theorem sum_columns_wordsFrom_le {begun ended : Bool} {word text : List Char}
    (hended : ended = true → ∃ c, word.head? = some c ∧ isBlank c = true) :
    ((wordsFrom begun ended word text).map columns).sum ≤ columns (word.reverse ++ text) := by
  induction text generalizing begun ended word with
  | nil =>
    rw [wordsFrom, List.append_nil]
    split <;> simp
  | cons c rest ih =>
    have hcons : word.reverse ++ c :: rest = (c :: word).reverse ++ rest := by simp
    rw [wordsFrom]
    split
    · rename_i hb
      rw [hcons]
      exact ih fun _ => ⟨c, rfl, hb⟩
    · split
      · -- the word ends here, after a blank, so its columns and those of the rest add up
        rename_i he
        obtain ⟨d, hd, hb⟩ := hended he
        have hlast : word.reverse.getLast? = some d := by rw [List.getLast?_reverse, hd]
        have hrest : ((wordsFrom true false [c] rest).map columns).sum ≤ columns (c :: rest) :=
          ih nofun
        rw [List.map_cons, List.sum_cons]
        calc columns word.reverse + ((wordsFrom true false [c] rest).map columns).sum
            ≤ columns word.reverse + columns (c :: rest) := Nat.add_le_add_left hrest _
          _ ≤ columns (word.reverse ++ c :: rest) :=
            columns_add_le hlast (ne_joiner_of_isBlank hb) _
      · rw [hcons]
        exact ih nofun

/-- **The words of a line take no more columns than the line.** -/
theorem sum_columns_words_le (line : List Char) :
    ((words line).map columns).sum ≤ columns line :=
  @sum_columns_wordsFrom_le false false [] line nofun

theorem isPrefix_stripRight (s : List Char) : stripRight s <+: s := by
  unfold stripRight
  rw [← List.reverse_suffix, List.reverse_reverse]
  exact List.dropWhile_suffix _

theorem columns_stripRight_le (s : List Char) : columns (stripRight s) ≤ columns s := by
  obtain ⟨blanks, hs⟩ := isPrefix_stripRight s
  have hle := columns_le_append (stripRight s) blanks
  rwa [hs] at hle

/-- Words that fit side by side are not broken. -/
theorem breakOffsets_eq_nil {start used : Nat} {ws : List (List Char)}
    (h : used + (ws.map columns).sum ≤ width) : breakOffsets width start used ws = [] := by
  induction ws generalizing start used with
  | nil => rfl
  | cons word rest ih =>
    have hbare := columns_stripRight_le word
    rw [List.map_cons, List.sum_cons] at h
    rw [breakOffsets, if_pos (by omega)]
    exact ih (by omega)

/-- **A line that takes no more columns than there are is not broken.** -/
theorem breakOffsets_words {line : List Char} (h : columns line ≤ width) :
    breakOffsets width 0 0 (words line) = [] := by
  have hsum := sum_columns_words_le line
  exact breakOffsets_eq_nil (by omega)

/-! ## 4. Clusters -/

theorem flatMap_clustersFrom (joined widening : Bool) (k : Cluster) (s : List Char) :
    (clustersFrom joined widening k s).flatMap Cluster.chars = k.chars ++ s := by
  induction s generalizing joined widening k with
  | nil => cases joined <;> simp [clustersFrom]
  | cons c rest ih =>
    obtain ⟨more, joined', widening', hc⟩ := exists_advance joined widening c
    rcases hc.clusters_eq with ⟨h, _⟩ | ⟨h, _⟩
    · rw [h, ih]
      simp [Cluster.add]
    · rw [h, List.flatMap_cons, ih]
      simp

theorem clusterColumns_clustersFrom (joined widening : Bool) (k : Cluster) (s : List Char) :
    clusterColumns (clustersFrom joined widening k s) =
      k.columns + columnsFrom joined widening s := by
  induction s generalizing joined widening k with
  | nil => cases joined <;> simp [clustersFrom, clusterColumns]
  | cons c rest ih =>
    obtain ⟨more, joined', widening', hc⟩ := exists_advance joined widening c
    rcases hc.clusters_eq with ⟨h, _⟩ | ⟨h, _⟩
    · rw [h, ih, hc.columns_eq, Cluster.add, Nat.add_assoc]
    · rw [h, clusterColumns, ih, hc.columns_eq]

/-- The cluster has a character, and is one column wide at most if that is a space. -/
def Cluster.Solid (k : Cluster) : Prop :=
  ∃ c rest, k.chars = c :: rest ∧ (c = ' ' → k.columns ≤ 1)

/-- A space stays as narrow as it is, whatever is added to it. -/
theorem solid_clustersFrom {rest : List Char} (hchars : k.chars = c :: rest)
    (hspace : c = ' ' → k.columns ≤ 1 ∧ widening = false) :
    ∀ k' ∈ clustersFrom joined widening k s, k'.Solid := by
  induction s generalizing joined widening k c rest with
  | nil =>
    have hk : k.Solid := ⟨c, rest, hchars, fun e => (hspace e).1⟩
    cases joined <;> simpa [clustersFrom] using hk
  | cons d more ih =>
    obtain ⟨added, joined', widening', hd⟩ := exists_advance joined widening d
    rcases hd.clusters_eq with ⟨h, hadd⟩ | ⟨h, hnew⟩
    · rw [h]
      have hadded : (k.add d added).chars = c :: (rest ++ [d]) := by simp [Cluster.add, hchars]
      refine ih hadded fun e => ?_
      obtain ⟨hcolumns, hw⟩ := hspace e
      obtain ⟨hnone, hw'⟩ := hadd hw
      exact ⟨by simp [Cluster.add, hnone, hcolumns], hw'⟩
    · rw [h]
      refine List.forall_mem_cons.mpr ⟨⟨c, rest, hchars, fun e => (hspace e).1⟩, ?_⟩
      exact ih rfl fun e => ⟨Nat.le_of_eq (hnew e).1, (hnew e).2⟩

/-- What is cropped from clusters that are too wide does not start with all of them: the
    spaces in the place of the first one that is left out are no such cluster. -/
theorem not_prefix_cropClusters {ks : List Cluster} {room : Nat} (hks : ∀ k ∈ ks, k.Solid)
    (h : room < clusterColumns ks) : ¬ ks.flatMap Cluster.chars <+: cropClusters room ks := by
  induction ks generalizing room with
  | nil => exact absurd h (Nat.not_lt_zero room)
  | cons k rest ih =>
    obtain ⟨hk, hrest⟩ := List.forall_mem_cons.mp hks
    rw [clusterColumns] at h
    rw [cropClusters, List.flatMap_cons]
    split
    · rw [List.prefix_append_right_inj]
      exact ih hrest (by omega)
    · -- only spaces are left here, so the cluster would begin with one, and then it had room
      obtain ⟨c, more, hchars, hspace⟩ := hk
      intro hp
      have hc : c ∈ List.replicate room ' ' := hp.subset (by simp [hchars])
      obtain ⟨hroom, rfl⟩ := List.mem_replicate.mp hc
      have hcolumns := hspace rfl
      omega

/-! ## 5. Lines that fit -/

/-- A line takes no more columns than there are, nor more characters if it ends in a blank:
    of blanks that exceed the width each counts as one column. -/
structure Fits (width : Nat) (line : List Char) : Prop where
  columns_le : columns line ≤ width
  length_le : line.getLast?.any isBlank = true → line.length ≤ width

instance (width : Nat) (line : List Char) : Decidable (Fits width line) :=
  decidable_of_iff
    (columns line ≤ width ∧ (line.getLast?.any isBlank = true → line.length ≤ width))
    ⟨fun h => ⟨h.1, h.2⟩, fun h => ⟨h.columns_le, h.length_le⟩⟩

theorem isPrefix_trimExcess (width : Nat) (line : List Char) : trimExcess width line <+: line :=
  List.take_prefix _ _

/-- Nothing is taken away unless there are blanks that exceed the width. -/
theorem trimExcess_eq_self_iff (line : List Char) : trimExcess width line = line ↔
    (line.getLast?.any isBlank = true → line.length ≤ width) := by
  have hblanks : (line.reverse.takeWhile isBlank).length = 0 ↔
      ¬ line.getLast?.any isBlank = true := by
    rw [← List.head?_reverse]
    cases line.reverse with
    | nil => simp
    | cons c rest => cases hc : isBlank c <;> simp [hc]
  have hle := (List.takeWhile_prefix isBlank (l := line.reverse)).length_le
  rw [List.length_reverse] at hle
  have hkept : trimExcess width line = line ↔ line.length ≤
      line.length - min (line.reverse.takeWhile isBlank).length (line.length - width) :=
    List.take_eq_self_iff line
  rw [hkept, Decidable.imp_iff_not_or, ← hblanks]
  omega

/-- The clusters of a text take its columns, if its first character takes some. -/
theorem clusterColumns_clusters (hc : columnsOf c ≠ 0) (rest : List Char) :
    clusterColumns (clusters (c :: rest)) = columns (c :: rest) := by
  have hj : c ≠ joiner := by
    rintro rfl
    exact hc (by decide +kernel)
  have hs : c ≠ selector := by
    rintro rfl
    exact hc (by decide +kernel)
  unfold clusters columns
  rw [clusterColumns_clustersFrom, columnsFrom, if_neg hj, if_neg hs, if_neg hc]

theorem solid_clusters (c : Char) (rest : List Char) :
    ∀ k ∈ clusters (c :: rest), k.Solid := by
  refine solid_clustersFrom rfl ?_
  rintro rfl
  decide

/-- **A line is cropped to itself, or to the beginning of another one**: what is cropped from
    a beginning of the line that is too wide is not the line. -/
theorem eq_of_crop?_eq_some {text rest : List Char} (hc : columnsOf c ≠ 0)
    (ht : text <+: c :: rest) (h : crop? width text = some (c :: rest)) :
    text = c :: rest ∧ columns text ≤ width := by
  unfold crop? at h
  split at h
  · rename_i hle
    exact ⟨Option.some.inj h, hle⟩
  · rename_i hwide
    exfalso
    split at h
    · cases h
    · cases text with
      | nil => exact hwide (Nat.zero_le width)
      | cons d more =>
        obtain ⟨rfl, _⟩ := List.cons_prefix_cons.mp ht
        have hcolumns := clusterColumns_clusters hc more
        have hnot : ¬ (clusters (d :: more)).flatMap Cluster.chars <+:
            cropClusters width (clusters (d :: more)) :=
          not_prefix_cropClusters (solid_clusters d more) (by omega)
        rw [Option.some.inj h] at hnot
        refine hnot ?_
        rwa [clusters, flatMap_clustersFrom]

theorem mapM_eq_singleton {α β : Type} {f : α → Option β} {xs : List α} {y : β}
    (h : xs.mapM f = some [y]) : ∃ x, xs = [x] ∧ f x = some y := by
  cases xs with
  | nil => cases h
  | cons x rest =>
    rw [List.mapM_cons] at h
    obtain ⟨z, hz, h⟩ := Option.bind_eq_some_iff.mp h
    obtain ⟨zs, hzs, h⟩ := Option.bind_eq_some_iff.mp h
    cases h
    cases rest with
    | nil => exact ⟨x, rfl, hz⟩
    | cons x' rest =>
      rw [List.mapM_cons] at hzs
      obtain ⟨_, _, h⟩ := Option.bind_eq_some_iff.mp hzs
      obtain ⟨_, _, h⟩ := Option.bind_eq_some_iff.mp h
      cases h

/-- Only what is not cut anywhere is left in one piece. -/
theorem cutAt_eq_singleton {start : Nat} {offsets : List Nat} {line piece : List Char}
    (h : cutAt start offsets line = [piece]) : piece = line := by
  cases offsets with
  | nil => exact (List.singleton_inj.mp h).symm
  | cons offset rest => cases rest <;> cases h

theorem fold?_of_fits {line : List Char} (h : Fits width line) :
    fold? width line = some [line] := by
  have htrim := (trimExcess_eq_self_iff _).mpr h.length_le
  have hcrop : crop? width line = some line := if_pos h.columns_le
  unfold fold?
  rw [breakOffsets_words h.columns_le, cutAt, List.mapM_cons, htrim, hcrop]
  rfl

/-- **Exactly the lines that fit are left as they are**, of those whose first character takes
    some columns. -/
theorem fold?_eq_singleton_iff (hc : columnsOf c ≠ 0) (rest : List Char) :
    fold? width (c :: rest) = some [c :: rest] ↔ Fits width (c :: rest) := by
  refine ⟨fun h => ?_, fold?_of_fits⟩
  unfold fold? at h
  obtain ⟨piece, hcut, hcrop⟩ := mapM_eq_singleton h
  rw [cutAt_eq_singleton hcut] at hcrop
  obtain ⟨htrim, hcolumns⟩ := eq_of_crop?_eq_some hc (isPrefix_trimExcess width _) hcrop
  rw [htrim] at hcolumns
  exact ⟨hcolumns, (trimExcess_eq_self_iff _).mp htrim⟩

end Portfolio.Text
