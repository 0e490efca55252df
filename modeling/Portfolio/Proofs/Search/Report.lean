/-
  File:      Portfolio/Proofs/Search/Report.lean
  Subject:   What is written about the files that a search finds.

  * `holds`: a file in whose lower case the lower case of the keyword stands. Every such
    file is a hit, in the order of the walk, and nothing else is (`hits_shown`).
  * `IsBlock`: the two lines on one file, with its number, its path and its snippet.
  * `Reports`: a text that says how many files hold the keyword and has one block for
    each, numbered from one, with an empty line between two blocks.
  * `hitsText_reports`: the text of the hits is such a report.
-/
import Mathlib.Data.List.Forall2
import Mathlib.Data.List.Infix
import Portfolio.Command.Builtin
import Portfolio.Proofs.Filesystem.Search

namespace Portfolio.Search

open Portfolio.Command.Builtin
open Portfolio.Text

variable {keyword : String} {e : String × Node} {nodes found : List (String × Node)}

/-! ## 1. The files that hold the keyword -/

/-- The node is a file in whose lower case the lower case of the keyword stands. -/
def holds (keyword : String) (n : Node) : Bool :=
  n.content?.any fun content => decide (lower keyword.toList <:+: lower content.toList)

/-- The snippet of the file at the first place where the keyword stands. -/
def IsSnippet (keyword : String) (n : Node) (shown : String) : Prop :=
  ∃ content offset, n.content? = some content ∧
    indexOf? (lower keyword.toList) (lower content.toList) = some offset ∧
    shown = snippet content offset (lower keyword.toList).length defaultRadius

/-- The hit is that of the node. -/
structure Shows (keyword : String) (e : String × Node) (hit : Hit) : Prop where
  path : hit.path = e.1
  snippet : IsSnippet keyword e.2 hit.snippet

theorem lower_ne_nil (h : allBlank keyword.toList = false) : lower keyword.toList ≠ [] := by
  intro e
  have hl := length_lowerWithin false false keyword.toList
  rw [← lower_eq_lowerWithin, e, List.length_nil] at hl
  have hn : keyword.toList = [] := List.length_eq_zero_iff.mp (by omega)
  rw [hn] at h
  cases h

/-- A node that does not hold the keyword is no hit. -/
theorem hitOf_of_not_holds (h : holds keyword e.2 = false) :
    hitOf (lower keyword.toList) e.1 e.2 = none := by
  cases hh : hitOf (lower keyword.toList) e.1 e.2 with
  | none => rfl
  | some hit =>
    obtain ⟨name, path, content, url, offset, hn, ho, _⟩ := exists_offset_of_hitOf hh
    have hno : ¬ lower keyword.toList <:+: lower content.toList := by
      rw [hn] at h
      simpa [holds, Node.content?] using h
    rw [indexOf?_eq_none_iff.mpr hno] at ho
    cases ho

theorem exists_hitOf_of_holds (hk : allBlank keyword.toList = false)
    (h : holds keyword e.2 = true) :
    ∃ hit, hitOf (lower keyword.toList) e.1 e.2 = some hit ∧ Shows keyword e hit := by
  obtain ⟨path, n⟩ := e
  cases n with
  | directory => cases h
  | file name path' content url =>
    have hi : lower keyword.toList <:+: lower content.toList := by
      simpa [holds, Node.content?] using h
    have hc : content ≠ "" := by
      intro he
      rw [he] at hi
      exact lower_ne_nil hk (List.infix_nil.mp hi)
    obtain ⟨offset, ho⟩ := exists_indexOf?_of_infix hi
    refine ⟨_, by rw [hitOf_file hc, ho]; rfl, rfl, content, offset, rfl, ho, rfl⟩

/-- **The hits are the files that hold the keyword**, in the order of the walk. -/
theorem hits_shown (hk : allBlank keyword.toList = false) (nodes : List (String × Node)) :
    List.Forall₂ (Shows keyword) (nodes.filter fun e => holds keyword e.2)
      (hits keyword nodes) := by
  unfold hits
  induction nodes with
  | nil => exact .nil
  | cons e rest ih =>
    rw [List.filter_cons, List.filterMap_cons]
    cases h : holds keyword e.2 with
    | false =>
      rw [hitOf_of_not_holds h, if_neg Bool.false_ne_true]
      exact ih
    | true =>
      obtain ⟨hit, hh, hs⟩ := exists_hitOf_of_holds hk h
      rw [hh, if_pos rfl]
      exact .cons hs ih

/-! ## 2. Blocks -/

/-- The two lines on a file of the given number. -/
def IsBlock (keyword : String) (number : Nat) (e : String × Node) (block : String) : Prop :=
  ∃ shown, IsSnippet keyword e.2 shown ∧
    block = "[" ++ countText number ++ "] " ++ e.1 ++ "\n    " ++ shown

/-- The lines of a hit as one text. -/
def block (number : Nat) (hit : Hit) : String :=
  "\n".intercalate (hitLines number hit)

/-- The blocks of hits, the first one with the given number. -/
def blocks (number : Nat) (hits : List Hit) : List String :=
  (hits.zipIdx number).map fun h => block h.2 h.1

theorem Shows.isBlock {hit : Hit} (h : Shows keyword e hit) (number : Nat) :
    IsBlock keyword number e (block number hit) := by
  have hindent : "\n" ++ "    " = "\n    " := rfl
  refine ⟨hit.snippet, h.snippet, ?_⟩
  rw [← h.path, ← hindent]
  unfold block hitLines
  rw [String.intercalate_cons_cons, String.intercalate_singleton]
  simp only [String.append_assoc]

theorem append_newlines (s : String) : s ++ "\n" ++ "\n" = s ++ "\n\n" := by
  rw [String.append_assoc]
  rfl

theorem hitsLines_ne_nil {hits : List Hit} (h : hits ≠ []) (number : Nat) :
    hitsLines number hits ≠ [] := by
  obtain ⟨hit, rest, rfl⟩ := List.exists_cons_of_ne_nil h
  cases rest with
  | nil => exact List.cons_ne_nil _ _
  | cons next rest => simp [hitsLines, hitLines]

/-- **The lines of the hits are their blocks** with an empty line between two of them. -/
theorem intercalate_hitsLines (number : Nat) (hits : List Hit) :
    "\n".intercalate (hitsLines number hits) = "\n\n".intercalate (blocks number hits) := by
  induction hits generalizing number with
  | nil => rfl
  | cons hit rest ih =>
    cases rest with
    | nil => simp [hitsLines, blocks, block]
    | cons next rest =>
      have hlines : hitLines number hit ++ [""] ≠ [] := by simp
      have hrest := hitsLines_ne_nil (List.cons_ne_nil next rest) (number + 1)
      have hblock : "\n".intercalate (hitLines number hit ++ [""]) = block number hit ++ "\n" := by
        have hpair : hitLines number hit ≠ [] := List.cons_ne_nil _ _
        rw [String.intercalate_append_of_ne_nil hpair (List.cons_ne_nil _ _),
          String.intercalate_singleton, String.append_empty]
        rfl
      calc "\n".intercalate (hitsLines number (hit :: next :: rest))
        _ = "\n".intercalate (hitLines number hit ++ [""]) ++ "\n" ++
            "\n".intercalate (hitsLines (number + 1) (next :: rest)) :=
          String.intercalate_append_of_ne_nil hlines hrest
        _ = block number hit ++ "\n\n" ++
            "\n\n".intercalate (blocks (number + 1) (next :: rest)) := by
          rw [hblock, ih, append_newlines]
        _ = "\n\n".intercalate (blocks number (hit :: next :: rest)) :=
          (String.intercalate_cons_of_ne_nil (List.cons_ne_nil _ _)).symm

/-! ## 3. Reports -/

/-- The text says that nothing was found, or how many files were found and has a block for
    each of them. -/
structure Reports (keyword : String) (found : List (String × Node)) (output : String) :
    Prop where
  nothing : found = [] → output = "No results found for: " ++ keyword
  listed : found ≠ [] → ∃ blocks : List String,
    output = "Found " ++ countText found.length ++ " result(s) for: " ++ keyword ++ "\n\n" ++
      "\n\n".intercalate blocks ∧
    blocks.length = found.length ∧
    ∀ i e block, found[i]? = some e → blocks[i]? = some block → IsBlock keyword (i + 1) e block

theorem hitsText_of_ne_nil {hits : List Hit} (h : hits ≠ []) :
    hitsText keyword hits = "Found " ++ countText hits.length ++ " result(s) for: " ++ keyword ++
      "\n\n" ++ "\n\n".intercalate (blocks 1 hits) := by
  obtain ⟨hit, rest, rfl⟩ := List.exists_cons_of_ne_nil h
  show "\n".intercalate (_ :: hitsLines 1 (hit :: rest)) = _
  rw [String.intercalate_cons_of_ne_nil (hitsLines_ne_nil h 1), intercalate_hitsLines,
    append_newlines]

theorem reports_of_shown {hits : List Hit} (h : List.Forall₂ (Shows keyword) found hits) :
    Reports keyword found (hitsText keyword hits) := by
  have hlength : found.length = hits.length := h.length_eq
  constructor
  · intro hnone
    subst hnone
    cases h
    rfl
  · intro hne
    have hhits : hits ≠ [] := by
      intro he
      rw [he] at hlength
      exact hne (List.length_eq_zero_iff.mp hlength)
    refine ⟨blocks 1 hits, by rw [hitsText_of_ne_nil hhits, hlength],
      by simp [blocks, hlength], ?_⟩
    intro i e b he hb
    rw [blocks, List.getElem?_map, List.getElem?_zipIdx, Option.map_map,
      Nat.add_comm 1 i] at hb
    obtain ⟨hit, hi, rfl⟩ := Option.map_eq_some_iff.mp hb
    obtain ⟨hx, rfl⟩ := List.getElem?_eq_some_iff.mp he
    obtain ⟨hy, rfl⟩ := List.getElem?_eq_some_iff.mp hi
    exact (h.get hx hy).isBlock (i + 1)

/-- **The text of the hits reports exactly the files that hold the keyword.** -/
theorem hitsText_reports (hk : allBlank keyword.toList = false) (nodes : List (String × Node)) :
    Reports keyword (nodes.filter fun e => holds keyword e.2)
      (hitsText keyword (hits keyword nodes)) :=
  reports_of_shown (hits_shown hk nodes)

end Portfolio.Search
