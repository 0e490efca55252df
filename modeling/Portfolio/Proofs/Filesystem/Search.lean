/-
  File:      Portfolio/Proofs/Filesystem/Search.lean
  Subject:   What a search reports, and what it shows of it.

  * `search_of_tree`: a search for a keyword that is not blank gives the hits in
    the walk of the tree; those are the files in whose lower case the lower case of
    the keyword stands (`exists_offset_of_hitOf`, `exists_hit`).
  * `search_shows_matches`: the snippet of a hit holds the keyword whatever the
    case, if the text of the file is `Showable`. Fifty-one capital i's with a dot
    before the match are enough for the snippet to miss it
    (`snippet_misses_match`).
  * `LiteralSearch`, `literalSearch_of_keyword`: a file that holds the keyword as it
    is written is reported where the keyword is lowered as on its own. That is so
    of every file of every site exactly for a keyword that is lowered alike
    everywhere; the capital sigma is not (`search_misses_sigma`).
-/
import Portfolio.Proofs.Filesystem.Addresses
import Portfolio.Proofs.Search.Snippet

namespace Portfolio

open Portfolio.Text

variable {keyword : String}

/-! ## 1. Hits -/

namespace Search

theorem hitOf_file {needle : List Char} {path name path' content : String} {url : Option String}
    (hc : content ≠ "") :
    hitOf needle path (.file name path' content url) =
      (indexOf? needle (lower content.toList)).map fun offset =>
        { path, snippet := snippet content offset needle.length defaultRadius } := by
  unfold hitOf
  dsimp only
  rw [if_neg hc]
  cases indexOf? needle (lower content.toList) <;> rfl

theorem hitOf_empty {needle : List Char} {path name path' : String} {url : Option String} :
    hitOf needle path (.file name path' "" url) = none := by
  unfold hitOf
  exact if_pos rfl

/-- **A hit is that of a file** in whose lower case the keyword stands, and shows
    the surroundings of the first place where it does. -/
theorem exists_offset_of_hitOf {needle : List Char} {path : String} {n : Node} {hit : Hit}
    (h : hitOf needle path n = some hit) :
    ∃ name path' content url offset, n = .file name path' content url ∧
      indexOf? needle (lower content.toList) = some offset ∧
      hit.snippet.toList = snippetChars content.toList offset needle.length defaultRadius := by
  cases n with
  | directory => cases h
  | file name path' content url =>
    by_cases hc : content = ""
    · rw [hc, hitOf_empty] at h
      cases h
    · rw [hitOf_file hc] at h
      obtain ⟨offset, ho, rfl⟩ := Option.map_eq_some_iff.mp h
      exact ⟨name, path', content, url, offset, rfl, ho, String.toList_ofList⟩

/-- A file in whose lower case the keyword stands is hit. -/
theorem exists_hit {nodes : List (String × Node)} {path name path' content : String}
    {url : Option String} (hm : (path, .file name path' content url) ∈ nodes)
    (hc : content ≠ "") (hi : lower keyword.toList <:+: lower content.toList) :
    ∃ hit ∈ hits keyword nodes, hit.path = path := by
  obtain ⟨offset, ho⟩ := exists_indexOf?_of_infix hi
  have hh : hitOf (lower keyword.toList) path (.file name path' content url) = _ := hitOf_file hc
  rw [ho] at hh
  exact ⟨_, List.mem_filterMap.mpr ⟨_, hm, hh⟩, rfl⟩

end Search

namespace Filesystem

variable {fs : Filesystem} {root : Node}

theorem search_of_tree (ht : fs.tree = some root) (hk : allBlank keyword.toList = false) :
    fs.search keyword = .ok (Search.hits keyword root.walk) := by
  unfold search
  rw [walk_root ht, ok_bind, hk]
  rfl

/-! ## 2. Snippets show their match -/

/-- **The snippet of a hit shows the match**, if the text of the file is one whose
    matches are shown. -/
theorem search_shows_matches (ht : fs.tree = some root) (hk : allBlank keyword.toList = false) :
    ∃ hits, fs.search keyword = .ok hits ∧ ∀ hit ∈ hits, ∃ name path content url,
      (hit.path, .file name path content url) ∈ root.walk ∧
      Search.hitOf (lower keyword.toList) hit.path (.file name path content url) = some hit ∧
      (Search.Showable 50 (lower keyword.toList) content.toList →
        lower keyword.toList <:+: lower hit.snippet.toList) := by
  refine ⟨_, search_of_tree ht hk, fun hit hh => ?_⟩
  obtain ⟨n, hm, hn⟩ := exists_mem_walk_of_mem_hits hh
  obtain ⟨name, path, content, url, offset, rfl, ho, hs⟩ := Search.exists_offset_of_hitOf hn
  refine ⟨name, path, content, url, hm, hn, fun hw => ?_⟩
  rw [hs]
  exact Search.infix_lower_snippetChars ho hw

/-- An owner who says the given text, and nothing else. -/
def ownerOf (about : String) : Profile where
  about := about
  email := ""
  githubUrl := ""
  linkedinUrl := ""
  location := ""
  resumeUrl := ""
  systemInfo := ""
  version := ""

/-- The tree of the site of that owner, without projects. -/
def treeOf (about : String) : Node :=
  .directory "" "/" (Site.branches (ownerOf about) []) .null

/-- The filesystem of that site. -/
def siteOf (about : String) : Filesystem :=
  { profile := ownerOf about, tree := some (treeOf about) }

theorem ofRecords_ownerOf (about : String) :
    ∃ log, ofRecords (ownerOf about) [] = .ok ⟨siteOf about, log⟩ :=
  ⟨_, rfl⟩

theorem about_mem_walk (about : String) :
    ("/base/about", Node.file "about" "/base/about" about none) ∈ (treeOf about).walk := by
  have hb : Site.baseDirectory (ownerOf about) ∈ (treeOf about).children := List.mem_cons_self
  have ha : Node.file "about" "/base/about" about none ∈
      (Site.baseDirectory (ownerOf about)).children := List.mem_cons_self
  exact Node.mem_walk_child (Node.mem_walk_child (Node.self_mem_walk _) hb) ha

/-- The only file at that path. -/
theorem eq_of_mem_walk_about {about name path content : String} {url : Option String}
    (h : ("/base/about", Node.file name path content url) ∈ (treeOf about).walk) :
    content = about := by
  have hb : Site.build (ownerOf about) [] = .ok ⟨treeOf about, [Site.builtEntry 0 0]⟩ := rfl
  have hn := (Site.build_addressed hb).nodup_paths
  have e := List.inj_on_of_nodup_map hn h (about_mem_walk about) rfl
  cases e
  rfl

theorem search_shows_match_greek :
    (siteOf "İ ΟΔΟΣ").search "δος" = .ok [⟨"/base/about", "İ ΟΔΟΣ", "file"⟩] ∧
      lower "δος".toList <:+: lower "İ ΟΔΟΣ".toList := by
  have ht : (siteOf "İ ΟΔΟΣ").tree = some (treeOf "İ ΟΔΟΣ") := rfl
  have hf : (siteOf "İ ΟΔΟΣ").search "δος" = .ok [⟨"/base/about", "İ ΟΔΟΣ", "file"⟩] := by
    decide +kernel
  obtain ⟨hits, hh, hs⟩ := search_shows_matches ht (by decide : allBlank "δος".toList = false)
  cases hf.symm.trans hh
  obtain ⟨name, path, content, url, hm, _, hc⟩ := hs _ List.mem_cons_self
  refine ⟨hf, hc ?_⟩
  rw [eq_of_mem_walk_about hm]
  exact Search.showable_of_short (by decide)

/-- Fifty-one capital i's with a dot move the match out of the snippet. -/
theorem snippet_misses_match :
    ∃ hit, (siteOf (String.ofList (List.replicate 51 'İ') ++ "ж")).search "ж" = .ok [hit] ∧
      ¬ lower "ж".toList <:+: lower hit.snippet.toList :=
  ⟨⟨"/base/about", "...", "file"⟩, by decide +kernel, by decide +kernel⟩

/-! ## 3. Texts that are found as they are written -/

/-- Every file that holds the keyword as it is written is reported. -/
def MissesNone (fs : Filesystem) (keyword : String) : Prop :=
  ∀ root, fs.tree = some root → ∃ hits, fs.search keyword = .ok hits ∧
    ∀ e ∈ root.walk, ∀ content, e.2.content? = some content →
      keyword.toList <:+: content.toList → ∃ hit ∈ hits, hit.path = e.1

/-- What a search reports of the files that hold the keyword as it is written: each
    one where the keyword is lowered as on its own; and all of them, on every
    site, exactly for a keyword that is lowered alike everywhere, as is one without
    a capital sigma. -/
structure LiteralSearch (keyword : String) : Prop where
  found : ∀ (fs : Filesystem) (root : Node), fs.tree = some root →
    ∃ hits, fs.search keyword = .ok hits ∧
      ∀ e ∈ root.walk, ∀ content before after, e.2.content? = some content →
        content.toList = before ++ keyword.toList ++ after →
        lowerWithin (casedBefore false before) (casedAfter false after) keyword.toList =
          lower keyword.toList →
        ∃ hit ∈ hits, hit.path = e.1
  all_iff : (∀ p records made, ofRecords p records = .ok made → MissesNone made.result keyword) ↔
    LowersAlike keyword.toList
  plain : capitalSigma ∉ keyword.toList → ∀ fs, MissesNone fs keyword

theorem ne_empty_of_not_blank {before after : List Char} {content : String}
    (hk : allBlank keyword.toList = false)
    (h : content.toList = before ++ keyword.toList ++ after) : content ≠ "" := by
  rintro rfl
  have hn : keyword.toList = [] := by
    have he := List.append_eq_nil_iff.mp h.symm
    exact (List.append_eq_nil_iff.mp he.1).2
  rw [hn] at hk
  cases hk

/-- A file is reported where the keyword is lowered as on its own. -/
theorem exists_hit_of_literal (hk : allBlank keyword.toList = false) {e : String × Node}
    (he : e ∈ root.walk) {content : String} {before after : List Char}
    (hc : e.2.content? = some content) (h : content.toList = before ++ keyword.toList ++ after)
    (hl : lowerWithin (casedBefore false before) (casedAfter false after) keyword.toList =
      lower keyword.toList) :
    ∃ hit ∈ Search.hits keyword root.walk, hit.path = e.1 := by
  obtain ⟨path, n⟩ := e
  cases n with
  | directory => cases hc
  | file name path' content' url =>
    cases Option.some.inj hc
    refine Search.exists_hit he (ne_empty_of_not_blank hk h) ?_
    rw [h]
    exact infix_lower_of_lowerWithin_eq hl

/-- If a site whose owner says the keyword between any two texts is never missed,
    its lower case is found in every text that holds it. -/
theorem infix_lower_of_missesNone (hk : allBlank keyword.toList = false)
    (h : ∀ about, MissesNone (siteOf about) keyword) (before after : List Char) :
    lower keyword.toList <:+: lower (before ++ keyword.toList ++ after) := by
  let about := String.ofList (before ++ keyword.toList ++ after)
  have ht : (siteOf about).tree = some (treeOf about) := rfl
  obtain ⟨hits, hs, hf⟩ := h about _ ht
  rw [search_of_tree ht hk] at hs
  cases hs
  have hi : keyword.toList <:+: about.toList := by
    rw [String.toList_ofList]
    exact List.infix_append _ _ _
  obtain ⟨hit, hh, hp⟩ := hf _ (about_mem_walk about) about rfl hi
  obtain ⟨n, hw, hn⟩ := exists_mem_walk_of_mem_hits hh
  obtain ⟨name, path, content, url, offset, rfl, ho, _⟩ := Search.exists_offset_of_hitOf hn
  rw [hp] at hw
  rw [eq_of_mem_walk_about hw, String.toList_ofList] at ho
  refine Classical.byContradiction fun hn => ?_
  rw [indexOf?_eq_none_iff.mpr hn] at ho
  cases ho

/-- Nothing is missed for a keyword that is lowered alike everywhere. -/
theorem missesNone_of_lowersAlike (hk : allBlank keyword.toList = false)
    (h : LowersAlike keyword.toList) (fs : Filesystem) : MissesNone fs keyword := by
  intro root ht
  refine ⟨_, search_of_tree ht hk, fun e he content hc hi => ?_⟩
  obtain ⟨before, after, hi⟩ := hi
  exact exists_hit_of_literal hk he hc hi.symm (h _ _)

/-- **What is found as it is written**, for every keyword that is not blank. -/
theorem literalSearch_of_keyword (hk : allBlank keyword.toList = false) :
    LiteralSearch keyword where
  found fs root ht := by
    refine ⟨_, search_of_tree ht hk, fun e he content before after hc h hl => ?_⟩
    exact exists_hit_of_literal hk he hc h hl
  all_iff := by
    constructor
    · intro h
      have hsite : ∀ about, MissesNone (siteOf about) keyword := by
        intro about
        obtain ⟨log, hm⟩ := ofRecords_ownerOf about
        exact h _ _ _ hm
      exact infix_lower_iff.mp (infix_lower_of_missesNone hk hsite)
    · exact fun h p records made _ => missesNone_of_lowersAlike hk h made.result
  plain hn := missesNone_of_lowersAlike hk (lowersAlike_of_sigma_notMem hn)

/-- A word with a sigma at its end is found where it ends a word. -/
theorem literalSearch_greek :
    ∃ hits, (siteOf "Η ΟΔΟΣ ΜΟΥ").search "ΟΔΟΣ" = .ok hits ∧
      ∃ hit ∈ hits, hit.path = "/base/about" := by
  have hk : allBlank "ΟΔΟΣ".toList = false := by decide
  obtain ⟨hits, hs, hf⟩ := (literalSearch_of_keyword hk).found (siteOf "Η ΟΔΟΣ ΜΟΥ") _ rfl
  refine ⟨hits, hs, hf _ (about_mem_walk _) _ "Η ".toList " ΜΟΥ".toList rfl (by decide) ?_⟩
  decide +kernel

/-- A sigma on its own does not end a word. -/
theorem search_misses_sigma :
    (siteOf "ΑΣ").search "Σ" = .ok [] ∧ ¬ MissesNone (siteOf "ΑΣ") "Σ" := by
  have hs : (siteOf "ΑΣ").search "Σ" = .ok [] := by decide +kernel
  refine ⟨hs, fun h => ?_⟩
  obtain ⟨hits, hh, hf⟩ := h _ rfl
  cases hs.symm.trans hh
  obtain ⟨hit, hm, _⟩ := hf _ (about_mem_walk "ΑΣ") "ΑΣ" rfl (by decide)
  exact absurd hm List.not_mem_nil

end Filesystem

end Portfolio
