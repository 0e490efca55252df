/-
  File:      Portfolio/Proofs/Session/Searching.lean
  Subject:   Searching for a keyword between quotes.

  * `exec_quoted`: a word for a command and a text between quotes are the command with
    that text, whatever blanks stand in the text or at its ends.
  * `SearchesFor`: the line with the keyword between quotes does not fail, reports exactly
    the files that hold the keyword, each once, and leaves the session where it is.
  * `run_searchesFor`: so it is after every run, for every keyword that is not blank and
    holds no quote and no refused feature.
-/
import Portfolio.Proofs.Command.Quoting
import Portfolio.Proofs.Search.Report
import Portfolio.Proofs.Session.Navigation

namespace Portfolio

/-! ## 1. Lines with a quoted text -/

namespace Command

variable {name text : String}

/-- Neither a word before a quoted text nor the quotes make a mark. -/
theorem not_marked_quoted (hn : IsWord name) (ht : ¬ Marked text.toList) :
    ¬ Marked (name ++ " " ++ quotedText text).toList := by
  have hchars : (name ++ " " ++ quotedText text).toList =
      (name.toList ++ [' ', '"']) ++ (text.toList ++ ['"']) := by
    simp [toList_quotedText]
  have hquote : ∀ mark ∈ shellFeatures, '"' ∉ mark.toList := by decide
  intro ⟨mark, hm, hi⟩
  have hne := ne_nil_of_mem_shellFeatures hm
  rw [hchars] at hi
  have hrest : mark.toList <:+: text.toList ++ ['"'] := by
    refine Text.infix_of_infix_append hne (fun c hc hb => ?_) hi
    rcases List.mem_append.mp hb with hb | hb
    · exact (isPlain_iff.mp (hn.plain c hb)).2.2 mark hm hc
    · simp only [List.mem_cons, List.not_mem_nil, or_false] at hb
      rcases hb with rfl | rfl
      · exact absurd (not_blank_of_mem_shellFeatures hm _ hc) (by decide)
      · exact hquote mark hm hc
  refine ht ⟨mark, hm, Text.infix_of_append_infix hne (fun c hc ha => ?_) hrest⟩
  exact hquote mark hm (List.mem_singleton.mp ha ▸ hc)

end Command

namespace Session

variable {s : Session} {keyword : String}

/-- **A word for a command and a text between quotes** are the command with that text. -/
theorem exec_quoted {name text : String} {command : Command} {handler : Handler}
    (hn : Command.IsWord name) (hq : '"' ∉ text.toList) (ht : ¬ Command.Marked text.toList)
    (hw : Command.ofWord? name = some command) (hh : s.handler? command = some handler) :
    s.exec (some (name ++ " " ++ Command.quotedText text)) =
      ((s.settle command (handler s.view [text])).1,
        { s with
          cwd := (s.settle command (handler s.view [text])).2
          history := s.history ++ [name ++ " " ++ Command.quotedText text] }) := by
  have hc : (name ++ " " ++ Command.quotedText text).toList =
      name.toList ++ (' ' :: '"' :: text.toList) ++ ['"'] := by
    simp [Command.toList_quotedText]
  -- it starts with the word and ends in a quote
  obtain ⟨c, rest, hname⟩ := List.exists_cons_of_ne_nil hn.toList_ne_nil
  have hblank := (Command.isPlain_iff.mp (hn.plain c (by rw [hname]; exact List.mem_cons_self))).1
  have hbare : bare (some (name ++ " " ++ Command.quotedText text)) =
      name ++ " " ++ Command.quotedText text := by
    have hquote : Text.isBlank '"' = false := by decide
    refine bare_eq_self ?_ ?_ hblank hquote
    · rw [hc, hname]
      rfl
    · rw [hc, List.getLast?_concat]
  have hp : Command.parse (name ++ " " ++ Command.quotedText text) = ⟨name, [text]⟩ := by
    have h := Command.parse_quoted hn.ne_empty hn.unbroken (List.forall_mem_singleton.mpr hq)
    rwa [List.map_singleton, String.intercalate_cons_cons, String.intercalate_singleton] at h
  exact exec_of_parse hbare (Command.not_marked_quoted hn ht) hp hw hh

/-! ## 2. Searching -/

/-- The line that searches for the keyword finds exactly the files that hold it. -/
structure SearchesFor (s : Session) (keyword : String) (nodes : List (String × Node)) : Prop where
  walk : s.filesystem.walk (some "/") "/" = .ok nodes
  once : ((nodes.filter fun e => Search.holds keyword e.2).map Prod.fst).Nodup
  reports : ∃ output, (s.exec (some ("search \"" ++ keyword ++ "\""))).1 = { output } ∧
    Search.Reports keyword (nodes.filter fun e => Search.holds keyword e.2) output
  leaves : (s.exec (some ("search \"" ++ keyword ++ "\""))).2 =
    { s with history := s.history ++ ["search \"" ++ keyword ++ "\""] }

theorem search_of_tree {view : View} {root : Node} (ht : view.filesystem.tree = some root)
    (hk : Text.allBlank keyword.toList = false) :
    Command.Builtin.handlerOf .search view [keyword] =
      .ok (Command.Builtin.shows
        (Command.Builtin.hitsText keyword (Search.hits keyword root.walk))) := by
  have hkeyword : " ".intercalate [keyword] = keyword := String.intercalate_singleton
  refine Command.Builtin.handler_eq_ok.mpr ?_
  show (view.filesystem.search (" ".intercalate [keyword]) >>= fun hits =>
    pure (Command.Builtin.shows (Command.Builtin.hitsText (" ".intercalate [keyword]) hits))) = _
  rw [hkeyword, Filesystem.search_of_tree ht hk]
  rfl

theorem searchesFor_of_addressed {root : Node} (hb : s.HasBuiltins)
    (ht : s.filesystem.tree = some root) (ha : root.Addressed)
    (hk : Text.allBlank keyword.toList = false) (hq : '"' ∉ keyword.toList)
    (hm : ¬ Command.Marked keyword.toList) : s.SearchesFor keyword root.walk := by
  have hword : Command.IsWord "search" := by decide
  have hline : "search \"" ++ keyword ++ "\"" = "search" ++ " " ++ Command.quotedText keyword := by
    have hopen : "search \"" = "search" ++ " " ++ "\"" := rfl
    unfold Command.quotedText
    rw [hopen]
    simp only [String.append_assoc]
  have hexec := exec_quoted hword hq hm rfl (hb.handler? .search)
  have hview : s.view.filesystem.tree = some root := ht
  rw [search_of_tree hview hk, ← hline] at hexec
  refine ⟨Filesystem.walk_root ht, ?_, ⟨_, by rw [hexec]; rfl, Search.hitsText_reports hk _⟩,
    by rw [hexec]; rfl⟩
  exact ha.nodup_paths.sublist (List.filter_sublist.map _)

/-- **A search reports exactly the files that hold the keyword**, after every run of a
    session on a filesystem that is made from records. -/
theorem run_searchesFor {p : Profile} {records : List Record} {made : Site.Built Filesystem}
    {start : Option String} (hm : Filesystem.ofRecords p records = .ok made)
    (hs : Session.start made.result start = .ok s) (events : List Event)
    (hk : Text.allBlank keyword.toList = false) (hq : '"' ∉ keyword.toList)
    (hf : Command.hasShellFeature keyword = false) :
    ∃ nodes, made.result.walk (some "/") "/" = .ok nodes ∧
      (s.run events).SearchesFor keyword nodes := by
  obtain ⟨built, hbuild, ht, hroot, hstand⟩ := exists_build_of_run hm hs events
  have hmark : ¬ Command.Marked keyword.toList := by
    rw [← Command.hasShellFeature_iff, hf]
    exact Bool.false_ne_true
  have haddressed := Site.build_addressed hbuild
  exact ⟨_, Filesystem.walk_root ht,
    searchesFor_of_addressed hstand.handlers hroot haddressed hk hq hmark⟩

/-- A keyword with capitals, and with blanks inside and at its end. -/
theorem run_searchesFor_blanks :
    ∃ made s, Filesystem.ofRecords (Filesystem.ownerOf "Builds a  gate\nhouse") [] = .ok made ∧
      Session.start made.result none = .ok s ∧
      (∃ nodes, made.result.walk (some "/") "/" = .ok nodes ∧
        (s.run [.exec (some "cd base")]).SearchesFor "A  Gate\n" nodes) ∧
      ((s.run [.exec (some "cd base")]).exec (some "search \"A  Gate\n\"")).1.output =
        "Found 1 result(s) for: A  Gate\n\n\n[1] /base/about\n    Builds a  gate\nhouse" := by
  obtain ⟨made, hm⟩ : ∃ made, Filesystem.ofRecords (Filesystem.ownerOf "Builds a  gate\nhouse")
    [] = .ok made := ⟨_, rfl⟩
  have hs : Session.start made.result none = .ok { filesystem := made.result } := rfl
  refine ⟨made, _, hm, hs, ?_, ?_⟩
  · exact run_searchesFor hm hs _ (by decide) (by decide) (by decide)
  · cases hm
    decide +kernel

end Session

end Portfolio
