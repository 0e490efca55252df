/-
  File:      Portfolio/Proofs/Completion/Suggestions.lean
  Subject:   What is suggested for a text.

  * `CutAt`: a path cut after its last slash. There is one cut, and `cutAtSlash`
    makes it (`cutAtSlash_eq_iff`).
  * `fragment?`: what is being typed at the end of a text, unless that is the name of
    the command. It alone says what is suggested (`complete_eq`) and what a suggestion
    takes the place of (`replaced_eq`).
  * `mem_commandSuggestions`, `mem_pathSuggestions`: the suggestions are the words of
    commands, or the entries of a directory, that go on with what is typed.
-/
import Portfolio.Completion
import Portfolio.Proofs.Command.Tokens
import Portfolio.Proofs.Filesystem.Addresses

namespace Portfolio.Completion

open Portfolio.Text

variable {s : Session} {text path head tail word : String}

/-! ## 1. Cutting a path -/

/-- A path in two parts: up to its last slash, and what comes after it. -/
structure CutAt (path head tail : String) : Prop where
  whole : path = head ++ tail
  no_slash : '/' ∉ tail.toList
  ends : head = "" ∨ head.toList.getLast? = some '/'

theorem CutAt.toList_eq (h : CutAt path head tail) :
    path.toList = head.toList ++ tail.toList := by
  rw [h.whole, String.toList_append]

/-- Every path can be cut. -/
theorem exists_cutAt (path : String) : ∃ head tail, CutAt path head tail := by
  have hparts : path.toList.rdropWhile (· != '/') ++ path.toList.rtakeWhile (· != '/') =
      path.toList := List.rdropWhile_append_rtakeWhile
  refine ⟨String.ofList (path.toList.rdropWhile (· != '/')),
    String.ofList (path.toList.rtakeWhile (· != '/')), ?_, ?_, ?_⟩
  · rw [← String.ofList_append, hparts, String.ofList_toList]
  · rw [String.toList_ofList]
    intro hm
    have hne := List.mem_rtakeWhile_imp hm
    exact absurd rfl (bne_iff_ne.mp hne)
  · by_cases hne : path.toList.rdropWhile (· != '/') = []
    · left
      rw [hne, String.ofList_nil]
    · right
      have hlast := List.rdropWhile_last_not (· != '/') path.toList hne
      have hslash : (path.toList.rdropWhile (· != '/')).getLast hne = '/' := by simpa using hlast
      rw [String.toList_ofList, List.getLast?_eq_some_getLast hne, hslash]

theorem CutAt.cutAtSlash (h : CutAt path head tail) : cutAtSlash path = (head, tail) := by
  have hstop : head.toList.reverse.takeWhile (· != '/') = [] := by
    rcases h.ends with rfl | he
    · rfl
    · obtain ⟨rest, hrest⟩ := List.head?_eq_some_iff.mp (List.head?_reverse ▸ he)
      rw [hrest]
      rfl
  have htail : (path.toList.reverse.takeWhile (· != '/')).reverse = tail.toList := by
    have hpos : ∀ c ∈ tail.toList.reverse, (c != '/') = true := by
      intro c hc
      refine bne_iff_ne.mpr fun e => h.no_slash ?_
      exact e ▸ List.mem_reverse.mp hc
    rw [h.toList_eq, List.reverse_append, List.takeWhile_append_of_pos hpos, hstop,
      List.append_nil, List.reverse_reverse]
  have hlen : path.length - tail.toList.length = head.toList.length := by
    have hl := congrArg List.length h.toList_eq
    rw [List.length_append, String.length_toList] at hl
    omega
  unfold Completion.cutAtSlash
  dsimp only
  rw [htail, hlen, h.toList_eq, List.take_left, String.ofList_toList, String.ofList_toList]

/-- **A path has one cut.** -/
theorem cutAtSlash_eq_iff : cutAtSlash path = (head, tail) ↔ CutAt path head tail := by
  constructor
  · intro h
    obtain ⟨head', tail', hc⟩ := exists_cutAt path
    rw [hc.cutAtSlash] at h
    cases h
    exact hc
  · intro h
    exact h.cutAtSlash

theorem cutAt_cutAtSlash (path : String) : CutAt path (cutAtSlash path).1 (cutAtSlash path).2 :=
  cutAtSlash_eq_iff.mp rfl

/-! ## 2. What is being typed -/

/-- What is being typed at the end of a text: after a blank nothing yet, and else the
    last argument; `none` if it is the name of the command. -/
def fragment? (text : String) : Option String :=
  if endsBlank text then some "" else (Command.parse text).args.getLast?

theorem endsBlank_eq {d : Char} (h : text.toList.getLast? = some d) :
    endsBlank text = isBlank d := by
  unfold endsBlank
  rw [h]

theorem fragment?_of_endsBlank (h : endsBlank text = true) : fragment? text = some "" :=
  if_pos h

theorem fragment?_of_not_endsBlank (h : endsBlank text = false) :
    fragment? text = (Command.parse text).args.getLast? :=
  if_neg (Bool.eq_false_iff.mp h)

theorem parsed_eq (text : String) : parsed text = Command.parse text :=
  Command.parse_stripLeft text

/-- **What is being typed says what is suggested.** -/
theorem complete_eq (s : Session) (text : String) :
    complete s text =
      if allBlank text.toList then []
      else
        match fragment? text with
        | none => commandSuggestions (Command.parse text).name
        | some fragment =>
          if (Command.ofWord? (Command.parse text).name).isNone then []
          else pathSuggestions s fragment := by
  unfold complete
  rw [parsed_eq]
  dsimp only
  cases hb : endsBlank text with
  | true => simp [fragment?_of_endsBlank hb]
  | false =>
    rw [fragment?_of_not_endsBlank hb]
    cases ha : (Command.parse text).args.getLast? with
    | none => simp [List.getLast?_eq_none_iff.mp ha]
    | some arg =>
      have hne : (Command.parse text).args.isEmpty = false := by
        rw [List.isEmpty_eq_false_iff]
        intro he
        rw [he] at ha
        cases ha
      simp [hne]

/-- A suggestion goes on with the name of the command, or else with a path. -/
theorem mem_complete (h : word ∈ complete s text) :
    (fragment? text = none ∧ word ∈ commandSuggestions (Command.parse text).name) ∨
      ∃ fragment, fragment? text = some fragment ∧ word ∈ pathSuggestions s fragment := by
  rw [complete_eq] at h
  split at h
  · exact absurd h List.not_mem_nil
  · cases hf : fragment? text with
    | none =>
      rw [hf] at h
      exact Or.inl ⟨rfl, h⟩
    | some fragment =>
      rw [hf] at h
      dsimp only at h
      split at h
      · exact absurd h List.not_mem_nil
      · exact Or.inr ⟨fragment, rfl, h⟩

/-- It also says what a suggestion takes the place of. -/
theorem replaced_eq (text : String) :
    replaced text =
      match fragment? text with
      | none => (Command.parse text).name
      | some fragment => (cutAtSlash fragment).2 := by
  unfold replaced
  rw [parsed_eq]
  dsimp only
  cases hb : endsBlank text with
  | true =>
    rw [fragment?_of_endsBlank hb]
    rfl
  | false =>
    rw [fragment?_of_not_endsBlank hb]
    cases (Command.parse text).args.getLast? <;> rfl

/-- No command has an empty word. -/
theorem ne_empty_of_ofWord? {command : Command} (h : Command.ofWord? word = some command) :
    word ≠ "" := by
  rintro rfl
  have he : Command.ofWord? "" = none := by decide
  rw [he] at h
  cases h

/-- With the word of a command, what is being typed is completed as a path. -/
theorem complete_of_fragment {command : Command} {fragment : String}
    (hw : Command.ofWord? (Command.parse text).name = some command)
    (hf : fragment? text = some fragment) : complete s text = pathSuggestions s fragment := by
  have hb : allBlank text.toList = false := by
    refine Bool.eq_false_iff.mpr fun hb => ?_
    have hn : (Command.parse text).name = "" := by
      rw [← Command.parse_stripLeft, (stripLeft_eq_nil_iff _).mpr hb]
      rfl
    exact ne_empty_of_ofWord? hw hn
  rw [complete_eq, hb, if_neg Bool.false_ne_true, hf]
  dsimp only
  rw [hw]
  rfl

/-! ## 3. Suggestions -/

/-- The words that are suggested for a command. -/
def commandWords : List String :=
  Command.all.map Command.word ++ Command.aliases.map Prod.fst

theorem mem_commandSuggestions {start : String} :
    word ∈ commandSuggestions start ↔ word ∈ commandWords ∧ start.toList <+: word.toList := by
  unfold commandSuggestions commandWords
  rw [List.mem_mergeSort, List.mem_filter, List.isPrefixOf_iff_prefix]

theorem pathSuggestions_of_cutAt (h : CutAt path head tail) :
    pathSuggestions s path =
      match directoryOf? s head with
      | none => []
      | some directory =>
        match s.filesystem.list (some directory) "/" with
        | .error _ => []
        | .ok entries =>
          ((entries.filter fun e => tail.toList.isPrefixOf e.name.toList).map
            suggestion).mergeSort (· ≤ ·) := by
  unfold pathSuggestions
  generalize he : cutAtSlash path = parts
  rw [h.cutAtSlash] at he
  subst he
  rfl

/-- The entries of a directory that go on with what is typed are suggested. -/
theorem mem_pathSuggestions (h : CutAt path head tail) :
    word ∈ pathSuggestions s path ↔
      ∃ directory entries, directoryOf? s head = some directory ∧
        s.filesystem.list (some directory) "/" = .ok entries ∧
        ∃ e ∈ entries, tail.toList <+: e.name.toList ∧ word = suggestion e := by
  rw [pathSuggestions_of_cutAt h]
  cases hd : directoryOf? s head with
  | none => simp
  | some directory =>
    cases hl : s.filesystem.list (some directory) "/" with
    | error e => simp [hl]
    | ok entries =>
      simp only [List.mem_mergeSort, List.mem_map, List.mem_filter, List.isPrefixOf_iff_prefix,
        Option.some.injEq, exists_and_left, exists_eq_left', hl, Except.ok.injEq]
      constructor
      · rintro ⟨e, ⟨he, ht⟩, rfl⟩
        exact ⟨e, he, ht, rfl⟩
      · rintro ⟨e, he, ht, rfl⟩
        exact ⟨e, ⟨he, ht⟩, rfl⟩

/-- The listing of a directory shows its children. -/
theorem mem_pathSuggestions_iff_child {directory : String} {d : Node} (h : CutAt path head tail)
    (hd : directoryOf? s head = some directory)
    (hr : s.filesystem.resolve (some directory) "/" = .ok (some d))
    (hi : d.isDirectory = true) :
    word ∈ pathSuggestions s path ↔
      ∃ n ∈ d.children, tail.toList <+: n.name.toList ∧
        word = suggestion (Filesystem.entryOf n) := by
  rw [mem_pathSuggestions h]
  constructor
  · rintro ⟨directory', entries, hd', hl, e, he, ht, rfl⟩
    rw [hd] at hd'
    cases hd'
    obtain ⟨d', n, hr', hn, rfl⟩ := Filesystem.exists_child_of_mem_list hl he
    rw [hr] at hr'
    cases hr'
    exact ⟨n, hn, ht, rfl⟩
  · rintro ⟨n, hn, ht, rfl⟩
    cases d with
    | file => cases hi
    | directory name dpath nodes id =>
      have hm : Filesystem.entryOf n ∈ (nodes.map Filesystem.entryOf).mergeSort
          DirectoryEntry.le := List.mem_mergeSort.mpr (List.mem_map_of_mem hn)
      exact ⟨directory, _, hd, Filesystem.list_of_resolve hr, _, hm, ht, rfl⟩

theorem prefix_suggestion (e : DirectoryEntry) : e.name.toList <+: (suggestion e).toList := by
  unfold suggestion
  split
  · rw [String.toList_append]
    exact List.prefix_append _ _
  · exact List.prefix_refl _

end Portfolio.Completion
