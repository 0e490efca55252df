/-
  File:      Portfolio/Proofs/Completion/Paths.lean
  Subject:   Paths are completed by what is there.

  * `exists_before`: in a text without quotes, what is being typed stands at the end,
    and any other word can stand in its place.
  * `IsBase`: the directory in which a path is completed. `isBase_iff`: it is the one
    whose children the suggestions are taken from.
  * `resolve_append`: the part of a path up to its last slash and the name of a child
    lead to the child.
  * `CompletesPath`: what is suggested for a path, in which order, and where it leads.
    `run_completesPath`: so it is after every run of a session.
-/
import Portfolio.Proofs.Completion.Replacing

namespace Portfolio.Completion

open Portfolio.Text

variable {s : Session} {text fragment head tail word : String} {root d n : Node}

/-! ## 1. The end of a text without quotes -/

/-- In one word, or none, there is no argument yet. -/
theorem fragment?_of_unbroken (h : Command.Unbroken text.toList) : fragment? text = none := by
  cases hl : text.toList.getLast? with
  | none =>
    have he : text = "" := String.toList_eq_nil_iff.mp (List.getLast?_eq_none_iff.mp hl)
    subst he
    rfl
  | some d =>
    have hm := List.mem_of_getLast? hl
    rw [fragment?_of_not_endsBlank (endsBlank_eq hl ▸ (h d hm).1), Command.parse_args]
    unfold Command.tokens
    rw [Command.tokensFrom_eq_singleton h (List.ne_nil_of_mem hm)]
    rfl

section AfterBlank

variable {before last : List Char} {c : Char}

/-- After a token and a blank, an unbroken word is the last argument. -/
theorem getLast?_args_append (hq : '"' ∉ before) (hb : isBlank c = true)
    (ht : Command.tokens (String.ofList before) ≠ []) (hu : Command.Unbroken last)
    (hne : last ≠ []) :
    (Command.parse (String.ofList (before ++ c :: last))).args.getLast? =
      some (String.ofList last) := by
  rw [Command.getLast?_args (Command.tokens_append_unbroken hq hb hu hne) ht,
    Command.unquote_of_notMem]
  rw [String.toList_ofList]
  exact hu.notMem

/-- What follows the last blank is being typed, and the name stands before that blank. -/
theorem eq_of_fragment? (hq : '"' ∉ before) (hb : isBlank c = true) (hu : Command.Unbroken last)
    (hn : (Command.parse (String.ofList (before ++ c :: last))).name ≠ "")
    (hf : fragment? (String.ofList (before ++ c :: last)) = some fragment) :
    fragment = String.ofList last ∧ Command.tokens (String.ofList before) ≠ [] := by
  by_cases hlast : last = []
  · subst hlast
    have hl : (String.ofList (before ++ [c])).toList.getLast? = some c := by
      rw [String.toList_ofList, List.getLast?_concat]
    rw [fragment?_of_endsBlank (endsBlank_eq hl ▸ hb)] at hf
    rw [Command.parse_name, Command.tokens_append_blank hq hb] at hn
    refine ⟨(Option.some.inj hf).symm, fun he => hn ?_⟩
    rw [he]
    rfl
  · obtain ⟨d, hd⟩ := Option.ne_none_iff_exists'.mp (mt List.getLast?_eq_none_iff.mp hlast)
    have hl : (String.ofList (before ++ c :: last)).toList.getLast? = some d := by
      rw [String.toList_ofList, List.getLast?_append, List.getLast?_cons, hd]
      rfl
    have hbd : isBlank d = false := (hu d (List.mem_of_getLast? hd)).1
    rw [fragment?_of_not_endsBlank (endsBlank_eq hl ▸ hbd)] at hf
    have ht : Command.tokens (String.ofList before) ≠ [] := by
      intro he
      rw [Command.parse_args, Command.tokens_append_unbroken hq hb hu hlast, he] at hf
      cases hf
    rw [getLast?_args_append hq hb ht hu hlast] at hf
    exact ⟨(Option.some.inj hf).symm, ht⟩

end AfterBlank

/-- **What is being typed stands at the end of the text**, and any unbroken word in its
    place is the last argument. -/
theorem exists_before (hq : '"' ∉ text.toList) (hn : (Command.parse text).name ≠ "")
    (hf : fragment? text = some fragment) :
    Command.Unbroken fragment.toList ∧ ∃ before, text = before ++ fragment ∧
      ∀ word : String, Command.Unbroken word.toList → word ≠ "" →
        (Command.parse (before ++ word)).args.getLast? = some word := by
  rcases Command.unbroken_or_exists_blank hq with hu | ⟨before, c, last, htext, hb, hu⟩
  · rw [fragment?_of_unbroken hu] at hf
    cases hf
  · have hqb : '"' ∉ before := fun hm => hq (htext ▸ List.mem_append_left _ hm)
    have hwhole : text = String.ofList (before ++ c :: last) := by
      rw [← htext, String.ofList_toList]
    subst hwhole
    obtain ⟨rfl, ht⟩ := eq_of_fragment? hqb hb hu hn hf
    have hline : ∀ word : List Char, String.ofList (before ++ [c]) ++ String.ofList word =
        String.ofList (before ++ c :: word) := by
      intro word
      rw [← String.ofList_append, List.append_assoc]
      rfl
    rw [String.toList_ofList]
    refine ⟨hu, String.ofList (before ++ [c]), (hline last).symm, fun word hw hne => ?_⟩
    have h := getLast?_args_append hqb hb ht hw (mt String.toList_eq_nil_iff.mp hne)
    rwa [← hline, String.ofList_toList] at h

/-! ## 2. The directory of a path -/

/-- The directory that the part of a path up to its last slash resolves to; without a
    slash, the current directory. -/
def IsBase (s : Session) (head : String) (d : Node) : Prop :=
  s.filesystem.resolve (some (if head = "" then s.cwd else head)) s.cwd = .ok (some d) ∧
    d.isDirectory = true

/-- A directory that a path resolves to lies at its own path. -/
theorem resolve_path_of_standing (hs : s.Standing) {path : Option String}
    {name own : String} {nodes : List Node} {id : Json.Value}
    (hr : s.filesystem.resolve path s.cwd = .ok (some (.directory name own nodes id)))
    (seen : String) :
    s.filesystem.resolve (some own) seen = .ok (some (.directory name own nodes id)) := by
  obtain ⟨root, ht, _⟩ := Filesystem.resolve_eq_ok hr
  obtain ⟨hc, hd⟩ := Session.path_of_resolve ht (hs.rooted root ht) hs.canonical hr
  have hown : Path.IsCanonical own := hc
  rw [Filesystem.resolve_of_tree ht, Path.namesFrom_of_isCanonical hown]
  exact congrArg Except.ok hd

/-- **The suggestions are taken from this directory.** -/
theorem isBase_iff (hs : s.Standing) :
    IsBase s head d ↔ d.isDirectory = true ∧ ∃ directory, directoryOf? s head = some directory ∧
      s.filesystem.resolve (some directory) "/" = .ok (some d) := by
  unfold IsBase directoryOf?
  by_cases hh : head = ""
  · have hcwd : s.filesystem.resolve (some s.cwd) s.cwd =
        s.filesystem.resolve (some s.cwd) "/" := by
      unfold Filesystem.resolve
      rw [Path.resolve_of_isCanonical hs.canonical, Path.resolve_of_isCanonical hs.canonical]
    rw [if_pos hh, if_pos hh, hcwd]
    constructor
    · rintro ⟨hr, hi⟩
      exact ⟨hi, s.cwd, rfl, hr⟩
    · rintro ⟨hi, _, he, hr⟩
      cases he
      exact ⟨hr, hi⟩
  · rw [if_neg hh, if_neg hh]
    constructor
    · rintro ⟨hr, hi⟩
      cases d with
      | file => cases hi
      | directory name own nodes id =>
        refine ⟨hi, own, ?_, resolve_path_of_standing hs hr "/"⟩
        rw [hr]
    · rintro ⟨hi, directory, he, hr⟩
      split at he
      · rename_i name own nodes id hr'
        cases he
        rw [resolve_path_of_standing hs hr' "/"] at hr
        cases hr
        exact ⟨hr', hi⟩
      · cases he

/-! ## 3. Suggestions in order -/

/-- A node as a suggestion: its name, and a slash if it is a directory. -/
def shownName (n : Node) : String :=
  if n.isDirectory then n.name ++ "/" else n.name

/-- Names without slashes are told apart by their suggestions. -/
theorem name_eq_of_suggestion_eq {e e' : DirectoryEntry} (he : '/' ∉ e.name.toList)
    (he' : '/' ∉ e'.name.toList) (h : suggestion e = suggestion e') : e.name = e'.name := by
  have hmem : ∀ name : String, '/' ∈ (name ++ "/").toList := by
    intro name
    rw [String.toList_append]
    exact List.mem_append_right _ List.mem_cons_self
  unfold suggestion at h
  split at h
  · split at h
    · exact String.append_left_inj _ |>.mp h
    · exact absurd (h ▸ hmem e.name) he'
  · split at h
    · exact absurd (h ▸ hmem e'.name) he
    · exact h

/-- Texts of which no two are the same come in strict order when they are sorted. -/
theorem pairwise_lt_mergeSort {words : List String} (h : words.Nodup) :
    (words.mergeSort (· ≤ ·)).Pairwise (· < ·) := by
  have hle : (words.mergeSort (· ≤ ·)).Pairwise fun a b => decide (a ≤ b) = true := by
    refine List.pairwise_mergeSort (fun a b c hab hbc => ?_) (fun a b => ?_) words
    · exact decide_eq_true (String.le_trans (of_decide_eq_true hab) (of_decide_eq_true hbc))
    · rw [Bool.or_eq_true, decide_eq_true_iff, decide_eq_true_iff]
      exact String.le_total a b
  have hne : (words.mergeSort (· ≤ ·)).Pairwise (· ≠ ·) :=
    (List.mergeSort_perm words _).nodup_iff.mpr h
  refine (hle.and hne).imp ?_
  rintro a b ⟨hab, hab'⟩
  exact Std.lt_of_le_of_ne (of_decide_eq_true hab) hab'

/-- In a tree that is built from records no two entries of a listing have one name. -/
theorem nodup_names_of_list {fs : Filesystem} (hf : fs.FromRecords) {path : Option String}
    {cwd : String} {entries : List DirectoryEntry} (hl : fs.list path cwd = .ok entries) :
    (entries.map DirectoryEntry.name).Nodup := by
  obtain ⟨d, hr, _, rfl⟩ := Filesystem.list_eq_ok hl
  have hp : ((d.children.map Filesystem.entryOf).mergeSort DirectoryEntry.le).map
      DirectoryEntry.name |>.Perm (d.children.map Node.name) := by
    have h := (List.mergeSort_perm (d.children.map Filesystem.entryOf) DirectoryEntry.le).map
      DirectoryEntry.name
    rwa [List.map_map] at h
  exact hp.nodup_iff.mpr (hf.childrenDistinct hr)

/-- **The suggestions for a path come in strict order**, in a tree that is built from records. -/
theorem pathSuggestions_pairwise (hf : s.filesystem.FromRecords) (path : String) :
    (pathSuggestions s path).Pairwise (· < ·) := by
  rw [pathSuggestions_of_cutAt (cutAt_cutAtSlash path)]
  split
  · exact List.Pairwise.nil
  · split
    · exact List.Pairwise.nil
    · rename_i entries hl
      have hnames := nodup_names_of_list hf hl
      have hslash : ∀ e ∈ entries, '/' ∉ e.name.toList := by
        intro e he
        obtain ⟨d, n, hr, hn, rfl⟩ := Filesystem.exists_child_of_mem_list hl he
        exact (hf.spelled hr hn).slash_notMem
      refine pairwise_lt_mergeSort (List.Nodup.map_on ?_ (hnames.of_map.filter _))
      intro e he e' he' heq
      have hm := (List.mem_filter.mp he).1
      have hm' := (List.mem_filter.mp he').1
      exact List.inj_on_of_nodup_map hnames hm hm'
        (name_eq_of_suggestion_eq (hslash e hm) (hslash e' hm') heq)

/-! ## 4. Where suggestions lead -/

theorem segments_shownName (h : Path.IsSegment n.name) :
    Path.segments (shownName n) = [n.name] := by
  unfold shownName
  split
  · have hs := Path.segments_append_slash n.name ""
    rw [String.append_empty] at hs
    rw [hs, Path.segments_of_isSegment h, Path.segments_empty]
    rfl
  · exact Path.segments_of_isSegment h

theorem isAbsolute_shownName (h : Path.IsSegment n.name) :
    Path.isAbsolute (shownName n) = false := by
  unfold shownName
  split
  · rw [Path.isAbsolute_append h.ne_empty, Path.isAbsolute_of_isSegment h]
  · exact Path.isAbsolute_of_isSegment h

theorem shownName_ne_empty (h : n.name ≠ "") : shownName n ≠ "" := by
  unfold shownName
  split
  · exact fun e => h (String.append_eq_empty_iff.mp e).1
  · exact h

/-- **The part of a path up to its last slash and a suggestion lead to the child.** -/
theorem resolve_append (hs : s.Standing) (hf : s.filesystem.FromRecords)
    (hh : head = "" ∨ head.toList.getLast? = some '/') (hb : IsBase s head d)
    (hn : n ∈ d.children) (hne : n.name ≠ "") :
    s.filesystem.resolve (some (head ++ shownName n)) s.cwd = .ok (some n) := by
  have hname := hf.isName hb.1 hn hne
  obtain ⟨root, ht, hd⟩ := Filesystem.resolve_eq_ok hb.1
  have hstart : (if head = "" then Path.segments s.cwd else Path.namesFrom (some head) s.cwd) =
      Path.namesFrom (some (if head = "" then s.cwd else head)) s.cwd := by
    split
    · rw [Path.namesFrom_of_isCanonical hs.canonical]
    · rfl
  rw [Filesystem.resolve_of_tree ht, Path.namesFrom_append hh (segments_shownName hname.toIsSegment)
    (isAbsolute_shownName hname.toIsSegment) hname, hstart,
    Node.descend_concat_of_nodup (hf.addressed ht).distinct hd hn]

/-! ## 5. Completed paths -/

/-- What is suggested for a path that is cut into `head` and `tail`. Without a directory
    for it, nothing; else, in strict order, the children of the directory that go on with
    `tail`, directories with a slash; and with such a child in the place of `tail`, the
    text has it as its last argument, as long as it has a name. -/
structure CompletesPath (s : Session) (text head tail : String) : Prop where
  nowhere : (¬ ∃ d, IsBase s head d) → complete s text = []
  sorted : (complete s text).Pairwise (· < ·)
  words : ∀ d, IsBase s head d → ∀ word, word ∈ complete s text ↔
    ∃ n ∈ d.children, tail.toList <+: n.name.toList ∧ word = shownName n
  leads : ∃ before, text = before ++ tail ∧
    ∀ d, IsBase s head d → ∀ n ∈ d.children, tail.toList <+: n.name.toList → n.name ≠ "" →
      ∃ arg, (Command.parse (before ++ shownName n)).args.getLast? = some arg ∧
        s.filesystem.resolve (some arg) s.cwd = .ok (some n)

theorem completesPath {command : Command} (hs : s.Standing) (hf : s.filesystem.FromRecords)
    (hq : '"' ∉ text.toList) (hw : Command.ofWord? (Command.parse text).name = some command)
    (hfr : fragment? text = some fragment) (hc : CutAt fragment head tail) :
    CompletesPath s text head tail := by
  have hcomplete : complete s text = pathSuggestions s fragment := complete_of_fragment hw hfr
  have hname : (Command.parse text).name ≠ "" := ne_empty_of_ofWord? hw
  refine ⟨fun hno => ?_, ?_, fun d hb word => ?_, ?_⟩
  · rw [hcomplete, List.eq_nil_iff_forall_not_mem]
    intro word hm
    obtain ⟨directory, entries, hd, hl, _⟩ := (mem_pathSuggestions hc).mp hm
    obtain ⟨d, hr, hi, _⟩ := Filesystem.list_eq_ok hl
    exact hno ⟨d, (isBase_iff hs).mpr ⟨hi, directory, hd, hr⟩⟩
  · rw [hcomplete]
    exact pathSuggestions_pairwise hf fragment
  · obtain ⟨hi, directory, hd, hr⟩ := (isBase_iff hs).mp hb
    rw [hcomplete]
    exact mem_pathSuggestions_iff_child hc hd hr hi
  · obtain ⟨hu, before, rfl, hbefore⟩ := exists_before hq hname hfr
    refine ⟨before ++ head, ?_, fun d hb n hn _ hne => ⟨head ++ shownName n, ?_, ?_⟩⟩
    · rw [hc.whole, String.append_assoc]
    · rw [String.append_assoc]
      refine hbefore _ ?_ ?_
      · rw [String.toList_append]
        rw [hc.toList_eq] at hu
        refine Command.Unbroken.append (List.forall_mem_append.mp hu).1 ?_
        exact unbroken_suggestion (e := Filesystem.entryOf n) (hf.spelled hb.1 hn)
      · exact fun e => shownName_ne_empty hne (String.append_eq_empty_iff.mp e).2
    · exact resolve_append hs hf hc.ends hb hn hne

/-- **Paths are completed by what is there**, after every run of a session that has a
    filesystem from records, and for every text without quotes that names a command. -/
theorem run_completesPath {fs : Filesystem} {path : Option String} {command : Command}
    (hf : fs.FromRecords) (hs : Session.start fs path = .ok s) (events : List Session.Event)
    (hq : '"' ∉ text.toList) (hw : Command.ofWord? (Command.parse text).name = some command)
    (hfr : fragment? text = some fragment) (hc : CutAt fragment head tail) :
    CompletesPath (s.run events) text head tail := by
  have hstand := Session.start_standing (fun _ => hf.admissible.tree_rooted) hs
  have hrecords := Session.run_fromRecords (Session.start_filesystem hs ▸ hf) events
  exact completesPath (Session.run_standing hstand events) hrecords hq hw hfr hc

/-- A path with dots and repeated slashes, completed after a move. -/
theorem run_completesPath_dots :
    ∃ made s after, Filesystem.ofRecords {} [.bare (.int 1) "Gate"] = .ok made ∧
      Session.start made.result none = .ok s ∧
      after = s.run [.exec (some "cd projects")] ∧ after.cwd = "/projects" ∧
      CompletesPath after " cat x gate//./../gate/ov" "gate//./../gate/" "ov" ∧
      "overview" ∈ complete after " cat x gate//./../gate/ov" := by
  obtain ⟨made, hm⟩ : ∃ made, Filesystem.ofRecords {} [.bare (.int 1) "Gate"] = .ok made :=
    ⟨_, rfl⟩
  have hs : Session.start made.result none = .ok { filesystem := made.result } := rfl
  have hc : CutAt "gate//./../gate/ov" "gate//./../gate/" "ov" :=
    ⟨by decide, by decide, Or.inr rfl⟩
  have hw : Command.ofWord? (Command.parse " cat x gate//./../gate/ov").name = some .read := by
    decide
  have h := run_completesPath (.built hm) hs [.exec (some "cd projects")] (by decide) hw
    (by decide) hc
  refine ⟨made, _, _, hm, hs, rfl, ?_, h, ?_⟩
  · cases hm
    rfl
  · cases hm
    exact (h.words _ ⟨rfl, rfl⟩ "overview").mpr ⟨_, List.mem_cons_self, by decide, by decide⟩

end Portfolio.Completion
