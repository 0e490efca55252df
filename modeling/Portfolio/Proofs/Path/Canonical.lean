/-
  File:      Portfolio/Proofs/Path/Canonical.lean
  Subject:   Names and canonical paths: rendering names and reading them back.

  * `IsSegment`, `IsName`: what can stand between two slashes, and what among
    that leads on (`.` and `..` do not).
  * `segments_render`: the names of a rendered path are the names that were
    rendered, save the empty ones; `render_inj`: names without slashes are told
    apart by their paths.
  * `namesFrom`: the names that a path leads through as seen from a directory;
    `resolve` renders them, and they are read back from what it renders
    (`segments_resolve`).
  * `IsCanonical`: the root or names between single slashes, each of them
    leading on. Resolving keeps a current directory canonical
    (`isCanonical_resolve`) and a canonical path as it is
    (`resolve_of_isCanonical`).
  * `namesFrom_of_isSegment`: where a single name leads as a path;
    `namesFrom_append`: where it leads after another path.
-/
import Portfolio.Path

namespace Portfolio.Path

/-! ## 1. Names -/

/-- A name as `segments` gives it: not empty and without a slash. -/
structure IsSegment (name : String) : Prop where
  ne_empty : name ≠ ""
  no_slash : '/' ∉ name.toList

/-- A name that leads on from a directory. -/
structure IsName (name : String) : Prop extends IsSegment name where
  ne_dot : name ≠ "."
  ne_dots : name ≠ ".."

theorem isName_iff {name : String} :
    IsName name ↔ name ≠ "" ∧ '/' ∉ name.toList ∧ name ≠ "." ∧ name ≠ ".." :=
  ⟨fun h => ⟨h.ne_empty, h.no_slash, h.ne_dot, h.ne_dots⟩,
    fun ⟨h1, h2, h3, h4⟩ => ⟨⟨h1, h2⟩, h3, h4⟩⟩

instance (name : String) : Decidable (IsName name) :=
  decidable_of_iff _ isName_iff.symm

theorem not_mem_of_mem_splitOn {t w : List Char} (h : w ∈ t.splitOn '/') : '/' ∉ w := by
  induction t generalizing w with
  | nil =>
    rw [List.splitOn_nil, List.mem_singleton] at h
    subst h
    exact List.not_mem_nil
  | cons c t ih =>
    rw [List.splitOn_cons_eq_if_modifyHead] at h
    split at h
    · rcases List.mem_cons.mp h with rfl | h
      · exact List.not_mem_nil
      · exact ih h
    · rename_i hc
      have hne : ¬ c = '/' := by simpa using hc
      cases hs : t.splitOn '/' with
      | nil => exact absurd hs (List.splitOn_ne_nil _ _)
      | cons r rs =>
        rw [hs, List.modifyHead_cons] at h
        rw [hs] at ih
        rcases List.mem_cons.mp h with rfl | h
        · intro hm
          rcases List.mem_cons.mp hm with e | hm
          · exact hne e.symm
          · exact ih List.mem_cons_self hm
        · exact ih (List.mem_cons_of_mem _ h)

theorem isSegment_of_mem_segments {path name : String} (h : name ∈ segments path) :
    IsSegment name := by
  unfold segments at h
  obtain ⟨w, hw, rfl⟩ := List.mem_map.mp h
  obtain ⟨hw, hne⟩ := List.mem_filter.mp hw
  refine ⟨fun e => ?_, ?_⟩
  · have : w = [] := by simpa using congrArg String.toList e
    subst this
    cases hne
  · rw [String.toList_ofList]
    exact not_mem_of_mem_splitOn hw

/-! ## 2. Rendering names -/

theorem render_nil : render [] = "/" := rfl

theorem toList_render (names : List String) :
    (render names).toList = '/' :: ['/'].intercalate (names.map String.toList) := by
  unfold render
  rw [String.toList_append, String.toList_intercalate]
  rfl

theorem render_append {names rest : List String} (h : names ≠ []) (hr : rest ≠ []) :
    render (names ++ rest) = render names ++ "/" ++ "/".intercalate rest := by
  unfold render
  rw [String.intercalate_append_of_ne_nil h hr]
  simp [String.append_assoc]

theorem render_concat {names : List String} (h : names ≠ []) (name : String) :
    render (names ++ [name]) = render names ++ "/" ++ name := by
  rw [render_append h (List.cons_ne_nil _ _)]
  rfl

theorem isAbsolute_render (names : List String) : isAbsolute (render names) = true := by
  unfold isAbsolute
  rw [toList_render]
  rfl

/-- The pieces between the slashes of a rendered path: an empty one before the
    first slash, then the names. -/
theorem splitOn_render {names : List String} (hs : ∀ n ∈ names, '/' ∉ n.toList)
    (hne : names ≠ []) : (render names).toList.splitOn '/' = [] :: names.map String.toList := by
  rw [toList_render]
  have h := List.splitOn_append_cons_self (a := '/') []
    (['/'].intercalate (names.map String.toList))
  rw [List.nil_append] at h
  rw [h, List.splitOn_nil, List.splitOn_intercalate]
  · rfl
  · intro l hl
    obtain ⟨n, hn, rfl⟩ := List.mem_map.mp hl
    exact hs n hn
  · simpa using hne

/-- **The names of a rendered path** are those that were rendered, save the
    empty ones. -/
theorem segments_render {names : List String} (hs : ∀ n ∈ names, '/' ∉ n.toList) :
    segments (render names) = names.filter (· ≠ "") := by
  by_cases hne : names = []
  · subst hne
    rfl
  · unfold segments
    rw [splitOn_render hs hne, List.filter_cons_of_neg (by simp), List.filter_map, List.map_map]
    have hid : String.ofList ∘ String.toList = id := by
      funext s
      exact String.ofList_toList
    rw [hid, List.map_id]
    refine List.filter_congr fun n _ => ?_
    rw [Bool.eq_iff_iff]
    simp [String.toList_eq_nil_iff]

theorem segments_render_of_isSegment {names : List String} (h : ∀ n ∈ names, IsSegment n) :
    segments (render names) = names := by
  rw [segments_render fun n hn => (h n hn).no_slash, List.filter_eq_self]
  intro n hn
  simpa using (h n hn).ne_empty

theorem render_eq_root {names : List String} (hs : ∀ n ∈ names, '/' ∉ n.toList)
    (h : render names = "/") : names = [] ∨ names = [""] := by
  by_cases hne : names = []
  · exact Or.inl hne
  · have hsp := splitOn_render hs hne
    rw [h] at hsp
    have hmap : names.map String.toList = [[]] := by
      have e : ("/" : String).toList.splitOn '/' = [[], []] := rfl
      rw [e] at hsp
      exact (List.cons.inj hsp).2.symm
    cases names with
    | nil => exact absurd rfl hne
    | cons n rest =>
      obtain ⟨h1, h2⟩ := List.cons.inj hmap
      have hn : n = "" := String.toList_eq_nil_iff.mp h1
      have hr : rest = [] := List.map_eq_nil_iff.mp h2
      rw [hn, hr]
      exact Or.inr rfl

/-- **Names without slashes are told apart by their paths**, with one
    exception: the empty name alone has the path of the root. -/
theorem render_inj {names names' : List String} (hs : ∀ n ∈ names, '/' ∉ n.toList)
    (hs' : ∀ n ∈ names', '/' ∉ n.toList) (hne : names ≠ [""]) (hne' : names' ≠ [""])
    (h : render names = render names') : names = names' := by
  by_cases he : names = []
  · subst he
    rw [render_nil] at h
    rcases render_eq_root hs' h.symm with e | e
    · exact e.symm
    · exact absurd e hne'
  · by_cases he' : names' = []
    · subst he'
      rw [render_nil] at h
      rcases render_eq_root hs h with e | e
      · exact e
      · exact absurd e hne
    · have hsp : (render names).toList.splitOn '/' = (render names').toList.splitOn '/' := by
        rw [h]
      rw [splitOn_render hs he, splitOn_render hs' he'] at hsp
      exact (List.map_inj_right fun _ _ => String.toList_inj.mp).mp (List.cons.inj hsp).2

/-! ## 3. Joining -/

theorem join_root (name : String) : join "/" name = render [name] := by
  unfold join render
  rw [if_pos rfl]
  simp

theorem join_render {names : List String} (h : names ≠ []) (hr : render names ≠ "/")
    (name : String) : join (render names) name = render (names ++ [name]) := by
  rw [render_concat h]
  exact if_neg hr

theorem render_append_ne_root {names : List String} (h : names ≠ []) (hr : render names ≠ "/")
    (rest : List String) : render (names ++ rest) ≠ "/" := by
  intro e
  cases rest with
  | nil => exact hr (by rwa [List.append_nil] at e)
  | cons n rest =>
    rw [render_append h (List.cons_ne_nil _ _)] at e
    have hl := congrArg String.length e
    simp [render, String.length_append, Nat.add_assoc] at hl

/-- Joining names to a path below the root is rendering them after its names. -/
theorem foldl_join_render {names : List String} (h : names ≠ []) (hr : render names ≠ "/")
    (rest : List String) : rest.foldl join (render names) = render (names ++ rest) := by
  induction rest generalizing names with
  | nil => rw [List.append_nil]; rfl
  | cons n rest ih =>
    rw [List.foldl_cons, join_render h hr, ih, List.append_assoc]
    · rfl
    · simp
    · exact render_append_ne_root h hr _

/-- Joining one name after the other from the root is rendering them, unless
    the first one is empty: the root keeps its path then. -/
theorem foldl_join_root {names : List String} (h : names.head? ≠ some "") :
    names.foldl join "/" = render names := by
  cases names with
  | nil => rfl
  | cons first rest =>
    have hf : first ≠ "" := fun e => h (by rw [e]; rfl)
    have hr : render [first] ≠ "/" := by
      intro e
      rw [← join_root] at e
      exact hf (by simpa [join] using congrArg String.toList e)
    rw [List.foldl_cons, join_root, foldl_join_render (List.cons_ne_nil _ _) hr]
    rfl

/-! ## 4. Walking -/

theorem mem_step {names : List String} {name n : String} (h : n ∈ step names name) :
    n ∈ names ∨ n = name ∧ name ≠ "." ∧ name ≠ ".." := by
  unfold step at h
  split at h
  · exact Or.inl h
  · rename_i h1
    split at h
    · exact Or.inl (List.dropLast_subset _ h)
    · rename_i h2
      rcases List.mem_append.mp h with h | h
      · exact Or.inl h
      · exact Or.inr ⟨List.mem_singleton.mp h, h1, h2⟩

/-- What a walk leads through was there at the start or is a name of the path
    that leads on. -/
theorem mem_walk {start names : List String} {n : String} (h : n ∈ walk start names) :
    n ∈ start ∨ n ∈ names ∧ n ≠ "." ∧ n ≠ ".." := by
  unfold walk at h
  induction names generalizing start with
  | nil => exact Or.inl h
  | cons name rest ih =>
    rw [List.foldl_cons] at h
    rcases ih h with h | ⟨h, hd⟩
    · rcases mem_step h with h | ⟨rfl, hd⟩
      · exact Or.inl h
      · exact Or.inr ⟨List.mem_cons_self, hd⟩
    · exact Or.inr ⟨List.mem_cons_of_mem _ h, hd⟩

theorem step_of_isName {name : String} (h : IsName name) (names : List String) :
    step names name = names ++ [name] := by
  unfold step
  rw [if_neg h.ne_dot, if_neg h.ne_dots]

theorem walk_of_isName {names : List String} (h : ∀ n ∈ names, IsName n) (start : List String) :
    walk start names = start ++ names := by
  unfold walk
  induction names generalizing start with
  | nil => rw [List.append_nil]; rfl
  | cons name rest ih =>
    have hn := h name List.mem_cons_self
    rw [List.foldl_cons, ih fun n hm => h n (List.mem_cons_of_mem _ hm), step_of_isName hn,
      List.append_assoc]
    rfl

/-- A name that leads on at the end of a walk comes after where the walk has led. -/
theorem walk_concat {name : String} (h : IsName name) (start names : List String) :
    walk start (names ++ [name]) = walk start names ++ [name] := by
  unfold walk
  rw [List.foldl_append, List.foldl_cons, List.foldl_nil, step_of_isName h]

/-! ## 5. Resolving -/

theorem orElse_of_ne_empty {path : String} (h : path ≠ "") (cwd : String) :
    orElse (some path) cwd = path := by
  unfold orElse
  exact if_neg h

/-- The names that a path leads through, as seen from `cwd`. -/
def namesFrom (path : Option String) (cwd : String) : List String :=
  walk (if isAbsolute (orElse path cwd) then [] else segments cwd) (segments (orElse path cwd))

/-- A path that starts at the root leads through the same names from everywhere. -/
theorem namesFrom_of_isAbsolute {path : String} (h : isAbsolute path = true) (cwd : String) :
    namesFrom (some path) cwd = walk [] (segments path) := by
  have hne : path ≠ "" := by
    rintro rfl
    exact absurd h (by decide)
  unfold namesFrom
  rw [orElse_of_ne_empty hne, if_pos h]

theorem resolve_eq_render (path : Option String) (cwd : String) :
    resolve path cwd = render (namesFrom path cwd) := rfl

theorem isSegment_of_mem_namesFrom {path : Option String} {cwd n : String}
    (h : n ∈ namesFrom path cwd) : IsSegment n := by
  rcases mem_walk h with h | ⟨h, _⟩
  · split at h
    · exact absurd h List.not_mem_nil
    · exact isSegment_of_mem_segments h
  · exact isSegment_of_mem_segments h

/-- What a path resolves to leads through the same names. -/
theorem segments_resolve (path : Option String) (cwd : String) :
    segments (resolve path cwd) = namesFrom path cwd :=
  segments_render_of_isSegment fun _ h => isSegment_of_mem_namesFrom h

/-! ## 6. Canonical paths -/

/-- The root, or names that lead on, each after one slash. -/
def IsCanonical (path : String) : Prop :=
  ∃ names, (∀ n ∈ names, IsName n) ∧ path = render names

theorem isCanonical_root : IsCanonical "/" :=
  ⟨[], fun _ h => absurd h List.not_mem_nil, rfl⟩

theorem isName_of_mem_segments {path name : String} (hp : IsCanonical path)
    (h : name ∈ segments path) : IsName name := by
  obtain ⟨names, hn, rfl⟩ := hp
  rw [segments_render_of_isSegment fun n hm => (hn n hm).toIsSegment] at h
  exact hn name h

theorem isName_of_mem_namesFrom {path : Option String} {cwd n : String} (hc : IsCanonical cwd)
    (h : n ∈ namesFrom path cwd) : IsName n := by
  have hs := isSegment_of_mem_namesFrom h
  rcases mem_walk h with h | ⟨_, h1, h2⟩
  · split at h
    · exact absurd h List.not_mem_nil
    · exact isName_of_mem_segments hc h
  · exact ⟨hs, h1, h2⟩

/-- **Seen from a canonical directory every path is canonical.** -/
theorem isCanonical_resolve (path : Option String) {cwd : String} (hc : IsCanonical cwd) :
    IsCanonical (resolve path cwd) :=
  ⟨namesFrom path cwd, fun _ h => isName_of_mem_namesFrom hc h, rfl⟩

theorem namesFrom_render {names : List String} (h : ∀ n ∈ names, IsName n) (cwd : String) :
    namesFrom (some (render names)) cwd = names := by
  rw [namesFrom_of_isAbsolute (isAbsolute_render names),
    segments_render_of_isSegment fun n hm => (h n hm).toIsSegment, walk_of_isName h,
    List.nil_append]

/-- **A canonical path stands for itself**, wherever it is seen from. -/
theorem resolve_of_isCanonical {path : String} (hp : IsCanonical path) (cwd : String) :
    resolve (some path) cwd = path := by
  obtain ⟨names, hn, rfl⟩ := hp
  rw [resolve_eq_render, namesFrom_render hn]

/-- A canonical path leads through its names from everywhere. -/
theorem namesFrom_of_isCanonical {path : String} (hp : IsCanonical path) (cwd : String) :
    namesFrom (some path) cwd = segments path := by
  rw [← segments_resolve, resolve_of_isCanonical hp]

/-! ## 7. A name as a path -/

theorem segments_of_isSegment {name : String} (h : IsSegment name) : segments name = [name] := by
  have hs : name.toList.splitOn '/' = [name.toList] := List.splitOn_eq_singleton h.no_slash
  have hne : name.toList ≠ [] := fun e => h.ne_empty (String.toList_eq_nil_iff.mp e)
  unfold segments
  rw [hs, List.filter_cons_of_pos (by simpa using hne)]
  simp

theorem isAbsolute_of_isSegment {name : String} (h : IsSegment name) : isAbsolute name = false :=
  Bool.eq_false_iff.mpr fun ha => h.no_slash (List.mem_of_head? (eq_of_beq ha))

/-- A name leads on from the current directory, goes back, or stays. -/
theorem namesFrom_of_isSegment {name : String} (h : IsSegment name) (cwd : String) :
    namesFrom (some name) cwd = step (segments cwd) name := by
  unfold namesFrom
  rw [orElse_of_ne_empty h.ne_empty, isAbsolute_of_isSegment h, segments_of_isSegment h,
    if_neg Bool.false_ne_true]
  rfl

/-- The path `.` leads through the names of the current directory. -/
theorem namesFrom_dot (cwd : String) : namesFrom (some ".") cwd = segments cwd :=
  namesFrom_of_isSegment ⟨by decide, by decide⟩ cwd

/-- The path `..` leads through all of them but the last. -/
theorem namesFrom_dots (cwd : String) : namesFrom (some "..") cwd = (segments cwd).dropLast :=
  namesFrom_of_isSegment ⟨by decide, by decide⟩ cwd

/-- A name that leads on comes after them. -/
theorem namesFrom_of_isName {name : String} (h : IsName name) (cwd : String) :
    namesFrom (some name) cwd = segments cwd ++ [name] := by
  rw [namesFrom_of_isSegment h.toIsSegment, step_of_isName h]

/-! ## 8. A name after a path -/

/-- The names before a slash and those after it. -/
theorem segments_append_slash (before after : String) :
    segments (before ++ "/" ++ after) = segments before ++ segments after := by
  have hslash : ("/" : String).toList = ['/'] := rfl
  unfold segments
  rw [String.toList_append, String.toList_append, hslash, List.append_assoc, List.singleton_append,
    List.splitOn_append_cons_self, List.filter_append, List.map_append]

theorem segments_empty : segments "" = [] := rfl

theorem isAbsolute_append {path : String} (h : path ≠ "") (more : String) :
    isAbsolute (path ++ more) = isAbsolute path := by
  obtain ⟨c, rest, hc⟩ := List.exists_cons_of_ne_nil (mt String.toList_eq_nil_iff.mp h)
  unfold isAbsolute
  rw [String.toList_append, hc]
  rfl

/-- **One name more**, after nothing or after a path that ends in a slash: it comes after
    where that path leads. -/
theorem namesFrom_append {head last name : String}
    (hh : head = "" ∨ head.toList.getLast? = some '/') (hs : segments last = [name])
    (ha : isAbsolute last = false) (hn : IsName name) (cwd : String) :
    namesFrom (some (head ++ last)) cwd =
      (if head = "" then segments cwd else namesFrom (some head) cwd) ++ [name] := by
  rcases hh with rfl | hl
  · have hne : last ≠ "" := by
      rintro rfl
      rw [segments_empty] at hs
      cases hs
    unfold namesFrom
    rw [String.empty_append, orElse_of_ne_empty hne, ha, hs, if_neg Bool.false_ne_true, if_pos rfl]
    exact walk_concat hn _ []
  · obtain ⟨before, hb⟩ := List.getLast?_eq_some_iff.mp hl
    have hhead : head = String.ofList before ++ "/" := by
      rw [← String.toList_inj, String.toList_append, String.toList_ofList, hb]
      rfl
    have hne : head ≠ "" := by
      rintro rfl
      cases hl
    have hne' : head ++ last ≠ "" := fun e => hne (String.append_eq_empty_iff.mp e).1
    have hsegments : segments (head ++ last) = segments head ++ [name] := by
      have h := segments_append_slash (String.ofList before) ""
      rw [segments_empty, List.append_nil, String.append_empty] at h
      rw [hhead, h, segments_append_slash, hs]
    rw [if_neg hne]
    unfold namesFrom
    rw [orElse_of_ne_empty hne, orElse_of_ne_empty hne', isAbsolute_append hne, hsegments]
    exact walk_concat hn _ _

end Portfolio.Path
