/-
  File:      Portfolio/Proofs/Path/Resolving.lean
  Subject:   Laws of resolving a path.

  * `namesFrom_slash`: the names of a path that goes on after a slash.
  * `isCanonical_iff_resolve_root`: the canonical paths are the fixed points of
    resolving, so being canonical can be computed. `canonical_fixed` has all of it.
  * `climb`: how many names of the place where it starts a walk leaves behind.
    `walk_eq_take_append`: what is left of that place, then what the walk leads
    through from the root.
  * By this the exact conditions under which a path leads from a current directory to
    where it leads from the canonical form of that directory
    (`resolve_canonicalForm_iff`), and under which the result is canonical
    (`isCanonical_resolve_iff`). Names of the current directory that are `.` or `..`
    stay in the result unless the path climbs over them.
-/
import Portfolio.Proofs.Path.Canonical

namespace Portfolio.Path

/-! ## 1. One path after another -/

theorem walk_append (start names more : List String) :
    walk start (names ++ more) = walk (walk start names) more :=
  List.foldl_append

/-- A relative path leads on from the names of the current directory. -/
theorem namesFrom_of_relative {path : String} (hne : path ≠ "") (hr : isAbsolute path = false)
    (cwd : String) : namesFrom (some path) cwd = walk (segments cwd) (segments path) := by
  unfold namesFrom
  rw [orElse_of_ne_empty hne, hr, if_neg Bool.false_ne_true]

/-- **What goes on after a slash leads on from where the path before it leads.** -/
theorem namesFrom_slash {before : String} (hb : before ≠ "") (after cwd : String) :
    namesFrom (some (before ++ "/" ++ after)) cwd =
      walk (namesFrom (some before) cwd) (segments after) := by
  have hne : before ++ "/" ++ after ≠ "" := by
    intro e
    have hleft := (String.append_eq_empty_iff.mp e).1
    exact hb (String.append_eq_empty_iff.mp hleft).1
  have habs : isAbsolute (before ++ "/" ++ after) = isAbsolute before := by
    rw [String.append_assoc, isAbsolute_append hb]
  unfold namesFrom
  rw [orElse_of_ne_empty hne, orElse_of_ne_empty hb, habs, segments_append_slash, walk_append]

/-- Two paths are one exactly if they lead through the same names. -/
theorem resolve_eq_resolve_iff {path path' : Option String} {cwd cwd' : String} :
    resolve path cwd = resolve path' cwd' ↔ namesFrom path cwd = namesFrom path' cwd' := by
  constructor
  · intro h
    rw [← segments_resolve path cwd, h, segments_resolve]
  · intro h
    rw [resolve_eq_render, h, resolve_eq_render]

/-! ## 2. Fixed points -/

/-- **The canonical paths are the fixed points of resolving.** -/
theorem isCanonical_iff_resolve_root {path : String} :
    IsCanonical path ↔ resolve (some path) "/" = path := by
  constructor
  · intro h
    exact resolve_of_isCanonical h "/"
  · intro h
    have hc := isCanonical_resolve (some path) isCanonical_root
    rwa [h] at hc

instance (path : String) : Decidable (IsCanonical path) :=
  decidable_of_iff _ isCanonical_iff_resolve_root.symm

/-- The root, or a slash before names that are joined by slashes. -/
theorem isCanonical_iff {path : String} :
    IsCanonical path ↔ path = "/" ∨ ∃ names, names ≠ [] ∧
      (∀ n ∈ names, n ≠ "" ∧ '/' ∉ n.toList ∧ n ≠ "." ∧ n ≠ "..") ∧
      path = "/" ++ "/".intercalate names := by
  constructor
  · rintro ⟨names, hn, rfl⟩
    by_cases hne : names = []
    · exact Or.inl (hne ▸ render_nil)
    · exact Or.inr ⟨names, hne, fun n hm => isName_iff.mp (hn n hm), rfl⟩
  · rintro (rfl | ⟨names, _, hn, rfl⟩)
    · exact isCanonical_root
    · exact ⟨names, fun n hm => isName_iff.mpr (hn n hm), rfl⟩

/-- **Canonical paths**: what they look like; seen from one of them every path is one; and
    they are the paths that resolving leaves as they are, from everywhere or from the
    root. -/
theorem canonical_fixed :
    (∀ path, IsCanonical path ↔ path = "/" ∨ ∃ names, names ≠ [] ∧
      (∀ n ∈ names, n ≠ "" ∧ '/' ∉ n.toList ∧ n ≠ "." ∧ n ≠ "..") ∧
      path = "/" ++ "/".intercalate names) ∧
    (∀ path cwd, IsCanonical cwd → IsCanonical (resolve path cwd)) ∧
    (∀ path, IsCanonical path ↔ ∀ cwd, resolve (some path) cwd = path) ∧
    ∀ path, IsCanonical path ↔ resolve (some path) "/" = path := by
  refine ⟨fun path => isCanonical_iff, fun path cwd hc => isCanonical_resolve path hc,
    fun path => ⟨?_, ?_⟩, fun path => isCanonical_iff_resolve_root⟩
  · intro h cwd
    exact resolve_of_isCanonical h cwd
  · intro h
    exact isCanonical_iff_resolve_root.mpr (h "/")

/-- Seen from the directory of a project, and the directory itself. -/
theorem canonical_fixed_gate :
    IsCanonical "/projects/gate" ∧
      IsCanonical (resolve (some "..//./x/../../..") "/projects/gate") ∧
      ∀ cwd, resolve (some "/projects/gate") cwd = "/projects/gate" := by
  have hc : IsCanonical "/projects/gate" := by decide
  obtain ⟨_, hkeeps, hfixed, _⟩ := canonical_fixed
  exact ⟨hc, hkeeps _ _ hc, (hfixed _).mp hc⟩

/-! ## 3. How far a walk climbs -/

/-- How many names of the place where it starts a walk leaves behind: each name is
    taken back by the next `..` that is free, and a `..` that finds none takes one
    from the start. -/
def climb : List String → Nat
  | [] => 0
  | name :: rest =>
    if name = "." then climb rest
    else if name = ".." then climb rest + 1
    else climb rest - 1

theorem climb_cons (name : String) (rest : List String) :
    climb (name :: rest) =
      if name = "." then climb rest else if name = ".." then climb rest + 1 else climb rest - 1 :=
  rfl

theorem walk_cons (start : List String) (name : String) (rest : List String) :
    walk start (name :: rest) = walk (step start name) rest :=
  rfl

/-- **A walk keeps the start up to where it climbs**, and leads on from there as it
    does from the root. -/
theorem walk_eq_take_append (start names : List String) :
    walk start names = start.take (start.length - climb names) ++ walk [] names := by
  induction names generalizing start with
  | nil => simp [walk, climb]
  | cons name rest ih =>
    rw [walk_cons, walk_cons, climb_cons, ih (step start name), ih (step [] name)]
    unfold step
    by_cases hdot : name = "."
    · simp only [if_pos hdot, List.take_nil, List.nil_append]
    · simp only [if_neg hdot]
      by_cases hdots : name = ".."
      · have hback : start.dropLast.take (start.dropLast.length - climb rest) =
            start.take (start.length - (climb rest + 1)) := by
          rw [List.length_dropLast, List.dropLast_eq_take, List.take_take]
          congr 1
          omega
        simp only [if_pos hdots, hback, List.dropLast_nil, List.take_nil, List.nil_append]
      · simp only [if_neg hdots]
        rw [List.nil_append, List.length_append, List.length_singleton, ← List.append_assoc]
        congr 1
        -- the first `..` of the rest that is free takes the new name back
        by_cases hfree : climb rest = 0
        · have hall : (start ++ [name]).take (start.length + 1) = start ++ [name] :=
            List.take_of_length_le (by simp)
          rw [hfree, Nat.zero_sub, Nat.sub_zero, Nat.sub_zero, hall, List.take_length]
          rfl
        · have hle : start.length + 1 - climb rest ≤ start.length := by omega
          have hlen : start.length + 1 - climb rest = start.length - (climb rest - 1) := by omega
          have hnone : 1 - climb rest = 0 := by omega
          rw [List.take_append_of_le_length hle, hlen, hnone, List.take_zero, List.append_nil]

theorem climb_le_length (names : List String) : climb names ≤ names.length := by
  induction names with
  | nil => exact Nat.le_refl 0
  | cons name rest ih =>
    rw [climb_cons, List.length_cons]
    split
    · omega
    · split <;> omega

/-- Only a walk that goes back with every name climbs as far as it is long. -/
theorem length_le_climb_iff {names : List String} :
    names.length ≤ climb names ↔ ∀ n ∈ names, n = ".." := by
  induction names with
  | nil => simp [climb]
  | cons name rest ih =>
    have hle := climb_le_length rest
    rw [List.forall_mem_cons, ← ih, climb_cons, List.length_cons]
    by_cases hdots : name = ".."
    · subst hdots
      have hdot : ".." ≠ "." := by decide
      rw [if_neg hdot, if_pos rfl]
      exact ⟨fun h => ⟨rfl, by omega⟩, fun h => by omega⟩
    · have hlt : (if name = "." then climb rest else if name = ".." then climb rest + 1
          else climb rest - 1) ≤ climb rest := by
        rw [if_neg hdots]
        split <;> omega
      exact ⟨fun h => by omega, fun h => absurd h.1 hdots⟩

theorem length_step_le (start : List String) (name : String) :
    (step start name).length ≤ start.length + 1 := by
  unfold step
  split
  · omega
  · split <;> simp only [List.length_dropLast, List.length_append, List.length_singleton] <;> omega

/-- No walk gets longer than by its names. -/
theorem length_walk_le (start names : List String) :
    (walk start names).length ≤ start.length + names.length := by
  induction names generalizing start with
  | nil => exact Nat.le_refl _
  | cons name rest ih =>
    have hstep := length_step_le start name
    have hrest := ih (step start name)
    rw [walk_cons, List.length_cons]
    omega

/-- A walk that gets longer by all of its names leads on with each of them. -/
theorem leads_on_of_length_walk {start names : List String}
    (h : start.length + names.length ≤ (walk start names).length) :
    ∀ n ∈ names, n ≠ "." ∧ n ≠ ".." := by
  induction names generalizing start with
  | nil => exact List.forall_mem_nil _
  | cons name rest ih =>
    have hstep := length_step_le start name
    have hrest := length_walk_le (step start name) rest
    rw [walk_cons, List.length_cons] at h
    have hmore : (step start name).length + rest.length ≤ (walk (step start name) rest).length := by
      omega
    refine List.forall_mem_cons.mpr ⟨⟨?_, ?_⟩, ih hmore⟩
    · rintro rfl
      have hdot : (step start ".").length = start.length := rfl
      omega
    · rintro rfl
      have hdots : (step start "..").length = start.length - 1 := List.length_dropLast
      omega

/-! ## 4. How the current directory is spelled -/

/-- From the root a path leads through its names by their meaning, absolute or not. -/
theorem namesFrom_root (cwd : String) : namesFrom (some cwd) "/" = walk [] (segments cwd) := by
  by_cases hne : cwd = ""
  · subst hne
    rfl
  · unfold namesFrom
    rw [orElse_of_ne_empty hne]
    split <;> rfl

/-- No name of the path is `.` or `..`. -/
def Undotted (path : String) : Prop :=
  ∀ n ∈ segments path, n ≠ "." ∧ n ≠ ".."

theorem Undotted.isName {path : String} (h : Undotted path) : ∀ n ∈ segments path, IsName n :=
  fun n hn => ⟨isSegment_of_mem_segments hn, (h n hn).1, (h n hn).2⟩

/-- A start that is reached once more from the root, with the names that are `.` or `..`
    taken by their meaning: a walk leads to the same place exactly if there are none of
    them, or if it climbs over the whole start. -/
theorem walk_walk_root_iff {path : String} {names : List String} :
    walk (segments path) names = walk (walk [] (segments path)) names ↔
      Undotted path ∨ (segments path).length ≤ climb names := by
  constructor
  · intro h
    by_cases hclimb : (segments path).length ≤ climb names
    · exact Or.inr hclimb
    · rw [walk_eq_take_append, walk_eq_take_append (walk [] (segments path))] at h
      have hlen := congrArg List.length (List.append_cancel_right h)
      rw [List.length_take, List.length_take] at hlen
      -- something is left of both starts, and as much, so they are equally long
      have hle : ([] : List String).length + (segments path).length ≤
          (walk [] (segments path)).length := by
        rw [List.length_nil]
        omega
      exact Or.inl (leads_on_of_length_walk hle)
  · rintro (hplain | hclimb)
    · rw [walk_of_isName hplain.isName [], List.nil_append]
    · have hle := length_walk_le [] (segments path)
      rw [List.length_nil] at hle
      have hgone : (segments path).length - climb names = 0 := by omega
      have hgone' : (walk [] (segments path)).length - climb names = 0 := by omega
      rw [walk_eq_take_append, walk_eq_take_append (walk [] (segments path)), hgone, hgone',
        List.take_zero, List.take_zero]

/-- A relative path walked twice leads to where it leads at once exactly if all of its
    names are `..`. -/
theorem walk_self_iff {names : List String} :
    walk names names = walk [] names ↔ ∀ n ∈ names, n = ".." := by
  rw [walk_eq_take_append names, List.append_left_eq_self, List.take_eq_nil_iff,
    ← length_le_climb_iff]
  constructor
  · rintro (h | h)
    · omega
    · rw [h]
      exact Nat.zero_le _
  · intro h
    exact Or.inl (by omega)

/-- A relative path without names is empty. -/
theorem eq_empty_of_segments_eq_nil {path : String} (hs : segments path = [])
    (hr : isAbsolute path = false) : path = "" := by
  unfold isAbsolute at hr
  rw [← String.toList_eq_nil_iff]
  cases ht : path.toList with
  | nil => rfl
  | cons c rest =>
    rw [ht, List.head?_cons, beq_eq_false_iff_ne] at hr
    have hc : (c == '/') = false := beq_eq_false_iff_ne.mpr fun e => hr (congrArg some e)
    obtain ⟨first, more, hm⟩ := List.exists_cons_of_ne_nil (List.splitOn_ne_nil '/' rest)
    unfold segments at hs
    rw [ht, List.splitOn_cons_eq_if_modifyHead, hc, hm] at hs
    simp at hs

/-- The path is not given, or is empty. -/
def IsMissing (path : Option String) : Prop :=
  path = none ∨ path = some ""

/-- Whether a path leads to the same place from a current directory as from the
    canonical form of that directory: an absolute path does; a relative one does if no
    name of the directory is `.` or `..`, or if it climbs over all of them. Without a
    path the directory has to be absolute itself, or to go back with each name. -/
def SpellingFree (path : Option String) (cwd : String) : Prop :=
  IsMissing path ∧ (isAbsolute cwd = true ∨ ∀ n ∈ segments cwd, n = "..") ∨
    ∃ p, path = some p ∧ p ≠ "" ∧
      (isAbsolute p = true ∨ Undotted cwd ∨ (segments cwd).length ≤ climb (segments p))

theorem orElse_of_isMissing {path : Option String} (h : IsMissing path) (cwd : String) :
    orElse path cwd = cwd := by
  rcases h with rfl | rfl <;> rfl

theorem isMissing_or (path : Option String) : IsMissing path ∨ ∃ p, path = some p ∧ p ≠ "" := by
  cases path with
  | none => exact Or.inl (Or.inl rfl)
  | some p =>
    by_cases hp : p = ""
    · exact Or.inl (Or.inr (congrArg some hp))
    · exact Or.inr ⟨p, rfl, hp⟩

/-- Without a path, a canonical directory leads to itself. -/
theorem resolve_of_isMissing {path : Option String} (h : IsMissing path) {cwd : String}
    (hc : IsCanonical cwd) : resolve path cwd = cwd := by
  have hne : cwd ≠ "" := by
    rintro rfl
    exact absurd hc (by decide)
  have hsome : resolve path cwd = resolve (some cwd) cwd := by
    unfold resolve
    rw [orElse_of_isMissing h, orElse_of_ne_empty hne]
  rw [hsome, resolve_of_isCanonical hc]

/-- Without a path, the result is the canonical form of the directory exactly if the
    directory is absolute or goes back with each name. -/
theorem resolve_missing_iff {path : Option String} (h : IsMissing path) (cwd : String) :
    resolve path cwd = resolve (some cwd) "/" ↔
      isAbsolute cwd = true ∨ ∀ n ∈ segments cwd, n = ".." := by
  rw [resolve_eq_resolve_iff, namesFrom_root]
  unfold namesFrom
  rw [orElse_of_isMissing h]
  by_cases ha : isAbsolute cwd = true
  · rw [if_pos ha]
    exact ⟨fun _ => Or.inl ha, fun _ => rfl⟩
  · rw [if_neg ha, walk_self_iff]
    exact ⟨Or.inr, fun h => h.resolve_left ha⟩

/-- A path that is given leads to where it leads from the canonical form of the directory
    exactly if it is absolute, or the directory is written without `.` and `..`, or the
    path climbs over all of it. -/
theorem resolve_given_iff {path : String} (hp : path ≠ "") (cwd : String) :
    resolve (some path) cwd = resolve (some path) (resolve (some cwd) "/") ↔
      isAbsolute path = true ∨ Undotted cwd ∨
        (segments cwd).length ≤ climb (segments path) := by
  rw [resolve_eq_resolve_iff]
  by_cases ha : isAbsolute path = true
  · rw [namesFrom_of_isAbsolute ha, namesFrom_of_isAbsolute ha]
    exact ⟨fun _ => Or.inl ha, fun _ => rfl⟩
  · have hr : isAbsolute path = false := Bool.eq_false_iff.mpr ha
    rw [namesFrom_of_relative hp hr, namesFrom_of_relative hp hr, segments_resolve,
      namesFrom_root, walk_walk_root_iff]
    exact ⟨Or.inr, fun h => h.resolve_left ha⟩

theorem spellingFree_of_isMissing {path : Option String} (hm : IsMissing path) {cwd : String} :
    SpellingFree path cwd ↔ isAbsolute cwd = true ∨ ∀ n ∈ segments cwd, n = ".." := by
  constructor
  · rintro (⟨_, h⟩ | ⟨p, rfl, hp, _⟩)
    · exact h
    · rcases hm with hm | hm
      · cases hm
      · exact absurd (Option.some.inj hm) hp
  · intro h
    exact Or.inl ⟨hm, h⟩

theorem spellingFree_some {path : String} (hp : path ≠ "") {cwd : String} :
    SpellingFree (some path) cwd ↔ isAbsolute path = true ∨ Undotted cwd ∨
      (segments cwd).length ≤ climb (segments path) := by
  constructor
  · rintro (⟨hm, _⟩ | ⟨q, hq, _, h⟩)
    · rcases hm with hm | hm
      · cases hm
      · exact absurd (Option.some.inj hm) hp
    · cases hq
      exact h
  · intro h
    exact Or.inr ⟨path, rfl, hp, h⟩

/-- **Where the spelling of the current directory does not matter**, exactly. -/
theorem resolve_canonicalForm_iff (path : Option String) (cwd : String) :
    resolve path cwd = resolve path (resolve (some cwd) "/") ↔ SpellingFree path cwd := by
  have hc : IsCanonical (resolve (some cwd) "/") := isCanonical_resolve _ isCanonical_root
  rcases isMissing_or path with hm | ⟨p, rfl, hp⟩
  · rw [resolve_of_isMissing hm hc, resolve_missing_iff hm, spellingFree_of_isMissing hm]
  · rw [resolve_given_iff hp, spellingFree_some hp]

/-- **The directories whose spelling matters to no path**: the empty one, and the absolute
    ones without `.` and `..`. -/
theorem forall_spellingFree_iff {cwd : String} :
    (∀ path, SpellingFree path cwd) ↔ cwd = "" ∨ isAbsolute cwd = true ∧ Undotted cwd := by
  constructor
  · intro h
    have hdot : Undotted cwd := by
      rcases (spellingFree_some (by decide)).mp (h (some ".")) with ha | hplain | hclimb
      · exact absurd ha (by decide)
      · exact hplain
      · -- the path `.` climbs over nothing, so there is no name
        have hzero : climb (segments ".") = 0 := by decide
        have hnil : segments cwd = [] := List.length_eq_zero_iff.mp (by omega)
        unfold Undotted
        rw [hnil]
        exact List.forall_mem_nil _
    by_cases ha : isAbsolute cwd = true
    · exact Or.inr ⟨ha, hdot⟩
    · have hback : ∀ n ∈ segments cwd, n = ".." :=
        ((spellingFree_of_isMissing (Or.inl rfl)).mp (h none)).resolve_left ha
      have hnil : segments cwd = [] :=
        List.eq_nil_iff_forall_not_mem.mpr fun n hn => (hdot n hn).2 (hback n hn)
      exact Or.inl (eq_empty_of_segments_eq_nil hnil (Bool.eq_false_iff.mpr ha))
  · intro h path
    rcases isMissing_or path with hm | ⟨p, rfl, hp⟩
    · rw [spellingFree_of_isMissing hm]
      rcases h with rfl | ⟨ha, _⟩
      · exact Or.inr (List.forall_mem_nil _)
      · exact Or.inl ha
    · rw [spellingFree_some hp]
      rcases h with rfl | ⟨_, hdot⟩
      · exact Or.inr (Or.inl (List.forall_mem_nil _))
      · exact Or.inr (Or.inl hdot)

/-- **When the result is canonical**: of the names of the current directory only those
    are in it that the path does not climb over, and these have to lead on. -/
theorem isCanonical_resolve_iff (path : Option String) (cwd : String) :
    IsCanonical (resolve path cwd) ↔ isAbsolute (orElse path cwd) = true ∨
      ∀ n ∈ (segments cwd).take
        ((segments cwd).length - climb (segments (orElse path cwd))), n ≠ "." ∧ n ≠ ".." := by
  have hnames : IsCanonical (resolve path cwd) ↔ ∀ n ∈ namesFrom path cwd, n ≠ "." ∧ n ≠ ".." := by
    constructor
    · intro hc n hn
      rw [← segments_resolve] at hn
      have hname := isName_of_mem_segments hc hn
      exact ⟨hname.ne_dot, hname.ne_dots⟩
    · intro h
      exact ⟨namesFrom path cwd, fun n hn =>
        ⟨isSegment_of_mem_namesFrom hn, (h n hn).1, (h n hn).2⟩, rfl⟩
  have hroot : ∀ names, ∀ n ∈ walk [] names, n ≠ "." ∧ n ≠ ".." := by
    intro names n hn
    rcases mem_walk hn with hn | ⟨_, hd⟩
    · exact absurd hn List.not_mem_nil
    · exact hd
  rw [hnames]
  unfold namesFrom
  by_cases ha : isAbsolute (orElse path cwd) = true
  · rw [if_pos ha]
    exact ⟨fun _ => Or.inl ha, fun _ => hroot _⟩
  · rw [if_neg ha, walk_eq_take_append, List.forall_mem_append]
    exact ⟨fun h => Or.inr h.1, fun h => ⟨h.resolve_left ha, hroot _⟩⟩

end Portfolio.Path
