/-
  File:      Portfolio/Proofs/Filesystem/Vantage.lean
  Subject:   The directory that a path is seen from.

  * `SameAnswers`: all queries at a path answer from one directory as from another;
    they do if the path resolves to the same from both
    (`sameAnswers_of_resolve`).
  * `MovesCompose`: moving along one path and then along another is moving along
    both at once, on paths and on every tree (`movesCompose`).
  * `SeenBySpelling`: what the spelling of the current directory decides. A path is
    resolved over the names of the current directory as they are, so directories of
    one canonical form can lead to different places; `seenBySpelling` says for which
    paths they do not, and `spelling_matters` shows that they can.
-/
import Portfolio.Proofs.Filesystem.Resolve
import Portfolio.Proofs.Path.Resolving

namespace Portfolio.Filesystem

variable {fs : Filesystem}

/-! ## 1. Answers from two directories -/

/-- Every query at the path answers from the one directory as from the other. -/
structure SameAnswers (fs : Filesystem) (path : Option String) (cwd cwd' : String) : Prop where
  resolve : fs.resolve path cwd = fs.resolve path cwd'
  exists? : fs.exists? path cwd = fs.exists? path cwd'
  isDirectory : fs.isDirectory path cwd = fs.isDirectory path cwd'
  isFile : fs.isFile path cwd = fs.isFile path cwd'
  list : fs.list path cwd = fs.list path cwd'
  contentAt : fs.contentAt path cwd = fs.contentAt path cwd'
  walk : fs.walk path cwd = fs.walk path cwd'
  drawing : ∀ depth, fs.drawing path depth cwd = fs.drawing path depth cwd'
  projectIdOf : fs.projectIdOf path cwd = fs.projectIdOf path cwd'

/-- The absolute form of a path is all that resolving takes from it. -/
theorem resolve_congr (fs : Filesystem) {path path' : Option String} {cwd cwd' : String}
    (h : Path.resolve path cwd = Path.resolve path' cwd') :
    fs.resolve path cwd = fs.resolve path' cwd' := by
  unfold resolve
  rw [h]

/-- **What a path resolves to is all that a query takes from the current directory.** -/
theorem sameAnswers_of_resolve {path : Option String} {cwd cwd' : String}
    (h : fs.resolve path cwd = fs.resolve path cwd') : fs.SameAnswers path cwd cwd' := by
  have hrequire : fs.require path cwd = fs.require path cwd' := by
    unfold require
    rw [h]
  exact {
    resolve := h
    exists? := by
      unfold exists?
      rw [h]
    isDirectory := by
      unfold isDirectory
      rw [h]
    isFile := by
      unfold isFile
      rw [h]
    list := by
      unfold list requireDirectory
      rw [hrequire]
    contentAt := by
      unfold contentAt
      rw [hrequire]
    walk := by
      unfold walk
      rw [hrequire]
    drawing := fun depth => by
      unfold drawing
      rw [hrequire]
    projectIdOf := by
      unfold projectIdOf
      rw [h] }

/-! ## 2. Two moves and one -/

/-- Moving along `first` and then along `second` is moving along both at once: on
    paths, on whatever tree there is, and from the directory at which `first` ends in
    a rooted tree. -/
structure MovesCompose (first second cwd : String) : Prop where
  path : Path.resolve (some second) (Path.resolve (some first) cwd) =
    Path.resolve (some (first ++ "/" ++ second)) cwd
  node : ∀ fs : Filesystem, fs.resolve (some second) (Path.resolve (some first) cwd) =
    fs.resolve (some (first ++ "/" ++ second)) cwd
  reached : ∀ (fs : Filesystem) (root d : Node), fs.tree = some root → root.Rooted →
    fs.resolve (some first) cwd = .ok (some d) →
    fs.resolve (some second) d.path = fs.resolve (some (first ++ "/" ++ second)) cwd

/-- **Moves compose**: a relative path after any other one. -/
theorem movesCompose {first second : String} (hf : first ≠ "") (hs : second ≠ "")
    (hr : Path.isAbsolute second = false) (cwd : String) : MovesCompose first second cwd := by
  have hpath : Path.resolve (some second) (Path.resolve (some first) cwd) =
      Path.resolve (some (first ++ "/" ++ second)) cwd := by
    rw [Path.resolve_eq_resolve_iff, Path.namesFrom_of_relative hs hr, Path.segments_resolve,
      Path.namesFrom_slash hf]
  refine ⟨hpath, fun fs => resolve_congr fs hpath, ?_⟩
  intro fs root d ht hroot hd
  rw [path_eq_of_resolve ht hroot hd]
  exact resolve_congr fs hpath

/-- Back over the root and down again, from a directory that is not canonical. -/
theorem movesCompose_back :
    MovesCompose "projects//gate/." "../../../meta" "base/../x" ∧
      Path.resolve (some "../../../meta") (Path.resolve (some "projects//gate/.") "base/../x") =
        "/base/../meta" := by
  have h : MovesCompose "projects//gate/." "../../../meta" "base/../x" :=
    movesCompose (by decide) (by decide) (by decide) "base/../x"
  refine ⟨h, ?_⟩
  rw [h.path]
  decide

/-! ## 3. Two spellings of one directory -/

/-- What the spelling of a current directory decides. The canonical form of the
    directory is what it resolves to from the root. -/
structure SeenBySpelling (cwd : String) : Prop where
  agrees_iff : ∀ path, Path.resolve path cwd = Path.resolve path (Path.resolve (some cwd) "/") ↔
    Path.SpellingFree path cwd
  always_iff : (∀ path, Path.SpellingFree path cwd) ↔
    cwd = "" ∨ Path.isAbsolute cwd = true ∧ Path.Undotted cwd
  canonical_iff : ∀ path, Path.IsCanonical (Path.resolve path cwd) ↔
    Path.isAbsolute (Path.orElse path cwd) = true ∨
      ∀ n ∈ (Path.segments cwd).take ((Path.segments cwd).length -
        Path.climb (Path.segments (Path.orElse path cwd))), n ≠ "." ∧ n ≠ ".."
  missing_iff : ∀ path, Path.IsMissing path →
    (Path.resolve path cwd = Path.resolve (some cwd) "/" ↔
      Path.isAbsolute cwd = true ∨ ∀ n ∈ Path.segments cwd, n = "..")
  answers : ∀ cwd', Path.resolve (some cwd) "/" = Path.resolve (some cwd') "/" →
    ∀ path, Path.SpellingFree path cwd → Path.SpellingFree path cwd' →
      ∀ fs : Filesystem, fs.SameAnswers path cwd cwd'

/-- **Where only the directory matters that the current directory names**, and not how it
    is spelled: exactly for the paths that are `SpellingFree`. -/
theorem seenBySpelling (cwd : String) : SeenBySpelling cwd where
  agrees_iff path := Path.resolve_canonicalForm_iff path cwd
  always_iff := Path.forall_spellingFree_iff
  canonical_iff path := Path.isCanonical_resolve_iff path cwd
  missing_iff path hm := Path.resolve_missing_iff hm cwd
  answers cwd' he path hfree hfree' fs := by
    have h := (Path.resolve_canonicalForm_iff path cwd).mpr hfree
    have h' := (Path.resolve_canonicalForm_iff path cwd').mpr hfree'
    refine sameAnswers_of_resolve (resolve_congr fs ?_)
    rw [h, h', he]

/-- The names `.` and `..` of the current directory stay in what a path resolves to, and a
    relative directory without a path is walked twice. So a page that can be seen from
    the root cannot be seen from another spelling of it. -/
theorem spelling_matters :
    (Path.resolve (some "x") "/a/.." = "/a/../x" ∧
      Path.resolve (some "x") (Path.resolve (some "/a/..") "/") = "/x") ∧
    ¬ Path.IsCanonical (Path.resolve (some "x") "/a/..") ∧
    (Path.resolve (some "") "a" = "/a/a" ∧ Path.resolve (some "a") "/" = "/a") ∧
    ∃ built, Site.build {} [] = .ok built ∧
      ({ tree := some built.result } : Filesystem).exists? (some "base") "/" = .ok true ∧
      ({ tree := some built.result } : Filesystem).exists? (some "base") "/meta/.." = .ok false :=
  ⟨by decide, by decide, by decide, _, rfl, rfl, rfl⟩

end Portfolio.Filesystem
