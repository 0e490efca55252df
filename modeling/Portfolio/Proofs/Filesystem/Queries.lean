/-
  File:      Portfolio/Proofs/Filesystem/Queries.lean
  Subject:   All that a filesystem can be asked, with and without a tree.

  * `Query`: the queries with their arguments; `ask`: the answer to one.
  * `ask_of_no_tree`: without a tree every query fails, and says that there is none,
    except a drawing down to a depth below zero, which is refused for its depth.
  * `ask_of_tree`: with a tree no query says that there is none.
-/
import Portfolio.Proofs.Filesystem.Resolve

namespace Portfolio.Filesystem

open Json (Value)

variable {fs : Filesystem} {root : Node} {path : Option String} {cwd : String}

/-! ## 1. Queries -/

/-- What a filesystem can be asked. -/
inductive Query where
  | resolve (path : Option String) (cwd : String)
  | exists? (path : Option String) (cwd : String)
  | isDirectory (path : Option String) (cwd : String)
  | isFile (path : Option String) (cwd : String)
  | list (path : Option String) (cwd : String)
  | contentAt (path : Option String) (cwd : String)
  | walk (path : Option String) (cwd : String)
  | search (keyword : String)
  | drawing (path : Option String) (depth : Int) (cwd : String)
  | projectIdOf (path : Option String) (cwd : String)
  | pathOfProject (id : Value)

/-- What a query asks for. -/
def Query.Answer : Query → Type
  | .resolve .. => Option Node
  | .exists? .. | .isDirectory .. | .isFile .. => Bool
  | .list .. => List DirectoryEntry
  | .contentAt .. | .drawing .. => String
  | .walk .. => List (String × Node)
  | .search .. => List Search.Hit
  | .projectIdOf .. => Option Value
  | .pathOfProject .. => Option String

/-- The answer to a query. -/
def ask (fs : Filesystem) : (q : Query) → Except Error q.Answer
  | .resolve path cwd => (fs.resolve path cwd).mapError .console
  | .exists? path cwd => (fs.exists? path cwd).mapError .console
  | .isDirectory path cwd => (fs.isDirectory path cwd).mapError .console
  | .isFile path cwd => (fs.isFile path cwd).mapError .console
  | .list path cwd => (fs.list path cwd).mapError .console
  | .contentAt path cwd => (fs.contentAt path cwd).mapError .console
  | .walk path cwd => (fs.walk path cwd).mapError .console
  | .search keyword => (fs.search keyword).mapError .console
  | .drawing path depth cwd => (fs.drawing path depth cwd).mapError .console
  | .projectIdOf path cwd => (fs.projectIdOf path cwd).mapError .console
  | .pathOfProject id => fs.pathOfProject id

/-- The query is for a drawing down to a depth below zero. -/
def Query.BelowZero (q : Query) : Prop :=
  ∃ path depth cwd, depth < 0 ∧ q = .drawing path depth cwd

/-! ## 2. Without a tree -/

theorem require_of_no_tree (h : fs.tree = none) (path : Option String) (cwd : String) :
    fs.require path cwd = .error .notInitialized :=
  bind_of_error (resolve_of_no_tree h path cwd)

theorem walk_of_no_tree (h : fs.tree = none) (path : Option String) (cwd : String) :
    fs.walk path cwd = .error .notInitialized :=
  bind_of_error (require_of_no_tree h path cwd)

/-- The depth of a drawing is looked at before the tree. -/
theorem drawing_of_negative {depth : Int} (h : depth < 0) (fs : Filesystem) (path : Option String)
    (cwd : String) : fs.drawing path depth cwd = .error .invalidDepth := by
  unfold drawing
  rw [if_pos h]
  rfl

theorem drawing_of_no_tree (h : fs.tree = none) {depth : Int} (hd : ¬ depth < 0)
    (path : Option String) (cwd : String) :
    fs.drawing path depth cwd = .error .notInitialized := by
  unfold drawing
  rw [if_neg hd]
  exact bind_of_error (require_of_no_tree h path cwd)

/-- **Without a tree every query says that there is none**, except a drawing down to a
    depth below zero. -/
theorem ask_of_no_tree (h : fs.tree = none) {q : Query} (hq : ¬ q.BelowZero) :
    fs.ask q = .error (.console .notInitialized) := by
  have hresolve := resolve_of_no_tree h
  have hrequire := require_of_no_tree h
  cases q with
  | resolve path cwd => exact mapError_of_error (hresolve path cwd)
  | exists? path cwd => exact mapError_of_error (bind_of_error (hresolve path cwd))
  | isDirectory path cwd => exact mapError_of_error (bind_of_error (hresolve path cwd))
  | isFile path cwd => exact mapError_of_error (bind_of_error (hresolve path cwd))
  | list path cwd => exact mapError_of_error (bind_of_error (bind_of_error (hrequire path cwd)))
  | contentAt path cwd => exact mapError_of_error (bind_of_error (hrequire path cwd))
  | walk path cwd => exact mapError_of_error (walk_of_no_tree h path cwd)
  -- the walk comes before the keyword is looked at
  | search keyword => exact mapError_of_error (bind_of_error (walk_of_no_tree h (some "/") "/"))
  | drawing path depth cwd =>
    have hd : ¬ depth < 0 := fun hd => hq ⟨path, depth, cwd, hd, rfl⟩
    exact mapError_of_error (drawing_of_no_tree h hd path cwd)
  | projectIdOf path cwd => exact mapError_of_error (bind_of_error (hresolve path cwd))
  | pathOfProject id =>
    show fs.pathOfProject id = _
    unfold pathOfProject Filesystem.root
    rw [h]
    rfl

/-- A drawing down to a depth below zero is refused, with or without a tree. -/
theorem ask_of_belowZero (fs : Filesystem) {q : Query} (hq : q.BelowZero) :
    fs.ask q = .error (.console .invalidDepth) := by
  obtain ⟨path, depth, cwd, hd, rfl⟩ := hq
  exact mapError_of_error (drawing_of_negative hd fs path cwd)

/-! ## 3. With a tree -/

/-- On every tree it can be said which project a path belongs to. -/
theorem exists_projectIdOf (h : fs.tree = some root) (path : Option String) (cwd : String) :
    ∃ id?, fs.projectIdOf path cwd = .ok id? := by
  unfold projectIdOf
  rw [resolve_of_tree h, ok_bind]
  cases root.descend (Path.namesFrom path cwd) with
  | none => exact ⟨_, rfl⟩
  | some n =>
    dsimp only
    cases ownId? n with
    | some id => exact ⟨_, rfl⟩
    | none =>
      cases projectNameOf? n.path with
      | none => exact ⟨_, rfl⟩
      | some name =>
        dsimp only
        rw [resolve_of_tree h]
        exact ⟨_, rfl⟩

/-- On every tree whose root is no file it can be said where a project lies. -/
theorem pathOfProject_of_tree (h : fs.tree = some root) (id : Value) :
    (∃ path?, fs.pathOfProject id = .ok path?) ∨
      fs.pathOfProject id = .error (.fault .rootIsFile) := by
  unfold pathOfProject Filesystem.root
  rw [h]
  simp only [mapError_ok, ok_bind]
  split
  · exact Or.inr rfl
  · split
    · exact Or.inl ⟨_, rfl⟩
    · exact Or.inl ⟨_, rfl⟩

/-- The step does not fail for want of a tree. -/
def Passes {α : Type} (x : Except ConsoleError α) : Prop :=
  x ≠ .error .notInitialized

theorem Passes.of_ok {α : Type} {x : Except ConsoleError α} {a : α} (h : x = .ok a) : Passes x := by
  intro hx
  rw [h] at hx
  cases hx

theorem Passes.bind {α β : Type} {x : Except ConsoleError α} {f : α → Except ConsoleError β}
    (hx : Passes x) (hf : ∀ a, x = .ok a → Passes (f a)) : Passes (x >>= f) := by
  intro h
  rcases bind_eq_error.mp h with he | ⟨a, ha, he⟩
  · exact hx he
  · exact hf a ha he

/-- A query that passes is not refused for want of a tree. -/
theorem Passes.not_refused {α : Type} {x : Except ConsoleError α} (h : Passes x) :
    x.mapError Error.console ≠ .error (.console .notInitialized) := by
  intro hx
  obtain ⟨e, he, heq⟩ := mapError_eq_error.mp hx
  cases heq
  exact h he

theorem passes_require (h : fs.tree = some root) (path : Option String) (cwd : String) :
    Passes (fs.require path cwd) := by
  refine Passes.bind (.of_ok (resolve_of_tree h path cwd)) fun found _ => ?_
  cases found with
  | none => exact fun hx => nomatch hx
  | some n => exact .of_ok rfl

/-- **With a tree no query says that there is none.** -/
theorem ask_of_tree (h : fs.tree = some root) (q : Query) :
    fs.ask q ≠ .error (.console .notInitialized) := by
  have hanswers := fun path cwd => answersBy_of_resolve (resolve_of_tree h path cwd)
  have hrequire := passes_require h
  cases q with
  | resolve path cwd => exact (Passes.of_ok (hanswers path cwd).resolve).not_refused
  | exists? path cwd => exact (Passes.of_ok (hanswers path cwd).exists?).not_refused
  | isDirectory path cwd => exact (Passes.of_ok (hanswers path cwd).isDirectory).not_refused
  | isFile path cwd => exact (Passes.of_ok (hanswers path cwd).isFile).not_refused
  | list path cwd =>
    refine Passes.not_refused (Passes.bind (Passes.bind (hrequire path cwd) fun n _ => ?_)
      fun _ _ => .of_ok rfl)
    cases n with
    | file => exact fun hx => nomatch hx
    | directory => exact .of_ok rfl
  | contentAt path cwd =>
    refine Passes.not_refused (Passes.bind (hrequire path cwd) fun n _ => ?_)
    cases n with
    | file => exact .of_ok rfl
    | directory => exact fun hx => nomatch hx
  | walk path cwd =>
    exact Passes.not_refused (Passes.bind (hrequire path cwd) fun _ _ => .of_ok rfl)
  | search keyword =>
    refine Passes.not_refused (Passes.bind (.of_ok (walk_root h)) fun nodes _ => ?_)
    cases hb : Text.allBlank keyword.toList with
    | true => exact fun hx => nomatch hx
    | false => exact .of_ok rfl
  | drawing path depth cwd =>
    refine Passes.not_refused ?_
    unfold drawing
    split
    · exact fun hx => nomatch hx
    · exact Passes.bind (hrequire path cwd) fun _ _ => .of_ok rfl
  | projectIdOf path cwd =>
    obtain ⟨id?, hid⟩ := exists_projectIdOf h path cwd
    exact (Passes.of_ok hid).not_refused
  | pathOfProject id =>
    rcases pathOfProject_of_tree h id with ⟨path?, hp⟩ | hp
    · exact fun hx => nomatch hp.symm.trans hx
    · exact fun hx => nomatch hp.symm.trans hx

end Portfolio.Filesystem
