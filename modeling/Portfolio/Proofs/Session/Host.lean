/-
  File:      Portfolio/Proofs/Session/Host.lean
  Subject:   One filesystem that any number of sessions share: it is written once.

  * `Host`: the filesystem and the sessions on it. `Act`, `run`: calls that build the tree,
    queries, and what is asked of the sessions, one after the other.
  * `act_filesystem`: a call that builds a tree gives it to a filesystem that has none, and
    nothing else that is done changes the filesystem. So after a run it has the tree of the
    first call that builds one (`run_filesystem`).
  * `Unbuilt`: every call to build the tree failed; `FirstBuilt`: the first that did not.
  * `WrittenOnce`: the tree comes from that call and stays; a call before it that fails leaves
    no trace. `writtenOnce`: so it is on every run.
  * `Barred`: what can be asked before that call and after it; `barred`: on every run.
-/
import Portfolio.Proofs.Filesystem.Queries
import Portfolio.Proofs.Session.Run

namespace Portfolio

/-! ## 1. Giving a filesystem a tree -/

namespace Filesystem

variable {fs : Filesystem} {records : List Record}

/-- The tree of the records, if it can be built. -/
def tree? (profile : Profile) (records : List Record) : Option Node :=
  (Site.build profile records).toOption.map (·.result)

/-- The filesystem with a tree, if it is given one and has none. -/
def given (fs : Filesystem) (tree? : Option Node) : Filesystem :=
  { fs with tree := fs.tree.or tree? }

theorem given_none (fs : Filesystem) : fs.given none = fs := by
  unfold given
  rw [Option.or_none]

theorem given_given (fs : Filesystem) (first second : Option Node) :
    (fs.given first).given second = fs.given (first.or second) := by
  unfold given
  rw [Option.or_assoc]

theorem given_of_tree {root : Node} (h : fs.tree = some root) (tree? : Option Node) :
    fs.given tree? = fs := by
  unfold given
  rw [h, Option.some_or, ← h]

/-- What a call that builds the tree leaves. -/
def populated (fs : Filesystem) (records : List Record) : Filesystem :=
  match fs.populate records with
  | .error _ => fs
  | .ok made => made.result

theorem populated_eq_given (fs : Filesystem) (records : List Record) :
    fs.populated records = fs.given (tree? fs.profile records) := by
  obtain ⟨profile, _ | root⟩ := fs
  · unfold populated populate given tree?
    dsimp only
    cases Site.build profile records <;> rfl
  · rfl

/-- What the records build, a filesystem without a tree is given. -/
theorem populate_of_build {built : Site.Built Node} (ht : fs.tree = none)
    (hb : Site.build fs.profile records = .ok built) : fs.populate records =
      .ok ⟨{ fs with tree := some built.result }, built.log ++ [initializedEntry]⟩ := by
  rw [populate_of_no_tree ht, hb]
  rfl

theorem populate_eq_error {f : DataFault} :
    fs.populate records = .error f ↔ fs.tree = none ∧ Site.build fs.profile records = .error f := by
  cases ht : fs.tree with
  | some root => simp [populate_of_tree ht]
  | none =>
    rw [populate_of_no_tree ht, bind_eq_error]
    simp [pure, Except.pure]

/-- A call fails exactly if there is no tree and the records give none. -/
theorem populate_fails_iff : (∃ f, fs.populate records = .error f) ↔
    fs.tree = none ∧ tree? fs.profile records = none := by
  simp only [populate_eq_error, exists_and_left]
  refine and_congr_right fun _ => ?_
  unfold tree?
  cases Site.build fs.profile records <;> simp [Except.toOption]

end Filesystem

/-- A filesystem, and the sessions on it. What a session has as its filesystem is not looked
    at: it has the shared one. -/
structure Host where
  filesystem : Filesystem
  sessions : List Session

namespace Host

/-! ## 2. Runs -/

/-- What can be done: building the tree, asking the filesystem, beginning a session, and
    what is asked of the session at a seat. -/
inductive Act where
  | populate (records : List Record)
  | ask (q : Filesystem.Query)
  | begin (path : Option String)
  | exec (seat : Nat) (line : Option String)
  | changeDirectory (seat : Nat) (path : Option String)
  | complete (seat : Nat) (text : String)

/-- A session on the shared filesystem begins, if it can. -/
def seated (h : Host) (path : Option String) : Host :=
  match Session.start h.filesystem path with
  | .error _ => h
  | .ok s => ⟨s.filesystem, h.sessions ++ [s]⟩

/-- The session at a seat does something, if there is one. Its filesystem is then the shared
    one. -/
def atSeat (h : Host) (seat : Nat) (step : Session → Session) : Host :=
  match h.sessions[seat]? with
  | none => h
  | some s =>
    let s := step { s with filesystem := h.filesystem }
    ⟨s.filesystem, h.sessions.set seat s⟩

/-- What is there after an act. Queries and suggestions leave nothing behind. -/
def act (h : Host) : Act → Host
  | .populate records => { h with filesystem := h.filesystem.populated records }
  | .ask _ => h
  | .begin path => h.seated path
  | .exec seat line => h.atSeat seat fun s => (s.exec line).2
  | .changeDirectory seat path => h.atSeat seat fun s => (s.changeDirectory path).2
  | .complete _ _ => h

/-- What is there after the acts. -/
def run (h : Host) (acts : List Act) : Host :=
  acts.foldl act h

variable {h : Host} {records : List Record} {acts before after : List Act} {root : Node}

theorem run_append (h : Host) (before after : List Act) :
    h.run (before ++ after) = (h.run before).run after :=
  List.foldl_append

/-- The tree that an act gives to a filesystem that has none. -/
def Act.tree? (profile : Profile) : Act → Option Node
  | .populate records => Filesystem.tree? profile records
  | _ => none

theorem seated_filesystem (h : Host) (path : Option String) :
    (h.seated path).filesystem = h.filesystem := by
  unfold seated
  cases hs : Session.start h.filesystem path with
  | error e => rfl
  | ok s => exact Session.start_filesystem hs

/-- What a session does without changing its filesystem leaves the shared one as it is. -/
theorem atSeat_filesystem {step : Session → Session}
    (hs : ∀ s, (step s).filesystem = s.filesystem) (seat : Nat) :
    (h.atSeat seat step).filesystem = h.filesystem := by
  unfold atSeat
  cases h.sessions[seat]? with
  | none => rfl
  | some s => exact hs _

/-- **An act gives the filesystem the tree that it builds**, and changes nothing else of it. -/
theorem act_filesystem (h : Host) (a : Act) :
    (h.act a).filesystem = h.filesystem.given (a.tree? h.filesystem.profile) := by
  have hkeep := (h.filesystem.given_none).symm
  cases a with
  | populate records => exact h.filesystem.populated_eq_given records
  | ask q => exact hkeep
  | begin path => exact (h.seated_filesystem path).trans hkeep
  | exec seat line =>
    have hs : ∀ s : Session, (s.exec line).2.filesystem = s.filesystem := fun s => by
      obtain ⟨cwd, history, hs⟩ := Session.exec_keeps s line
      rw [hs]
    exact (atSeat_filesystem hs seat).trans hkeep
  | changeDirectory seat path =>
    have hs : ∀ s : Session, (s.changeDirectory path).2.filesystem = s.filesystem := fun s => by
      obtain ⟨cwd, hs⟩ := Session.changeDirectory_keeps s path
      rw [hs]
    exact (atSeat_filesystem hs seat).trans hkeep
  | complete seat text => exact hkeep

/-- **After a run the filesystem has the tree it had, or else the first that was built.** -/
theorem run_filesystem (h : Host) (acts : List Act) : (h.run acts).filesystem =
    h.filesystem.given (acts.findSome? (Act.tree? h.filesystem.profile)) := by
  unfold run
  induction acts generalizing h with
  | nil => exact (h.filesystem.given_none).symm
  | cons a rest ih =>
    have hp : (h.act a).filesystem.profile = h.filesystem.profile := by
      rw [act_filesystem]
      rfl
    rw [List.foldl_cons, ih, hp, act_filesystem, Filesystem.given_given, List.findSome?_cons]
    cases a.tree? h.filesystem.profile <;> rfl

/-! ## 3. The call that writes -/

/-- Every call to build the tree failed, at its moment. -/
def Unbuilt (h : Host) (acts : List Act) : Prop :=
  ∀ before records after, acts = before ++ .populate records :: after →
    ∃ f, (h.run before).filesystem.populate records = .error f

/-- The first call to build the tree that does not fail, and what comes before it. -/
structure FirstBuilt (h : Host) (acts before : List Act) (records : List Record) : Prop where
  split : ∃ after, acts = before ++ .populate records :: after
  unbuilt : h.Unbuilt before
  made : ∃ made, (h.run before).filesystem.populate records = .ok made

theorem run_profile (h : Host) (acts : List Act) :
    (h.run acts).filesystem.profile = h.filesystem.profile := by
  rw [run_filesystem]
  rfl

theorem run_tree (ht : h.filesystem.tree = none) (acts : List Act) :
    (h.run acts).filesystem.tree = acts.findSome? (Act.tree? h.filesystem.profile) := by
  rw [run_filesystem]
  unfold Filesystem.given
  rw [ht, Option.none_or]

/-- Once there is a tree, nothing changes the filesystem. -/
theorem run_of_tree (ht : h.filesystem.tree = some root) (acts : List Act) :
    (h.run acts).filesystem = h.filesystem := by
  rw [run_filesystem, Filesystem.given_of_tree ht]

/-- **There is no tree exactly as long as every call to build one failed.** -/
theorem unbuilt_iff (ht : h.filesystem.tree = none) :
    h.Unbuilt acts ↔ (h.run acts).filesystem.tree = none := by
  rw [run_tree ht, List.findSome?_eq_none_iff]
  constructor
  · intro hu a ha
    cases a with
    | populate records =>
      obtain ⟨before, after, hs⟩ := List.append_of_mem ha
      have hf := (Filesystem.populate_fails_iff.mp (hu before records after hs)).2
      rwa [run_profile] at hf
    | ask | begin | exec | changeDirectory | complete => rfl
  · rintro hn before records after rfl
    refine Filesystem.populate_fails_iff.mpr ⟨?_, ?_⟩
    · rw [run_tree ht, List.findSome?_eq_none_iff]
      exact fun a ha => hn a (List.mem_append_left _ ha)
    · rw [run_profile]
      exact hn (.populate records) (List.mem_append_right _ List.mem_cons_self)

/-- Calls that fail leave the filesystem as it was. -/
theorem Unbuilt.filesystem (hu : h.Unbuilt acts) (ht : h.filesystem.tree = none) :
    (h.run acts).filesystem = h.filesystem := by
  have hn := (unbuilt_iff ht).mp hu
  rw [run_tree ht] at hn
  rw [run_filesystem, hn, Filesystem.given_none]

/-- After calls that fail, records that can be built are. -/
theorem Unbuilt.firstBuilt {built : Site.Built Node} (hu : h.Unbuilt before)
    (ht : h.filesystem.tree = none) (hb : Site.build h.filesystem.profile records = .ok built)
    (after : List Act) : h.FirstBuilt (before ++ .populate records :: after) before records where
  split := ⟨after, rfl⟩
  unbuilt := hu
  made := by
    rw [hu.filesystem ht]
    exact ⟨_, Filesystem.populate_of_build ht hb⟩

/-- The tree is that of the first call that does not fail. -/
theorem FirstBuilt.filesystem (hb : h.FirstBuilt acts before records)
    (ht : h.filesystem.tree = none) : ∃ built, Site.build h.filesystem.profile records = .ok built ∧
      (h.run acts).filesystem = { h.filesystem with tree := some built.result } := by
  obtain ⟨⟨after, rfl⟩, hu, made, hm⟩ := hb
  have hbefore := hu.filesystem ht
  rw [hbefore, Filesystem.populate_of_no_tree ht, bind_eq_ok] at hm
  obtain ⟨built, hbuilt, -⟩ := hm
  have hact : ((h.run before).act (.populate records)).filesystem =
      { h.filesystem with tree := some built.result } := by
    show (h.run before).filesystem.populated records = _
    unfold Filesystem.populated
    rw [hbefore, Filesystem.populate_of_build ht hbuilt]
  refine ⟨built, hbuilt, ?_⟩
  rw [run_append, ← hact]
  exact run_of_tree (congrArg Filesystem.tree hact) after

/-- Where there is a tree, a call gave it. -/
theorem exists_firstBuilt (ht : h.filesystem.tree = none)
    (hr : (h.run acts).filesystem.tree = some root) :
    ∃ before records, h.FirstBuilt acts before records := by
  rw [run_tree ht, List.findSome?_eq_some_iff] at hr
  obtain ⟨before, a, after, rfl, ha, hn⟩ := hr
  have hu : h.Unbuilt before := by
    rw [unbuilt_iff ht, run_tree ht, List.findSome?_eq_none_iff]
    exact hn
  cases a with
  | populate records =>
    refine ⟨before, records, ?_⟩
    cases hb : Site.build h.filesystem.profile records with
    | ok built => exact hu.firstBuilt ht hb after
    | error f =>
      simp only [Act.tree?, Filesystem.tree?, hb] at ha
      cases ha
  | ask | begin | exec | changeDirectory | complete => cases ha

/-- A call that fails leaves everything as it was. -/
theorem act_of_error {f : DataFault} (hf : h.filesystem.populate records = .error f) :
    h.act (.populate records) = h := by
  have hkeep : h.filesystem.populated records = h.filesystem := by
    unfold Filesystem.populated
    rw [hf]
  exact congrArg (Host.mk · h.sessions) hkeep

/-! ## 4. Written once -/

/-- The tree is written once. A host has one exactly if a call to build it did not fail, and
    then it is the tree of the first such call. A call that fails leaves everything as it was,
    so that a later one finds the filesystem as at the beginning. Once there is a tree, the
    filesystem stays the same, every query has the same answer, and no call fails. -/
structure WrittenOnce (h : Host) (acts : List Act) : Prop where
  initialized_iff : (h.run acts).filesystem.isInitialized = true ↔
    ∃ before records, h.FirstBuilt acts before records
  written : ∀ before records, h.FirstBuilt acts before records →
    ∃ built, Site.build h.filesystem.profile records = .ok built ∧
      (h.run acts).filesystem = { h.filesystem with tree := some built.result }
  failed : ∀ before records after f, acts = before ++ .populate records :: after →
    (h.run before).filesystem.populate records = .error f →
      h.Unbuilt before ∧ h.run (before ++ [.populate records]) = h.run before ∧
        (h.run before).filesystem = h.filesystem
  retried : h.Unbuilt acts → ∀ records built,
    Site.build h.filesystem.profile records = .ok built →
      h.FirstBuilt (acts ++ [.populate records]) acts records
  kept : ∀ before after, acts = before ++ after → (h.run before).filesystem.isInitialized = true →
    (h.run acts).filesystem = (h.run before).filesystem ∧
    (∀ q, (h.run acts).filesystem.ask q = (h.run before).filesystem.ask q) ∧
    ∀ records, (h.run acts).filesystem.populate records = .ok ⟨(h.run before).filesystem, []⟩

/-- **The filesystem is written once**, whatever is done with it and with the sessions on it. -/
theorem writtenOnce (ht : h.filesystem.tree = none) (acts : List Act) : h.WrittenOnce acts where
  initialized_iff := by
    refine ⟨fun hi => ?_, fun ⟨before, records, hb⟩ => ?_⟩
    · obtain ⟨root, hr⟩ := Option.isSome_iff_exists.mp hi
      exact exists_firstBuilt ht hr
    · obtain ⟨built, -, hfs⟩ := hb.filesystem ht
      rw [hfs]
      rfl
  written before records hb := hb.filesystem ht
  failed before records after f hs hf := by
    have hu := (unbuilt_iff ht).mpr (Filesystem.populate_eq_error.mp hf).1
    refine ⟨hu, ?_, hu.filesystem ht⟩
    rw [run_append]
    exact act_of_error hf
  retried hu records built hb := hu.firstBuilt ht hb []
  kept before after hs hi := by
    obtain ⟨root, hr⟩ := Option.isSome_iff_exists.mp hi
    have hfs : (h.run acts).filesystem = (h.run before).filesystem := by
      rw [hs, run_append]
      exact run_of_tree hr after
    refine ⟨hfs, fun q => by rw [hfs], fun records => ?_⟩
    rw [hfs]
    exact Filesystem.populate_of_tree hr records

/-- A record whose attachment has a url that is no text: nothing is built from it. -/
def broken : Record :=
  { Record.bare (.int 2) "Broken" with attachments := [⟨.int 5, none, none⟩] }

theorem writtenOnce_broken :
    (∃ f, ({} : Filesystem).populate [.bare (.int 1) "Gate", broken] = .error f) ∧
    (∃ made, ({} : Filesystem).populate [.bare (.int 1) "Gate"] = .ok made) ∧
    WrittenOnce ⟨{}, []⟩ [.begin none, .populate [.bare (.int 1) "Gate", broken],
      .exec 0 (some "cd projects"), .populate [.bare (.int 1) "Gate"], .exec 0 (some "cd projects"),
      .populate [broken], .ask (.search "gate"), .populate []] :=
  ⟨⟨_, rfl⟩, ⟨_, rfl⟩, writtenOnce rfl _⟩

/-! ## 5. Before the tree and after it -/

/-- What can be asked of the filesystem, and when. As long as every call to build the tree
    failed, every query says that there is none, except a drawing down to a depth below zero,
    which is refused for its depth. From the first call on that did not fail, none says so. -/
structure Barred (h : Host) (acts : List Act) : Prop where
  refused : h.Unbuilt acts → ∀ q : Filesystem.Query, ¬ q.BelowZero →
    (h.run acts).filesystem.ask q = .error (.console .notInitialized)
  belowZero : h.Unbuilt acts → ∀ q : Filesystem.Query, q.BelowZero →
    (h.run acts).filesystem.ask q = .error (.console .invalidDepth)
  passed : ¬ h.Unbuilt acts → ∀ q,
    (h.run acts).filesystem.ask q ≠ .error (.console .notInitialized)

/-- **Queries are barred until the tree is built**, except for the drawings whose depth is
    refused first. -/
theorem barred (ht : h.filesystem.tree = none) (acts : List Act) : h.Barred acts where
  refused hu _ hq := Filesystem.ask_of_no_tree ((unbuilt_iff ht).mp hu) hq
  belowZero _ _ hq := Filesystem.ask_of_belowZero _ hq
  passed hu q := by
    rw [unbuilt_iff ht] at hu
    obtain ⟨root, hr⟩ := Option.ne_none_iff_exists'.mp hu
    exact Filesystem.ask_of_tree hr q

theorem barred_broken :
    (Unbuilt ⟨{}, []⟩ [.populate [broken], .begin none] ∧
      Barred ⟨{}, []⟩ [.populate [broken], .begin none]) ∧
    ¬ Unbuilt ⟨{}, []⟩ [.populate [broken], .begin none, .populate []] ∧
      Barred ⟨{}, []⟩ [.populate [broken], .begin none, .populate []] := by
  refine ⟨⟨(unbuilt_iff rfl).mpr rfl, barred rfl _⟩, fun hu => ?_, barred rfl _⟩
  cases (unbuilt_iff rfl).mp hu

/-- Before any call to build the tree, not every query says that there is none. -/
theorem drawing_not_barred : ¬ ∀ (h : Host) (acts : List Act), h.filesystem.tree = none →
    h.Unbuilt acts → ∀ q, (h.run acts).filesystem.ask q = .error (.console .notInitialized) := by
  intro hall
  have hu : Unbuilt ⟨{}, []⟩ [] := (unbuilt_iff rfl).mpr rfl
  have hask := hall ⟨{}, []⟩ [] rfl hu (.drawing none (-1) "/")
  rw [Filesystem.ask_of_belowZero _ ⟨none, -1, "/", by decide, rfl⟩] at hask
  cases hask

end Host

end Portfolio
