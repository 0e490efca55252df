/-
  File:      Portfolio/Proofs/Session/Navigation.lean
  Subject:   Where lines lead to, and that this comes from the content.

  * `file_cases`: a file of a tree that is built from records lies within the project of a
    record, and a url that it has is that of an attachment; or it belongs to no project,
    and a url that it has is that of the resume.
  * `OpensFile`: the line opens a file. Only such a line leads elsewhere
    (`opensFile_of_navigation`), to the project of the file or to its url
    (`OpensFile.dispatch`).
  * `Origin`: what in the records and the profile a navigation comes from.
  * `LeadsByContent`: every navigation has an origin, and whatever file of a project with an
    id is opened leads to this id. `run_leadsByContent`: so it is after every run.
-/
import Portfolio.Proofs.Filesystem.Projects
import Portfolio.Proofs.Session.Frame
import Portfolio.Proofs.Session.Listed
import Portfolio.Proofs.Site.Urls

namespace Portfolio

open Json (Value)

/-! ## 1. Files of a built tree -/

namespace Filesystem

variable {fs : Filesystem} {root f : Node} {p : Profile} {records : List Record}
  {placed : Site.Built (List Node)}

/-- The file lies within the project of the last record of a slug, belongs to it, and has a
    url only if it is that of an attachment. -/
structure OfProject (fs : Filesystem) (records : List Record) (f : Node) (slug : String)
    (r : Record) : Prop where
  path : ∃ rest, Path.segments f.path = "projects" :: slug :: rest
  last : Site.IsLast slug records r
  id : fs.projectIdOf (some f.path) "/" = .ok (idOf? r)
  url : Site.UrlAmong r.attachments f

/-- The file lies within no project, and has a url only if it is the resume. -/
structure OfNoProject (fs : Filesystem) (p : Profile) (f : Node) : Prop where
  path : ∀ slug rest, Path.segments f.path ≠ "projects" :: slug :: rest
  id : fs.projectIdOf (some f.path) "/" = .ok none
  url : ∀ url, f.url? = some url → f.path = "/base/resume" ∧ url = p.resumeUrl

/-- Outside of all projects only the resume has a url. -/
theorem url_of_outside {projects : List Node} {names : List String} (hb : Branched root p projects)
    (hn : root.descend names = some f) (hf : f.isDirectory = false)
    (ho : ∀ d ∈ projects, (f.path, f) ∉ d.walk) :
    ∀ url, f.url? = some url → f.path = "/base/resume" ∧ url = p.resumeUrl := by
  rcases branch_cases hb hn with ⟨_, rfl⟩ | ⟨_, _, hm⟩ | ⟨_, rfl⟩ | ⟨d, hd, _, _, hw⟩ | ⟨_, _, hm⟩
  · rw [hb] at hf
    cases hf
  · exact Site.baseDirectory_urls p _ hm
  · cases hf
  · exact absurd hw (ho d hd)
  · intro url hu
    have hnone : f.url? = none := Site.metaDirectory_urls p _ hm
    rw [hnone] at hu
    cases hu

/-- **A file belongs to the project that it lies within**, and its url comes from there or
    from the profile. -/
theorem file_cases (ht : fs.tree = some root) (ha : root.Addressed)
    (hp : Site.projectDirectories [] records = .ok placed) (hb : Branched root p placed.result)
    (hc : Path.IsCanonical f.path) (hn : root.descend (Path.segments f.path) = some f)
    (hf : f.isDirectory = false) :
    (∃ slug r, fs.OfProject records f slug r) ∨ fs.OfNoProject p f := by
  have hr : fs.resolve (some f.path) "/" = .ok (some f) := by
    rw [resolve_of_tree ht, ← Path.segments_resolve, Path.resolve_of_isCanonical hc, hn]
  by_cases hw : ∃ d ∈ placed.result, (f.path, f) ∈ d.walk
  · obtain ⟨d, hd, hw⟩ := hw
    obtain ⟨r, hlast, hproject⟩ := (Site.mem_projects_iff hp).mp hd
    obtain ⟨rest, hnames, _⟩ := names_within ha hb hd hw hn
    exact Or.inl ⟨d.name, r, ⟨rest, hnames⟩, hlast,
      projectIdOf_of_within ht ha hb hd (Site.shows_project hproject) hw hr,
      Site.projectOf_urls hproject _ hw⟩
  · push Not at hw
    refine Or.inr ⟨(outside hb hn hw).2, projectIdOf_of_outside ht ha hb fun n hres => ?_,
      url_of_outside hb hn hf hw⟩
    rw [hr] at hres
    cases hres
    exact hw

end Filesystem

namespace Session

variable {s : Session} {line : String} {typed : Option String} {f : Node} {nav : Navigation}

/-! ## 2. Lines that open a file -/

/-- The line has no refused feature, its command is `open`, and its first argument
    resolves from the current directory to the file. -/
structure OpensFile (s : Session) (line : String) (f : Node) : Prop where
  unmarked : ¬ Command.Marked line.toList
  word : Command.ofWord? (Command.parse line).name = some .openNode
  isFile : f.isDirectory = false
  resolves : ∃ arg rest, (Command.parse line).args = arg :: rest ∧
    s.filesystem.resolve (some arg) s.cwd = .ok (some f)

theorem OpensFile.names (h : s.OpensFile line f) (hb : s.HasBuiltins) :
    ∃ arg rest, s.Names line .openNode (Command.Builtin.handlerOf .openNode) (arg :: rest) ∧
      s.filesystem.resolve (some arg) s.cwd = .ok (some f) := by
  obtain ⟨arg, rest, ha, hr⟩ := h.resolves
  exact ⟨arg, rest, ⟨h.unmarked, h.word, hb.handler? _, ha⟩, hr⟩

/-- **A line that opens a file** does not move, and leads where the file leads. -/
theorem OpensFile.dispatch (h : s.OpensFile line f) (hb : s.HasBuiltins) {id? : Option Value}
    (hid : s.filesystem.projectIdOf (some f.path) "/" = .ok id?) :
    ∃ output, s.dispatch line =
      ({ output, navigation := Command.Builtin.leadsTo id? f.url? }, s.cwd) := by
  obtain ⟨arg, rest, hn, hr⟩ := h.names hb
  cases f with
  | directory => cases h.isFile
  | file name path content url =>
    have hid' : s.view.filesystem.projectIdOf (some path) "/" = .ok id? := hid
    obtain ⟨output, ho⟩ := Command.Builtin.openFile_of_projectIdOf hid' content url
    have hopen : Command.Builtin.handlerOf .openNode s.view (arg :: rest) = .ok _ :=
      Command.Builtin.handler_eq_ok.mpr (bind_eq_ok.mpr ⟨_, hr, ho⟩)
    exact ⟨output, by rw [hn.dispatch, hopen]; rfl⟩

/-- **Only a line that opens a file leads elsewhere.** -/
theorem opensFile_of_navigation (hb : s.HasBuiltins)
    (h : (s.dispatch line).1.navigation = some nav) : ∃ f, s.OpensFile line f := by
  rcases fails_or_replies hb line with ⟨message, hd⟩ | ⟨command, args, reply, hn, ho, hd⟩
  · rw [hd] at h
    cases h
  · rw [hd] at h
    obtain ⟨rfl, arg, rest, name, path, content, url, rfl, hr, _⟩ :=
      Command.Builtin.opensFile_of_navigation ho fun e => nomatch e.symm.trans h
    exact ⟨_, hn.unmarked, hn.word, rfl, arg, rest, hn.args, hr⟩

/-! ## 3. Where navigations come from -/

/-- What a navigation from a file comes from: the id of the last record whose slug is the
    second name of the path of the file, the url of the resume, or the url of an attachment
    of such a record without an id. -/
inductive Origin (p : Profile) (records : List Record) (f : Node) : Navigation → Prop
  | record {slug : String} {rest : List String} {r : Record}
      (path : Path.segments f.path = "projects" :: slug :: rest)
      (last : Site.IsLast slug records r) (id : r.id ≠ .null) :
      Origin p records f (.record r.id)
  | resume (path : f.path = "/base/resume") : Origin p records f (.external p.resumeUrl)
  | attachment {slug url : String} {rest : List String} {r : Record} {a : Attachment}
      (path : Path.segments f.path = "projects" :: slug :: rest)
      (last : Site.IsLast slug records r) (id : r.id = .null) (listed : a ∈ r.attachments)
      (url_eq : a.url = .text url) : Origin p records f (.external url)

theorem idOf?_of_ne_null {r : Record} (h : r.id ≠ .null) : Filesystem.idOf? r = some r.id := by
  unfold Filesystem.idOf?
  split
  · contradiction
  · rfl

theorem origin_of_ofProject {fs : Filesystem} {p : Profile} {records : List Record}
    {slug : String} {r : Record} (h : fs.OfProject records f slug r)
    (hn : Command.Builtin.leadsTo (Filesystem.idOf? r) f.url? = some nav) :
    Origin p records f nav := by
  obtain ⟨rest, hpath⟩ := h.path
  by_cases hid : r.id = .null
  · have hnone : Filesystem.idOf? r = none := by
      unfold Filesystem.idOf?
      rw [hid]
    rw [hnone] at hn
    obtain ⟨url, hu, rfl⟩ := Option.map_eq_some_iff.mp hn
    obtain ⟨a, ha, hurl⟩ := h.url url (Option.filter_eq_some_iff.mp hu).1
    exact .attachment hpath h.last hid ha hurl
  · rw [idOf?_of_ne_null hid] at hn
    cases hn
    exact .record hpath h.last hid

theorem origin_of_ofNoProject {fs : Filesystem} {p : Profile} {records : List Record}
    (h : fs.OfNoProject p f) (hn : Command.Builtin.leadsTo none f.url? = some nav) :
    Origin p records f nav := by
  obtain ⟨url, hu, rfl⟩ := Option.map_eq_some_iff.mp hn
  obtain ⟨hpath, rfl⟩ := h.url url (Option.filter_eq_some_iff.mp hu).1
  exact .resume hpath

/-- What a line leads to. If it leads anywhere, it opens a file, the session does not move,
    and there is an origin. If it opens a file of a project with an id, it leads to this. -/
structure LeadsByContent (p : Profile) (records : List Record) (s : Session)
    (typed : Option String) : Prop where
  only : ∀ nav, (s.exec typed).1.navigation = some nav →
    ∃ f, s.OpensFile (bare typed) f ∧ (s.exec typed).2.cwd = s.cwd ∧ Origin p records f nav
  owned : ∀ f slug rest r, s.OpensFile (bare typed) f →
    Path.segments f.path = "projects" :: slug :: rest → Site.IsLast slug records r →
    r.id ≠ .null → (s.exec typed).1.navigation = some (.record r.id)

/-- A line that opens a file does so as it is typed. -/
theorem OpensFile.exec (h : s.OpensFile (bare typed) f) (hb : s.HasBuiltins) {id? : Option Value}
    (hid : s.filesystem.projectIdOf (some f.path) "/" = .ok id?) :
    (s.exec typed).1.navigation = Command.Builtin.leadsTo id? f.url? ∧
      (s.exec typed).2.cwd = s.cwd := by
  obtain ⟨arg, rest, hn, _⟩ := h.names hb
  obtain ⟨output, hd⟩ := h.dispatch hb hid
  rw [exec_of_not_blank hn.not_blank, hd]
  exact ⟨rfl, rfl⟩

theorem exists_opensFile (hb : s.HasBuiltins) (h : (s.exec typed).1.navigation = some nav) :
    ∃ f, s.OpensFile (bare typed) f := by
  cases hblank : Text.allBlank (chars typed) with
  | true =>
    rw [exec_of_blank hblank] at h
    cases h
  | false =>
    rw [exec_of_not_blank hblank] at h
    dsimp only at h
    exact opensFile_of_navigation hb h

/-! ## 4. Over a run -/

/-- A session that stands in a tree built from the records leads by content. -/
theorem leadsByContent_of_build {p : Profile} {records : List Record} {built : Site.Built Node}
    (hs : s.Standing) (hbuild : Site.build p records = .ok built)
    (ht : s.filesystem.tree = some built.result) (typed : Option String) :
    s.LeadsByContent p records typed := by
  have hb : s.HasBuiltins := hs.handlers
  obtain ⟨placed, hp, hroot, _⟩ := Site.build_eq_ok hbuild
  -- a file that is opened lies at a canonical path, and its names lead to it
  have hfile : ∀ f, s.OpensFile (bare typed) f →
      (∃ slug r, s.filesystem.OfProject records f slug r) ∨ s.filesystem.OfNoProject p f := by
    intro f ho
    obtain ⟨arg, rest, _, hr⟩ := ho.resolves
    obtain ⟨hc, hd⟩ := path_of_resolve ht (hs.rooted _ ht) hs.canonical hr
    exact Filesystem.file_cases ht (Site.build_addressed hbuild) hp hroot hc hd ho.isFile
  constructor
  case only =>
    intro nav hnav
    obtain ⟨f, ho⟩ := exists_opensFile hb hnav
    rcases hfile f ho with ⟨slug, r, hof⟩ | hof
    · obtain ⟨hlead, hcwd⟩ := ho.exec hb hof.id
      exact ⟨f, ho, hcwd, origin_of_ofProject hof (hlead.symm.trans hnav)⟩
    · obtain ⟨hlead, hcwd⟩ := ho.exec hb hof.id
      exact ⟨f, ho, hcwd, origin_of_ofNoProject hof (hlead.symm.trans hnav)⟩
  case owned =>
    intro f slug rest r ho hpath hlast hid
    rcases hfile f ho with ⟨slug', r', hof⟩ | hof
    · obtain ⟨rest', hpath'⟩ := hof.path
      have hslug : slug' = slug := by
        rw [hpath] at hpath'
        exact (List.cons.inj (List.cons.inj hpath').2).1.symm
      have hrecord : r' = r := (hslug ▸ hof.last).eq hlast
      obtain ⟨hlead, _⟩ := ho.exec hb hof.id
      rw [hlead, hrecord, idOf?_of_ne_null hid]
      rfl
    · exact absurd hpath (hof.path slug rest)

theorem perform_filesystem {root : Node} (ht : s.filesystem.tree = some root) (e : Event) :
    (s.perform e).2.filesystem = s.filesystem := by
  rcases perform_cases s e with ⟨_, _, h⟩ | ⟨records, made, hm, h⟩
  · rw [h]
  · rw [Filesystem.populate_of_tree ht] at hm
    cases hm
    rw [h]

/-- A session keeps the filesystem that it was given, once this has a tree. -/
theorem run_filesystem {root : Node} (ht : s.filesystem.tree = some root) (events : List Event) :
    (s.run events).filesystem = s.filesystem := by
  refine run_preserves (P := fun s' => s'.filesystem = s.filesystem) (fun s' e h => ?_) rfl events
  exact (perform_filesystem (h ▸ ht) e).trans h

/-- After every run a session on a filesystem that is made from records stands on the tree
    that was built from them. -/
theorem exists_build_of_run {p : Profile} {records : List Record} {made : Site.Built Filesystem}
    {start : Option String} (hm : Filesystem.ofRecords p records = .ok made)
    (hs : Session.start made.result start = .ok s) (events : List Event) :
    ∃ built, Site.build p records = .ok built ∧ made.result.tree = some built.result ∧
      (s.run events).filesystem.tree = some built.result ∧ (s.run events).Standing := by
  obtain ⟨built, hbuild, ht, _⟩ := Filesystem.ofRecords_eq_ok hm
  have hfs : s.filesystem = made.result := start_filesystem hs
  have hstand : s.Standing :=
    start_standing (fun _ => (Filesystem.Admissible.built hm).tree_rooted) hs
  refine ⟨built, hbuild, ht, ?_, run_standing hstand events⟩
  rw [run_filesystem (hfs ▸ ht), hfs, ht]

/-- **Navigations come from the content only**, after every run of a session on a filesystem
    that is made from records, whatever was typed. -/
theorem run_leadsByContent {p : Profile} {records : List Record} {made : Site.Built Filesystem}
    {start : Option String} (hm : Filesystem.ofRecords p records = .ok made)
    (hs : Session.start made.result start = .ok s) (events : List Event) (typed : Option String) :
    (s.run events).LeadsByContent p records typed := by
  obtain ⟨built, hbuild, ht, _⟩ := Filesystem.ofRecords_eq_ok hm
  have hfs : s.filesystem = made.result := start_filesystem hs
  have hroot : (s.run events).filesystem.tree = some built.result := by
    rw [run_filesystem (hfs ▸ ht), hfs, ht]
  have hstand : s.Standing :=
    start_standing (fun _ => (Filesystem.Admissible.built hm).tree_rooted) hs
  exact leadsByContent_of_build (run_standing hstand events) hbuild hroot typed

/-- Two projects with an attachment each, of which only the second has an id. -/
theorem run_leadsByContent_attachments :
    ∃ made s, Filesystem.ofRecords {}
        [{ Record.bare .null "Notes" with
            attachments := [⟨.text "n.pdf", some (.text "Plan"), none⟩] },
          { Record.bare (.int 7) "Gate" with
            attachments := [⟨.text "g.pdf", some (.text "Plan"), none⟩] }] = .ok made ∧
      Session.start made.result none = .ok s ∧
      (∀ line ∈ ["open gate/attachments/plan.pdf", "cd notes/attachments/plan.pdf",
          "open /base/resume"],
        (s.run [.exec (some "cd projects")]).LeadsByContent {}
          [{ Record.bare .null "Notes" with
              attachments := [⟨.text "n.pdf", some (.text "Plan"), none⟩] },
            { Record.bare (.int 7) "Gate" with
              attachments := [⟨.text "g.pdf", some (.text "Plan"), none⟩] }] (some line) ∧
        ((s.run [.exec (some "cd projects")]).exec (some line)).1.navigation.isSome = true) ∧
      ((s.run [.exec (some "cd projects")]).exec (some "open gate/attachments/plan.pdf")).1.output =
        "Opening project: /projects/gate/attachments/plan.pdf" := by
  obtain ⟨made, hm⟩ : ∃ made, Filesystem.ofRecords {}
      [{ Record.bare .null "Notes" with
          attachments := [⟨.text "n.pdf", some (.text "Plan"), none⟩] },
        { Record.bare (.int 7) "Gate" with
          attachments := [⟨.text "g.pdf", some (.text "Plan"), none⟩] }] = .ok made := ⟨_, rfl⟩
  have hs : Session.start made.result none = .ok { filesystem := made.result } := rfl
  refine ⟨made, _, hm, hs, fun line hl => ⟨run_leadsByContent hm hs _ _, ?_⟩, ?_⟩
  · cases hm
    revert line
    decide +kernel
  · cases hm
    decide +kernel

end Session

end Portfolio
