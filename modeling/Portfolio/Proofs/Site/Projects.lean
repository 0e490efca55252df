/-
  File:      Portfolio/Proofs/Site/Projects.lean
  Subject:   Which record the directory of a project shows.

  * `IsLast`: the last of the records whose title has a given slug; `lastWith`
    finds it (`lastWith_eq_some_iff`).
  * `Shows`: a directory is that of a record: under its slug, with its id, its
    four pages, and a directory of attachments exactly if it has some.
  * One step places a directory under its slug; over all records
    - the slugs come in the order in which they first occur
      (`names_projectDirectories`),
    - each leads to what is built for the last record that has it
      (`named?_projectDirectories`, `mem_projects_iff`),
    - and the log has one warning for each record that found its slug taken
      (`length_log_projectDirectories`).
-/
import Portfolio.Proofs.Site.Shape

namespace Portfolio.Site

/-! ## 1. The last record of a slug -/

/-- The record has the slug, and no record that comes after it does. -/
def IsLast (slug : String) (records : List Record) (r : Record) : Prop :=
  Slug.ofTitle r.title = slug ∧
    ∃ before after, records = before ++ r :: after ∧
      ∀ later ∈ after, Slug.ofTitle later.title ≠ slug

/-- The last of the records whose title has the slug. -/
def lastWith (slug : String) (records : List Record) : Option Record :=
  records.reverse.find? fun r => Slug.ofTitle r.title = slug

theorem lastWith_eq_some_iff {slug : String} {records : List Record} {r : Record} :
    lastWith slug records = some r ↔ IsLast slug records r := by
  unfold lastWith IsLast
  rw [List.find?_eq_some_iff_append, decide_eq_true_iff]
  refine and_congr_right fun _ => ⟨?_, ?_⟩
  · rintro ⟨after, before, e, hl⟩
    refine ⟨before.reverse, after.reverse, ?_, fun later hm => ?_⟩
    · rw [List.reverse_eq_iff.mp e, List.reverse_append, List.reverse_cons, List.append_assoc]
      rfl
    · simpa using hl later (List.mem_reverse.mp hm)
  · rintro ⟨before, after, rfl, hl⟩
    refine ⟨after.reverse, before.reverse, ?_, fun later hm => ?_⟩
    · rw [List.reverse_append, List.reverse_cons, List.append_assoc]
      rfl
    · simpa using hl later (List.mem_reverse.mp hm)

theorem lastWith_cons (slug : String) (r : Record) (rest : List Record) :
    lastWith slug (r :: rest) =
      (lastWith slug rest).or (if Slug.ofTitle r.title = slug then some r else none) := by
  unfold lastWith
  rw [List.reverse_cons, List.find?_append, List.find?_singleton]
  simp only [decide_eq_true_eq]

theorem exists_lastWith {slug : String} {records : List Record} (h : slug ∈ slugs records) :
    ∃ r, lastWith slug records = some r := by
  obtain ⟨r, hr, e⟩ := List.mem_map.mp h
  have hs : (lastWith slug records).isSome := by
    unfold lastWith
    rw [List.find?_isSome]
    exact ⟨r, List.mem_reverse.mpr hr, decide_eq_true e⟩
  exact Option.isSome_iff_exists.mp hs

theorem IsLast.eq {slug : String} {records : List Record} {r r' : Record}
    (h : IsLast slug records r) (h' : IsLast slug records r') : r = r' := by
  rw [← lastWith_eq_some_iff] at h h'
  exact Option.some.inj (h.symm.trans h')

/-! ## 2. The directory of a record -/

/-- The path of the directory of a record. -/
def pathOf (r : Record) : String :=
  Path.join projectsPath (Slug.ofTitle r.title)

/-- The four pages of a record. -/
def pagesOf (r : Record) : List Node :=
  [page (pathOf r) "overview" (overview r) none,
   page (pathOf r) "architecture" (architecture r) none,
   page (pathOf r) "decisions.log" (decisions r) none,
   page (pathOf r) "impact" (impact r) none]

/-- The directory of a record, with what there is for its attachments. -/
def directoryOf (r : Record) (attachments : List Node) : Node :=
  .directory (Slug.ofTitle r.title) (pathOf r) (pagesOf r ++ attachments) r.id

/-- The directory is that of the record; it has a directory of attachments
    exactly if the record has attachments, with one file for each. -/
structure Shows (d : Node) (r : Record) : Prop where
  bare : r.attachments = [] → d = directoryOf r []
  full : r.attachments ≠ [] → ∃ files,
    d = directoryOf r
      [.directory "attachments" (Path.join (pathOf r) "attachments") files .null] ∧
    files.length = r.attachments.length ∧ ∀ f ∈ files, f.isDirectory = false

theorem Shows.eq_directoryOf {d : Node} {r : Record} (h : Shows d r) :
    ∃ attachments, d = directoryOf r attachments := by
  by_cases ha : r.attachments = []
  · exact ⟨_, h.bare ha⟩
  · obtain ⟨files, e, _⟩ := h.full ha
    exact ⟨_, e⟩

theorem Shows.name_eq {d : Node} {r : Record} (h : Shows d r) :
    d.name = Slug.ofTitle r.title := by
  obtain ⟨attachments, rfl⟩ := h.eq_directoryOf
  rfl

/-- What is built for a record. -/
def projectOf (r : Record) : Except DataFault Node :=
  project (pathOf r) (Slug.ofTitle r.title) r

/-- **What is built for a record shows the record.** -/
theorem shows_project {r : Record} {d : Node} (h : projectOf r = .ok d) : Shows d r := by
  unfold projectOf at h
  obtain ⟨attachments, ha, hd⟩ := project_eq_directory h
  have e : d = directoryOf r attachments := hd
  rcases attachmentsDirectory_eq_ok ha with ⟨hnil, rfl⟩ | ⟨hne, files, rfl, hkept⟩
  · exact ⟨fun _ => e, fun hne => absurd hnil hne⟩
  · refine ⟨fun hnil => absurd hnil hne, fun _ => ⟨files, e, hkept.length_eq, fun f hf => ?_⟩⟩
    obtain ⟨a, _, number, taken, hof⟩ := hkept.exists_fileOf hf
    obtain ⟨content, url, hpage, _⟩ := hof.eq_page
    rw [hpage]
    rfl

/-! ## 3. Placing one record after the other -/

variable {placed : List Node} {records : List Record} {built : Built (List Node)}

/-- One step, by what it places. -/
theorem projectDirectories_step {r : Record} {rest : List Record}
    (h : projectDirectories placed (r :: rest) = .ok built) :
    ∃ d more, projectOf r = .ok d ∧ projectDirectories (Node.place d placed) rest = .ok more ∧
      built.result = more.result ∧
      built.log = (if (Node.named? placed d.name).isSome then
        [replacedEntry r.title (pathOf r)] else []) ++ more.log := by
  obtain ⟨d, more, hd, hm, e, el⟩ := projectDirectories_cons_eq_ok h
  refine ⟨d, more, hd, hm, e, ?_⟩
  rw [(shows_project hd).name_eq]
  exact el

theorem removeAll_concat (names gone : List String) (name : String) :
    names.removeAll (gone ++ [name]) = (names.removeAll gone).filter fun s => !s == name := by
  unfold List.removeAll
  rw [List.filter_filter]
  refine List.filter_congr fun s _ => ?_
  rw [Bool.eq_iff_iff]
  simp [and_comm]

/-- The names that were there stay where they are; the slugs that are new
    follow in the order in which they first occur. -/
theorem names_projectDirectories (h : projectDirectories placed records = .ok built) :
    built.result.map Node.name =
      placed.map Node.name ++ ((slugs records).removeAll (placed.map Node.name)).eraseDups := by
  induction records generalizing placed built with
  | nil =>
    unfold projectDirectories at h
    rw [← Except.ok.inj h]
    exact (List.append_nil _).symm
  | cons r rest ih =>
    obtain ⟨d, more, hd, hm, e, _⟩ := projectDirectories_step h
    have hc : slugs (r :: rest) = d.name :: slugs rest := by
      rw [(shows_project hd).name_eq]
      rfl
    rw [e, ih hm, Node.names_place, hc, List.cons_removeAll]
    by_cases hn : d.name ∈ placed.map Node.name
    · have hb : (placed.map Node.name).contains d.name = true := List.contains_iff_mem.mpr hn
      rw [if_pos hn, hb]
      rfl
    · have hb : (placed.map Node.name).contains d.name = false := by simpa using hn
      rw [if_neg hn, if_pos hb, List.eraseDups_cons, ← removeAll_concat, List.append_assoc]
      rfl

/-- **Each slug leads to what is built for the last record that has it**, every
    other name where it led before. -/
theorem named?_projectDirectories (h : projectDirectories placed records = .ok built)
    (s : String) :
    (∀ r, lastWith s records = some r →
      ∃ d, projectOf r = .ok d ∧ Node.named? built.result s = some d) ∧
      (lastWith s records = none → Node.named? built.result s = Node.named? placed s) := by
  induction records generalizing placed built with
  | nil =>
    unfold projectDirectories at h
    rw [← Except.ok.inj h]
    refine ⟨fun r hr => ?_, fun _ => rfl⟩
    cases hr
  | cons r rest ih =>
    obtain ⟨d, more, hd, hm, e, _⟩ := projectDirectories_step h
    obtain ⟨hlast, hnone⟩ := ih hm
    rw [e, lastWith_cons]
    cases hl : lastWith s rest with
    | some r' =>
      -- a later record has the slug: what is placed now will be replaced
      rw [Option.some_or]
      refine ⟨fun r'' hr => hlast r'' (hl.trans hr), fun hr => ?_⟩
      cases hr
    | none =>
      rw [Option.none_or, hnone hl, Node.named?_place, (shows_project hd).name_eq]
      by_cases hr : Slug.ofTitle r.title = s
      · rw [if_pos hr, if_pos hr]
        refine ⟨fun r' hr' => ⟨d, Option.some.inj hr' ▸ hd, rfl⟩, fun hn => ?_⟩
        cases hn
      · rw [if_neg hr, if_neg hr]
        refine ⟨fun r' hr' => ?_, fun _ => rfl⟩
        cases hr'

/-- The log has only warnings: one for each record that did not add a
    directory. -/
theorem length_log_projectDirectories (h : projectDirectories placed records = .ok built) :
    (∀ e ∈ built.log, e.level = .warning) ∧
      built.log.length + built.result.length = placed.length + records.length := by
  induction records generalizing placed built with
  | nil =>
    unfold projectDirectories at h
    rw [← Except.ok.inj h]
    exact ⟨fun e he => absurd he List.not_mem_nil, Nat.zero_add _⟩
  | cons r rest ih =>
    obtain ⟨d, more, _, hm, e, el⟩ := projectDirectories_step h
    obtain ⟨hw, hl⟩ := ih hm
    rw [Node.length_place] at hl
    rw [e, el, List.length_append, List.length_cons]
    by_cases hn : d.name ∈ placed.map Node.name
    · have hi : (Node.named? placed d.name).isSome = true := by
        rw [← Option.ne_none_iff_isSome]
        exact fun he => Node.named?_eq_none_iff.mp he hn
      rw [if_pos hn] at hl
      rw [if_pos hi, List.length_singleton]
      refine ⟨?_, by omega⟩
      exact List.forall_mem_cons.mpr ⟨rfl, hw⟩
    · have hi : Node.named? placed d.name = none := Node.named?_eq_none_iff.mpr hn
      rw [if_neg hn] at hl
      rw [hi, Option.isSome_none, if_neg Bool.false_ne_true, List.length_nil]
      exact ⟨hw, by omega⟩

/-! ## 4. All projects -/

/-- **The slugs of all titles, each once**, in the order in which they first
    occur. -/
theorem names_projects (h : projectDirectories [] records = .ok built) :
    built.result.map Node.name = (slugs records).eraseDups := by
  rw [names_projectDirectories h, List.map_nil, List.removeAll_nil, List.nil_append]

theorem nodup_names_projects (h : projectDirectories [] records = .ok built) :
    (built.result.map Node.name).Nodup :=
  (projectDirectories_layout Layout.nil (fun _ hr => mem_slugs hr) h).distinct

/-- **The directories are those that are built for the last record of each slug.** -/
theorem mem_projects_iff (h : projectDirectories [] records = .ok built) {d : Node} :
    d ∈ built.result ↔ ∃ r, IsLast d.name records r ∧ projectOf r = .ok d := by
  constructor
  · intro hd
    have hm : d.name ∈ slugs records := by
      rw [← List.mem_eraseDups, ← names_projects h]
      exact List.mem_map_of_mem hd
    obtain ⟨r, hr⟩ := exists_lastWith hm
    obtain ⟨d', hp, hd'⟩ := (named?_projectDirectories h d.name).1 r hr
    have hn := Node.named?_of_nodup (nodup_names_projects h) hd
    have e : d = d' := Option.some.inj (hn.symm.trans hd')
    exact ⟨r, lastWith_eq_some_iff.mp hr, e ▸ hp⟩
  · rintro ⟨r, hlast, hp⟩
    have hr := lastWith_eq_some_iff.mpr hlast
    obtain ⟨d', hp', hd'⟩ := (named?_projectDirectories h d.name).1 r hr
    have e : d = d' := Except.ok.inj (hp.symm.trans hp')
    exact e ▸ (Node.named?_eq_some hd').1

/-- Every directory shows the last record of its slug. -/
theorem shows_projects (h : projectDirectories [] records = .ok built) {d : Node}
    (hd : d ∈ built.result) : ∃ r, IsLast d.name records r ∧ Shows d r := by
  obtain ⟨r, hlast, hp⟩ := (mem_projects_iff h).mp hd
  exact ⟨r, hlast, shows_project hp⟩

end Portfolio.Site
