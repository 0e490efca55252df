/-
  File:      Portfolio/Proofs/Site/Attachments.lean
  Subject:   The attachments of a project in its directory and in the whole tree.

  * `KeepsAttachments`: a directory holds a file for each attachment, as `Kept` has it.
  * `attachments_kept`: a record whose attachments have texts is built, and its
    directory keeps them, alone or in a whole tree. `meeting` is a record whose names
    meet.
-/
import Portfolio.Proofs.Filesystem.Addresses
import Portfolio.Proofs.Site.Faults
import Portfolio.Proofs.Site.Projects

namespace Portfolio.Site

/-! ## 1. In the directory of a project, and in the whole tree -/

/-- The directory holds the attachments in a directory of their own, with a file for
    each. -/
def KeepsAttachments (path : String) (attachments : List Attachment) (d : Node) : Prop :=
  ∃ files, d.child? "attachments" =
      some (.directory "attachments" (Path.join path "attachments") files .null) ∧
    Kept (Path.join path "attachments") attachments files

/-- The directory of a record that has attachments keeps them. -/
theorem keepsAttachments_of_project {path slug : String} {r : Record} {d : Node}
    (h : project path slug r = .ok d) (hne : r.attachments ≠ []) :
    KeepsAttachments path r.attachments d := by
  obtain ⟨attachments, ha, rfl⟩ := project_eq_directory h
  rcases attachmentsDirectory_eq_ok ha with ⟨hnil, _⟩ | ⟨_, files, rfl, hkept⟩
  · exact absurd hnil hne
  · exact ⟨files, rfl, hkept⟩

/-- The names that lead to a project. -/
theorem descend_branches (p : Profile) (projects : List Node) (slug : String) :
    (Node.directory "" "/" (branches p projects) .null).descend ["projects", slug] =
      Node.named? projects slug := by
  have hprojects : (Node.directory "" "/" (branches p projects) .null).child? "projects" =
      some (.directory "projects" projectsPath projects .null) := rfl
  have hslug : (Node.directory "projects" projectsPath projects .null).child? slug =
      Node.named? projects slug := rfl
  unfold Node.descend
  simp only [hprojects]
  unfold Node.descend
  rw [hslug]
  cases Node.named? projects slug <;> rfl

/-! ## 2. A record whose names meet -/

/-- An attachment of a url and a caption. -/
def attached (url : String) (caption : Option String) : Attachment :=
  ⟨.text url, caption.map .text, none⟩

theorem hasTexts_attached (url : String) (caption : Option String) :
    (attached url caption).HasTexts := by
  refine ⟨trivial, fun c hc => ?_⟩
  obtain ⟨text, _, rfl⟩ := Option.map_eq_some_iff.mp hc
  trivial

/-- A record whose captions meet: two have one slug, one reads like the name that the second
    of them gets, one differs from it in the extension only, and two leave nothing. -/
def meeting : Record :=
  { Record.bare (.int 1) "Gate" with
    attachments := [attached "a.pdf" (some "Plan"), attached "b.PDF" (some "plan!"),
      attached "c.pdf" (some "Plan 1"), attached "d.png" (some "Plan"),
      attached "e.png" (some "日本"), attached "f.png" none] }

/-! ## 3. No attachment is lost -/

/-- **No attachment is lost, renamed twice or reordered.** The directory of a record is built
    and keeps the attachments, wherever it lies; and in a whole tree so does the directory
    of every record that is the last of its slug. -/
theorem attachments_kept {r : Record} (ht : r.HasTexts) (hne : r.attachments ≠ []) :
    (∀ path slug, ∃ d, project path slug r = .ok d ∧ KeepsAttachments path r.attachments d) ∧
    ∀ p records built, build p records = .ok built → IsLast (Slug.ofTitle r.title) records r →
      ∃ d, built.result.descend ["projects", Slug.ofTitle r.title] = some d ∧
        KeepsAttachments (pathOf r) r.attachments d := by
  refine ⟨fun path slug => ?_, fun p records built hb hlast => ?_⟩
  · obtain ⟨d, hd⟩ := (project_guarded path slug r).1 ht
    exact ⟨d, hd, keepsAttachments_of_project hd hne⟩
  · obtain ⟨placed, hplaced, htree, _⟩ := build_eq_ok hb
    have hlead := (named?_projectDirectories hplaced (Slug.ofTitle r.title)).1 r
    obtain ⟨d, hd, hnamed⟩ := hlead (lastWith_eq_some_iff.mpr hlast)
    refine ⟨d, ?_, keepsAttachments_of_project hd hne⟩
    rw [htree, descend_branches, hnamed]

theorem attachments_kept_meeting :
    ∃ d files, project "/projects/gate" "gate" meeting = .ok d ∧
      d.child? "attachments" = some (.directory "attachments" "/projects/gate/attachments"
        files .null) ∧
      Kept "/projects/gate/attachments" meeting.attachments files ∧
      files.map Node.name = ["plan.pdf", "plan-1.pdf", "plan-1-1.pdf", "plan.jpg",
        "attachment-5.jpg", "attachment-6.jpg"] := by
  have htexts : meeting.HasTexts := by
    unfold Record.HasTexts meeting
    simp only [List.forall_mem_cons]
    exact ⟨hasTexts_attached _ _, hasTexts_attached _ _, hasTexts_attached _ _,
      hasTexts_attached _ _, hasTexts_attached _ _, hasTexts_attached _ _, List.forall_mem_nil _⟩
  have hne : meeting.attachments ≠ [] := List.cons_ne_nil _ _
  obtain ⟨d, hd, files, hchild, hkept⟩ := (attachments_kept htexts hne).1 "/projects/gate" "gate"
  refine ⟨d, files, hd, hchild, hkept, ?_⟩
  cases hd
  cases hchild
  decide +kernel

end Portfolio.Site
