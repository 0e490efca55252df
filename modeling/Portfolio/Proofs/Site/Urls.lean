/-
  File:      Portfolio/Proofs/Site/Urls.lean
  Subject:   Which files of a built tree carry a url.

  * `baseDirectory_urls`, `metaDirectory_urls`: of the fixed pages only the resume has one,
    and it is that of the profile.
  * `projectOf_urls`: within the directory of a project every url is that of an attachment
    of the record. The four pages have none.
-/
import Portfolio.Proofs.Site.Projects

namespace Portfolio

namespace Site

open Node (Everywhere everywhere_iff)

/-! ## 1. The fixed pages -/

/-- Nothing is below a page. -/
theorem everywhere_page {P : Node → Prop} {path name content : String} {url : Option String}
    (h : P (page path name content url)) : (page path name content url).Everywhere P :=
  everywhere_iff.mpr ⟨h, fun _ hc => absurd hc List.not_mem_nil⟩

theorem baseDirectory_urls (p : Profile) : (baseDirectory p).Everywhere fun n =>
    ∀ url, n.url? = some url → n.path = "/base/resume" ∧ url = p.resumeUrl := by
  have hresume : Path.join "/base" "resume" = "/base/resume" := by decide
  refine everywhere_iff.mpr ⟨fun url h => (nomatch h), ?_⟩
  refine List.forall_mem_cons.mpr ⟨everywhere_page fun url h => (nomatch h), ?_⟩
  refine List.forall_mem_cons.mpr ⟨everywhere_page fun url h => (nomatch h), ?_⟩
  refine List.forall_mem_singleton.mpr (everywhere_page fun url h => ⟨hresume, ?_⟩)
  exact (Option.some.inj h).symm

theorem metaDirectory_urls (p : Profile) : (metaDirectory p).Everywhere fun n => n.url? = none := by
  refine everywhere_iff.mpr ⟨rfl, ?_⟩
  exact List.forall_mem_cons.mpr ⟨everywhere_page rfl,
    List.forall_mem_singleton.mpr (everywhere_page rfl)⟩

/-! ## 2. Projects -/

/-- If the node has a url, it is that of one of the attachments. -/
def UrlAmong (attachments : List Attachment) (n : Node) : Prop :=
  ∀ url, n.url? = some url → ∃ a ∈ attachments, a.url = .text url

theorem urlAmong_of_none {attachments : List Attachment} {n : Node} (h : n.url? = none) :
    UrlAmong attachments n := by
  intro url hu
  rw [h] at hu
  cases hu

theorem attachmentsDirectory_urls {path : String} {attachments : List Attachment}
    {nodes : List Node} (h : attachmentsDirectory path attachments = .ok nodes) :
    ∀ n ∈ nodes, n.Everywhere (UrlAmong attachments) := by
  rcases attachmentsDirectory_eq_ok h with ⟨_, rfl⟩ | ⟨_, files, rfl, hkept⟩
  · exact List.forall_mem_nil _
  · refine List.forall_mem_singleton.mpr (everywhere_iff.mpr ⟨urlAmong_of_none rfl, ?_⟩)
    intro f hf
    obtain ⟨a, ha, number, taken, hof⟩ := hkept.exists_fileOf hf
    obtain ⟨content, url, hpage, hurl⟩ := hof.eq_page
    rw [hpage]
    refine everywhere_page fun url' hu => ⟨a, ha, ?_⟩
    rw [hurl]
    exact congrArg Json.Value.text (Option.some.inj hu)

/-- **Within the directory of a project every url is that of an attachment.** -/
theorem projectOf_urls {r : Record} {d : Node} (h : projectOf r = .ok d) :
    d.Everywhere (UrlAmong r.attachments) := by
  unfold projectOf at h
  obtain ⟨attachments, ha, rfl⟩ := project_eq_directory h
  have hpage : ∀ n ∈ pagesOf r, n.Everywhere (UrlAmong r.attachments) := by
    unfold pagesOf
    simp only [List.forall_mem_cons]
    exact ⟨everywhere_page (urlAmong_of_none rfl), everywhere_page (urlAmong_of_none rfl),
      everywhere_page (urlAmong_of_none rfl), everywhere_page (urlAmong_of_none rfl),
      List.forall_mem_nil _⟩
  refine everywhere_iff.mpr ⟨urlAmong_of_none rfl, ?_⟩
  exact List.forall_mem_append.mpr ⟨hpage, attachmentsDirectory_urls ha⟩

end Site

end Portfolio
