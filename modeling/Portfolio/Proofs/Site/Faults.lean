/-
  File:      Portfolio/Proofs/Site/Faults.lean
  Subject:   Which records a tree can be built from.

  * `HasTexts`: the address of an attachment is a text, and so is its caption,
    if it has one. Nothing before the builder checks this.
  * Each step of building is `Guarded` by it: it gives a result if all the
    attachments that it sees have texts, and else stops with `notText`. No
    other data keeps a tree from being built (`build_guarded`).
-/
import Portfolio.Filesystem
import Portfolio.Proofs.Filesystem.Resolve

namespace Portfolio

open Json (Value)

/-! ## 1. Attachments with texts -/

/-- The value is a text. -/
def Json.Value.IsText : Value → Prop
  | .text _ => True
  | _ => False

/-- The address is a text, and the caption, if there is one. -/
structure Attachment.HasTexts (a : Attachment) : Prop where
  url : a.url.IsText
  caption : ∀ c, a.caption = some c → c.IsText

/-- All attachments have texts. -/
def Record.HasTexts (r : Record) : Prop :=
  ∀ a ∈ r.attachments, a.HasTexts

namespace Site

/-! ## 2. One attachment -/

theorem textValue_guarded (v : Value) : Guarded .notText v.IsText (textValue v) := by
  cases v with
  | text s => exact Guarded.ok trivial s
  | null | bool | int | float | list | object => exact Guarded.error

theorem mapM_textValue_guarded (v : Option Value) :
    Guarded .notText (∀ c, v = some c → c.IsText) (v.mapM textValue) := by
  cases v with
  | none => exact Guarded.ok (fun _ h => nomatch h) none
  | some c =>
    refine ((textValue_guarded c).map some).congr ⟨fun h c' e => ?_, fun h => h c rfl⟩
    exact Option.some.inj e ▸ h

theorem attachmentFile_guarded (parent : String) (index : Nat) (taken : List String)
    (a : Attachment) : Guarded .notText a.HasTexts (attachmentFile parent index taken a) := by
  unfold attachmentFile
  refine ((textValue_guarded a.url).bind fun url _ =>
    (mapM_textValue_guarded a.caption).map _).congr ?_
  exact ⟨fun h => ⟨h.1, h.2⟩, fun h => ⟨h.url, h.caption⟩⟩

/-! ## 3. All attachments of a project -/

theorem attachmentFiles_guarded (parent : String) (index : Nat) (files : List Node)
    (attachments : List Attachment) :
    Guarded .notText (∀ a ∈ attachments, a.HasTexts)
      (attachmentFiles parent index files attachments) := by
  induction attachments generalizing index files with
  | nil => exact Guarded.ok (List.forall_mem_nil _) files
  | cons a rest ih =>
    unfold attachmentFiles
    refine ((attachmentFile_guarded parent index _ a).bind fun file _ =>
      ih (index + 1) (files ++ [file])).congr ?_
    exact List.forall_mem_cons.symm

theorem attachmentsDirectory_guarded (project : String) (attachments : List Attachment) :
    Guarded .notText (∀ a ∈ attachments, a.HasTexts)
      (attachmentsDirectory project attachments) := by
  cases attachments with
  | nil => exact Guarded.ok (List.forall_mem_nil _) []
  | cons a rest => exact (attachmentFiles_guarded _ 1 [] (a :: rest)).map _

theorem project_guarded (path slug : String) (r : Record) :
    Guarded .notText r.HasTexts (project path slug r) :=
  (attachmentsDirectory_guarded path r.attachments).map _

/-! ## 4. All projects, and the tree -/

theorem projectDirectories_guarded (placed : List Node) (records : List Record) :
    Guarded .notText (∀ r ∈ records, r.HasTexts) (projectDirectories placed records) := by
  induction records generalizing placed with
  | nil => exact Guarded.ok (List.forall_mem_nil _) (Built.mk placed [])
  | cons r rest ih =>
    unfold projectDirectories
    refine ((project_guarded _ _ r).bind fun directory _ => (ih _).map _).congr ?_
    exact List.forall_mem_cons.symm

/-- **A tree is built exactly if all attachments have texts**; else building it
    stops with one fault. -/
theorem build_guarded (p : Profile) (records : List Record) :
    Guarded .notText (∀ r ∈ records, r.HasTexts) (build p records) :=
  ((projectDirectories_guarded [] records).map _).map _

end Site

/-- The same of a whole filesystem. -/
theorem Filesystem.ofRecords_guarded (p : Profile) (records : List Record) :
    Guarded .notText (∀ r ∈ records, r.HasTexts) (ofRecords p records) := by
  unfold ofRecords
  rw [populate_of_no_tree rfl]
  exact (Site.build_guarded p records).map _

end Portfolio
