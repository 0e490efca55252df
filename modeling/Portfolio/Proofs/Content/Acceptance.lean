/-
  File:      Portfolio/Proofs/Content/Acceptance.lean
  Subject:   What a content file has to hold for its tree to be built.

  * `Record.ItemHasTexts`: a property of an item of a document, which the
    record that is read from it has with regard to its attachments
    (`hasTexts_iff_of_ofItem`).
  * `HasTexts`, `HasProfile`: the same for a whole document, and that its
    profile is an object. Loading checks neither by itself.
  * `load_eq_ok`: what has been loaded comes from a document.
  * `isFault_load`: loading a text stops with a fault exactly if an integer
    has too many digits or the profile is no object.
-/
import Portfolio.Content.Load
import Portfolio.Proofs.Site.Faults

namespace Portfolio

open Json (Value Fields)

/-! ## 1. Attachments in a document -/

namespace Record

/-- The address that an item gives is a text, and so is the caption beside it,
    if there is one. -/
def AttachmentItemHasTexts : Value → Prop
  | .object item =>
    ∀ url, Fields.given? item "url" = some url →
      url.IsText ∧ ∀ c, Fields.given? item "caption" = some c → c.IsText
  | _ => True

/-- All attachments that an item lists have texts. -/
def ItemHasTexts : Value → Prop
  | .object fields =>
    ∀ items, Fields.given? fields "attachments" = some (.list items) →
      ∀ item ∈ items, AttachmentItemHasTexts item
  | _ => True

/-- An attachment that is read from an item has texts exactly if the item
    does. -/
theorem hasTexts_iff_of_attachmentOf {item : Value} {found : Option Attachment}
    (h : attachmentOf item = .ok found) :
    (∀ a ∈ found.toList, a.HasTexts) ↔ AttachmentItemHasTexts item := by
  unfold attachmentOf at h
  split at h
  · rename_i fields
    cases Except.ok.inj h
    dsimp only [AttachmentItemHasTexts]
    cases Fields.given? fields "url" with
    | none =>
      constructor
      · intro _ url e
        cases e
      · intro _ a ha
        cases ha
    | some url =>
      constructor
      · intro ht url' e
        have ha := ht _ List.mem_cons_self
        exact Option.some.inj e ▸ ⟨ha.url, ha.caption⟩
      · intro hi a ha
        cases List.mem_singleton.mp ha
        exact ⟨(hi url rfl).1, (hi url rfl).2⟩
  · cases h

theorem hasTexts_iff_of_attachmentsOf {items : List Value} {attachments : List Attachment}
    (h : attachmentsOf items = .ok attachments) :
    (∀ a ∈ attachments, a.HasTexts) ↔ ∀ item ∈ items, AttachmentItemHasTexts item := by
  induction items generalizing attachments with
  | nil =>
    cases Except.ok.inj h
    exact ⟨fun _ => List.forall_mem_nil _, fun _ => List.forall_mem_nil _⟩
  | cons item rest ih =>
    unfold attachmentsOf at h
    obtain ⟨found, hf, h⟩ := bind_eq_ok.mp h
    obtain ⟨more, hm, h⟩ := bind_eq_ok.mp h
    cases pure_eq_ok.mp h
    rw [List.forall_mem_append, List.forall_mem_cons, hasTexts_iff_of_attachmentOf hf, ih hm]

/-! ## 2. Records in a document -/

theorem listOf_eq_ok {fields : Fields} {name : String} {items : List Value}
    (h : listOf fields name = .ok items) :
    fields.given? name = none ∧ items = [] ∨ fields.given? name = some (.list items) := by
  unfold listOf at h
  split at h
  · rename_i hg
    exact Or.inl ⟨hg, (Except.ok.inj h).symm⟩
  · rename_i items' hg
    cases Except.ok.inj h
    exact Or.inr hg
  · cases h

/-- The attachments of a record are read from what the fields list. -/
theorem attachments_of_ofFields {fields : Fields} {r : Record} (h : ofFields fields = .ok r) :
    ∃ items, listOf fields "attachments" = .ok items ∧ attachmentsOf items = .ok r.attachments := by
  unfold ofFields at h
  obtain ⟨id, _, h⟩ := bind_eq_ok.mp h
  obtain ⟨titleValue, _, h⟩ := bind_eq_ok.mp h
  obtain ⟨title, _, h⟩ := bind_eq_ok.mp h
  obtain ⟨highlights, _, h⟩ := bind_eq_ok.mp h
  obtain ⟨decisions, _, h⟩ := bind_eq_ok.mp h
  obtain ⟨metrics, _, h⟩ := bind_eq_ok.mp h
  obtain ⟨links, _, h⟩ := bind_eq_ok.mp h
  obtain ⟨items, hi, h⟩ := bind_eq_ok.mp h
  obtain ⟨attachments, ha, h⟩ := bind_eq_ok.mp h
  exact ⟨items, hi, by rw [ha, ← pure_eq_ok.mp h]⟩

/-- **A record has texts exactly if the item that it is read from does.** -/
theorem hasTexts_iff_of_ofItem {item : Value} {r : Record} (h : ofItem item = .ok r) :
    r.HasTexts ↔ ItemHasTexts item := by
  unfold ofItem at h
  split at h
  · rename_i fields
    obtain ⟨items, hi, ha⟩ := attachments_of_ofFields h
    unfold HasTexts
    dsimp only [ItemHasTexts]
    rw [hasTexts_iff_of_attachmentsOf ha]
    rcases listOf_eq_ok hi with ⟨hg, rfl⟩ | hg
    · rw [hg]
      constructor
      · intro _ items' e
        cases e
      · exact fun _ => List.forall_mem_nil _
    · rw [hg]
      constructor
      · intro ht items' e
        cases e
        exact ht
      · intro ht
        exact ht items rfl
  · cases h

theorem hasTexts_iff_of_ofItems {items : List Value} {records : List Record}
    (h : ofItems items = .ok records) :
    (∀ r ∈ records, r.HasTexts) ↔ ∀ item ∈ items, ItemHasTexts item := by
  induction items generalizing records with
  | nil =>
    cases Except.ok.inj h
    exact ⟨fun _ => List.forall_mem_nil _, fun _ => List.forall_mem_nil _⟩
  | cons item rest ih =>
    unfold ofItems at h
    obtain ⟨r, hr, h⟩ := bind_eq_ok.mp h
    obtain ⟨more, hm, h⟩ := bind_eq_ok.mp h
    cases pure_eq_ok.mp h
    rw [List.forall_mem_cons, List.forall_mem_cons, hasTexts_iff_of_ofItem hr, ih hm]

end Record

/-! ## 3. Whole documents -/

namespace Content

/-- The items that a document lists. -/
def itemsOf : Value → List Value
  | .list items => items
  | .object fields =>
    match Fields.given? fields "projects" with
    | some (.list items) => items
    | _ => []
  | _ => []

/-- All attachments that a document lists have texts. -/
def HasTexts (document : Value) : Prop :=
  ∀ item ∈ itemsOf document, Record.ItemHasTexts item

/-- The profile of a document is an object, if there is one. -/
def HasProfile : Value → Prop
  | .object fields => ∀ v, Fields.given? fields "profile" = some v → ∃ p, v = .object p
  | _ => True

variable {read : Reader} {path : String} {text : List Char} {document : Value} {c : Loaded}

theorem itemsOf_of_partsOfDocument {parts : Profile × List Value}
    (h : partsOfDocument path document = .ok parts) : parts.2 = itemsOf document := by
  unfold partsOfDocument at h
  split at h
  · cases Except.ok.inj h
    rfl
  · rename_i fields
    unfold partsOfObject at h
    obtain ⟨profile, _, h⟩ := bind_eq_ok.mp h
    unfold itemsOf
    dsimp only
    split at h
    · rename_i hg
      rw [hg]
      cases pure_eq_ok.mp h
      rfl
    · rename_i items hg
      rw [hg]
      cases pure_eq_ok.mp h
      rfl
    · cases h
  · cases h

/-- **The records of a document have texts exactly if it does.** -/
theorem hasTexts_iff_of_ofDocument (h : ofDocument path document = .ok c) :
    (∀ r ∈ c.records, r.HasTexts) ↔ HasTexts document := by
  unfold ofDocument at h
  obtain ⟨parts, hp, h⟩ := bind_eq_ok.mp h
  obtain ⟨records, hr, h⟩ := bind_eq_ok.mp h
  cases pure_eq_ok.mp h
  rw [mapError_eq_ok] at hr
  unfold HasTexts
  rw [← itemsOf_of_partsOfDocument hp]
  exact Record.hasTexts_iff_of_ofItems hr

theorem partsOfDocument_ne_console (e : ConsoleError) :
    partsOfDocument path document ≠ .error (.console e) := by
  intro h
  unfold partsOfDocument at h
  split at h
  · cases h
  · rename_i fields
    unfold partsOfObject at h
    rcases bind_eq_error.mp h with h | ⟨profile, _, h⟩
    · obtain ⟨f, _, hf⟩ := mapError_eq_error.mp h
      cases hf
    · split at h
      · cases h
      · cases h
      · cases h
  · cases h

/-! ## 4. Faults of a document -/

theorem isFault_profile (v : Option Value) :
    IsFault ((Profile.ofValue (v.getD (.object []))).mapError Error.fault) ↔
      ¬ ∀ w, v = some w → ∃ p, w = .object p := by
  rw [isFault_mapError_fault]
  cases v with
  | none =>
    refine ⟨fun ⟨f, h⟩ => ?_, fun h => absurd (fun w e => nomatch e) h⟩
    cases h
  | some w =>
    cases w with
    | object p =>
      refine ⟨fun ⟨f, h⟩ => ?_, fun h => ?_⟩
      · cases h
      · exact absurd (fun w e => ⟨p, (Option.some.inj e).symm⟩) h
    | null | bool | int | float | text | list =>
      refine ⟨fun _ h => ?_, fun _ => ⟨.notAnObject, rfl⟩⟩
      obtain ⟨p, e⟩ := h _ rfl
      cases e

theorem isFault_partsOfDocument :
    IsFault (partsOfDocument path document) ↔ ¬ HasProfile document := by
  cases document with
  | object fields =>
    dsimp only [partsOfDocument, HasProfile]
    rw [← isFault_profile]
    unfold partsOfObject
    rw [isFault_bind]
    refine ⟨fun h => h.resolve_right fun ⟨profile, _, hf⟩ => ?_, Or.inl⟩
    obtain ⟨f, hf⟩ := hf
    split at hf
    · cases hf
    · cases hf
    · cases hf
  | null | bool | int | float | text | list =>
    refine ⟨fun ⟨f, h⟩ => ?_, fun h => absurd trivial h⟩
    cases h

/-- **A document stops the loading with a fault exactly if it has a profile that
    is no object.** -/
theorem isFault_ofDocument : IsFault (ofDocument path document) ↔ ¬ HasProfile document := by
  unfold ofDocument
  rw [isFault_bind, isFault_partsOfDocument]
  refine ⟨fun h => h.resolve_right fun ⟨parts, _, hf⟩ => ?_, Or.inl⟩
  rcases isFault_bind.mp hf with hf | ⟨records, _, hf⟩
  · exact not_isFault_mapError (fun _ _ e => by cases e) hf
  · exact not_isFault_ok _ hf

/-! ## 5. Loading a text -/

theorem documentOf_eq_ok : documentOf path text = .ok document ↔ Json.read text = .ok document := by
  unfold documentOf
  split
  · rename_i v hv
    rw [hv]
    exact ⟨fun h => congrArg _ (Except.ok.inj h), fun h => congrArg _ (Except.ok.inj h)⟩
  · rename_i hv
    rw [hv]
    exact ⟨(nomatch ·), (nomatch ·)⟩
  · rename_i hv
    rw [hv]
    exact ⟨(nomatch ·), (nomatch ·)⟩

theorem isFault_documentOf :
    IsFault (documentOf path text) ↔ Json.read text = .error .longInteger := by
  unfold documentOf IsFault
  split
  · rename_i v hv
    rw [hv]
    exact ⟨fun ⟨_, h⟩ => (nomatch h), (nomatch ·)⟩
  · rename_i hv
    exact ⟨fun _ => hv, fun _ => ⟨_, rfl⟩⟩
  · rename_i hv
    rw [hv]
    exact ⟨fun ⟨_, h⟩ => (nomatch h), (nomatch ·)⟩

/-- After the text has been read, loading it is reading the document in it. -/
theorem load_of_text (ht : textOf read (cleanPath path) = .ok text) :
    load read path = documentOf (cleanPath path) text >>= ofDocument (cleanPath path) := by
  unfold load
  dsimp only
  rw [ht, ok_bind]

/-- What has been loaded comes from the document in the text. -/
theorem load_eq_ok (ht : textOf read (cleanPath path) = .ok text) (h : load read path = .ok c) :
    ∃ document, Json.read text = .ok document ∧ ofDocument (cleanPath path) document = .ok c := by
  rw [load_of_text ht] at h
  obtain ⟨document, hd, h⟩ := bind_eq_ok.mp h
  exact ⟨document, documentOf_eq_ok.mp hd, h⟩

/-- **Loading a text stops with a fault exactly if** an integer in it has too
    many digits, or the profile of its document is no object. -/
theorem isFault_load (ht : textOf read (cleanPath path) = .ok text) :
    IsFault (load read path) ↔ Json.read text = .error .longInteger ∨
      ∃ document, Json.read text = .ok document ∧ ¬ HasProfile document := by
  rw [load_of_text ht, isFault_bind, isFault_documentOf]
  simp only [documentOf_eq_ok, isFault_ofDocument]

/-- Loading never fails as a command does. -/
theorem load_ne_console (ht : textOf read (cleanPath path) = .ok text) (e : ConsoleError) :
    load read path ≠ .error (.console e) := by
  intro h
  rw [load_of_text ht] at h
  rcases bind_eq_error.mp h with h | ⟨document, _, h⟩
  · unfold documentOf at h
    split at h
    · cases h
    · cases h
    · cases h
  · unfold ofDocument at h
    rcases bind_eq_error.mp h with h | ⟨parts, _, h⟩
    · exact partsOfDocument_ne_console e h
    · rcases bind_eq_error.mp h with h | ⟨records, _, h⟩
      · obtain ⟨e', _, he⟩ := mapError_eq_error.mp h
        cases he
      · cases h

end Content

end Portfolio
