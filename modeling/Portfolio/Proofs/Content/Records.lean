/-
  File:      Portfolio/Proofs/Content/Records.lean
  Subject:   Which items of a document are refused, and what the records of the others
             say.

  * `Wrong`: what can be wrong with an item, each with the error that names it.
  * `Says`: what a record says of the fields that it is read from: its id, its title and
    its texts are those of the item, and its links and attachments come from exactly the
    elements that give one, in order.
  * `ofItem_checks`: an item is refused for something that is wrong with it, or nothing
    is and the record says what the item does. Every step of reading one checks in this
    way (`Checks`).
  * `ofValue_checked`: a list is refused exactly if something is wrong with an item, in
    the words for the first such item; else it gives one record for each item.
-/
import Mathlib.Data.List.Forall2
import Portfolio.Proofs.Content.Acceptance

namespace Portfolio.Record

open Json (Value Fields)

/-! ## 1. What the fields of an item hold -/

/-- The value is an object. -/
def IsObject (v : Value) : Prop :=
  ∃ fields, v = .object fields

/-- The elements of the list under a name; none, if there is no list. -/
def elements (fields : Fields) (name : String) : List Value :=
  match fields.get? name with
  | some (.list items) => items
  | _ => []

/-- Something is given under the name, and it is no list. -/
def GivesNoList (fields : Fields) (name : String) : Prop :=
  ∃ v, fields.get? name = some v ∧ v.isGiven = true ∧ ∀ items, v ≠ .list items

/-- The element is an object with an address. -/
def hasUrl : Value → Bool
  | .object fields => (Fields.given? fields "url").isSome
  | _ => false

/-- The element gives a link: it is a text or has an address. -/
def givesLink : Value → Bool
  | .text _ => true
  | v => hasUrl v

/-- The names of the lists of texts. -/
def textLists : List String :=
  ["technical_highlights", "design_decisions", "impact_metrics"]

/-- The names of all lists. -/
def listNames : List String :=
  textLists ++ ["links", "attachments"]

/-- What can be wrong with an item, and the error that says so. -/
inductive Wrong : Value → ContentError → Prop where
  | notAnObject {item : Value} (h : ¬ IsObject item) : Wrong item (.notARecord item)
  | missing {fields : Fields} {name : String} (hn : name ∈ ["id", "title"])
      (h : fields.get? name = none) : Wrong (.object fields) (.missingField name)
  | title {fields : Fields} {v : Value} (h : fields.get? "title" = some v) (ht : ¬ v.IsText) :
      Wrong (.object fields) (.titleNotText (shownId fields))
  | noList {fields : Fields} {name : String} (hn : name ∈ listNames)
      (h : GivesNoList fields name) : Wrong (.object fields) (.notAList name (shownId fields))
  | noText {fields : Fields} {name : String} {item : Value} (hn : name ∈ textLists)
      (hi : item ∈ elements fields name) (ht : ¬ item.IsText) :
      Wrong (.object fields) (.itemNotText name (shownId fields) item)
  | link {fields : Fields} {item : Value} (hi : item ∈ elements fields "links")
      (ht : ¬ item.IsText) (ho : ¬ IsObject item) : Wrong (.object fields) (.badLink item)
  | attachment {fields : Fields} {item : Value} (hi : item ∈ elements fields "attachments")
      (ho : ¬ IsObject item) : Wrong (.object fields) (.badAttachment item)

/-- Something is wrong with the item. -/
def Malformed (item : Value) : Prop :=
  ∃ e, Wrong item e

/-- The link that an element gives: a text names itself; an object with an address is
    named by its label, or else by the address. -/
inductive GivesLink : Value → Link → Prop where
  | text (s : String) : GivesLink (.text s) ⟨.text s, .text s⟩
  | object {item : Fields} {url : Value} (h : item.given? "url" = some url) :
      GivesLink (.object item) ⟨(item.given? "label").getD url, url⟩

/-- The attachment that an element gives. -/
inductive GivesAttachment : Value → Attachment → Prop where
  | object {item : Fields} {url : Value} (h : item.given? "url" = some url) :
      GivesAttachment (.object item) ⟨url, item.given? "caption", item.given? "alt"⟩

/-- The record says what the fields do. -/
structure Says (fields : Fields) (r : Record) : Prop where
  id : fields.get? "id" = some r.id
  title : fields.get? "title" = some (.text r.title)
  technicalHighlights : r.technicalHighlights.map .text = elements fields "technical_highlights"
  designDecisions : r.designDecisions.map .text = elements fields "design_decisions"
  impactMetrics : r.impactMetrics.map .text = elements fields "impact_metrics"
  links : ∃ listed, r.links =
      ((fields.given? "link").map fun url => ⟨.text "Website", url⟩).toList ++ listed ∧
    List.Forall₂ GivesLink ((elements fields "links").filter givesLink) listed
  attachments : List.Forall₂ GivesAttachment ((elements fields "attachments").filter hasUrl)
    r.attachments
  role : r.role = (fields.given? "role").getD (.text "")
  description : r.description = (fields.given? "description").getD (.text "")
  problemStatement : r.problemStatement = fields.given? "problem_statement"
  architectureImage : r.architectureImage = fields.given? "architecture_image"

variable {fields : Fields} {name : String} {item : Value} {items : List Value}
  {e : ContentError}

/-! ## 2. Lists -/

theorem given?_eq_some {v : Value} :
    fields.given? name = some v ↔ fields.get? name = some v ∧ v.isGiven = true :=
  Option.filter_eq_some_iff

theorem givesNoList_iff :
    GivesNoList fields name ↔ ∃ v, fields.given? name = some v ∧ ∀ items, v ≠ .list items := by
  unfold GivesNoList
  simp only [given?_eq_some, and_assoc]

/-- A list that is not given has no elements. -/
theorem elements_of_not_given (h : fields.given? name = none) : elements fields name = [] := by
  unfold elements
  split
  · rename_i items hl
    cases items with
    | nil => rfl
    | cons item items =>
      have hg : fields.given? name = some (.list (item :: items)) :=
        given?_eq_some.mpr ⟨hl, rfl⟩
      rw [h] at hg
      cases hg
  · rfl

theorem elements_of_given (h : fields.given? name = some (.list items)) :
    elements fields name = items := by
  unfold elements
  rw [(given?_eq_some.mp h).1]

theorem listOf_checks (fields : Fields) (name : String) :
    Checks (fun e => GivesNoList fields name ∧ e = .notAList name (shownId fields))
      (· = elements fields name) (listOf fields name) := by
  unfold listOf
  split
  · rename_i hg
    refine ⟨fun e ⟨hn, _⟩ => ?_, (elements_of_not_given hg).symm⟩
    obtain ⟨v, hv, _⟩ := givesNoList_iff.mp hn
    rw [hg] at hv
    cases hv
  · rename_i items hg
    refine ⟨fun e ⟨hn, _⟩ => ?_, (elements_of_given hg).symm⟩
    obtain ⟨v, hv, hl⟩ := givesNoList_iff.mp hn
    rw [hg] at hv
    exact hl items (Option.some.inj hv).symm
  · rename_i v hl hg
    exact ⟨givesNoList_iff.mpr ⟨v, hg, hl⟩, rfl⟩

theorem textsOf_checks (name : String) (id : Value) (items : List Value) :
    Checks (fun e => ∃ item ∈ items, ¬ item.IsText ∧ e = .itemNotText name id item)
      (·.map .text = items) (textsOf name id items) := by
  induction items with
  | nil => exact ⟨fun e ⟨_, hi, _⟩ => absurd hi List.not_mem_nil, rfl⟩
  | cons item rest ih =>
    cases item with
    | text s =>
      refine (ih.map (s :: ·)).congr (fun e => ?_) ?_
      · simp [Value.IsText]
      · intro texts ⟨more, hmore, htexts⟩
        rw [htexts, List.map_cons, hmore]
    | null | bool | int | float | list | object =>
      exact ⟨_, List.mem_cons_self, fun ht => ht, rfl⟩

/-- What is wrong with a list under a name: it is none, or one of its elements is bad. -/
def WrongList (fields : Fields) (name : String) (bad : Value → ContentError → Prop)
    (e : ContentError) : Prop :=
  (GivesNoList fields name ∧ e = .notAList name (shownId fields)) ∨
    ∃ item ∈ elements fields name, bad item e

/-- A step that takes the elements under a name checks the whole list. -/
theorem listOf_bind_checks {α : Type} {f : List Value → Except ContentError α}
    {bad : Value → ContentError → Prop} {good : α → Prop} {name : String}
    (h : Checks (fun e => ∃ item ∈ elements fields name, bad item e) good
      (f (elements fields name))) :
    Checks (WrongList fields name bad) good (listOf fields name >>= f) := by
  have hf : ∀ items, items = elements fields name →
      Checks (fun e => ∃ item ∈ elements fields name, bad item e) good (f items) :=
    fun items hi => hi ▸ h
  exact ((listOf_checks fields name).bind hf).congr (fun e => Iff.rfl) fun a ⟨_, _, ha⟩ => ha

/-- An element of a list of texts is no text. -/
def BadText (fields : Fields) (name : String) (item : Value) (e : ContentError) : Prop :=
  ¬ item.IsText ∧ e = .itemNotText name (shownId fields) item

/-- The texts under a name are the elements of a list of texts. -/
theorem textList_checks (fields : Fields) (name : String) :
    Checks (WrongList fields name (BadText fields name)) (·.map .text = elements fields name)
      (textList fields name) :=
  listOf_bind_checks (textsOf_checks name (shownId fields) _)

/-! ## 3. Elements that give something, or nothing -/

/-- Where each element gives one thing or none, the things of a list come from exactly the
    elements that give one, in order. -/
theorem collect_checks {α : Type} (one : Value → Except ContentError (Option α))
    (all : List Value → Except ContentError (List α)) {bad : Value → ContentError → Prop}
    {gives : Value → Bool} {source : Value → α → Prop} (hnil : all [] = .ok [])
    (hcons : ∀ item rest, all (item :: rest) =
      one item >>= fun found => all rest >>= fun more => pure (found.toList ++ more))
    (hone : ∀ item, Checks (bad item)
      (fun found => List.Forall₂ source ([item].filter gives) found.toList) (one item))
    (items : List Value) :
    Checks (fun e => ∃ item ∈ items, bad item e)
      (fun things => List.Forall₂ source (items.filter gives) things) (all items) := by
  induction items with
  | nil =>
    rw [hnil]
    exact ⟨fun e ⟨_, hi, _⟩ => absurd hi List.not_mem_nil, List.Forall₂.nil⟩
  | cons item rest ih =>
    rw [hcons]
    refine ((hone item).bind fun found _ => ih.map (found.toList ++ ·)).congr
      (fun e => by simp) ?_
    intro things ⟨found, hf, more, hm, ht⟩
    rw [ht, ← List.singleton_append, List.filter_append]
    exact List.rel_append hf hm

/-- An element of the links is neither a text nor an object. -/
def BadLink (item : Value) (e : ContentError) : Prop :=
  (¬ item.IsText ∧ ¬ IsObject item) ∧ e = .badLink item

/-- An element of the attachments is no object. -/
def BadAttachment (item : Value) (e : ContentError) : Prop :=
  ¬ IsObject item ∧ e = .badAttachment item

theorem linkOf_checks (item : Value) :
    Checks (BadLink item)
      (fun found => List.Forall₂ GivesLink ([item].filter givesLink) found.toList)
      (linkOf item) := by
  cases item with
  | text s => exact ⟨fun e ⟨⟨ht, _⟩, _⟩ => ht trivial, .cons (.text s) .nil⟩
  | object item =>
    refine ⟨fun e ⟨⟨_, ho⟩, _⟩ => ho ⟨item, rfl⟩, ?_⟩
    cases hu : Fields.given? item "url" with
    | none => simp [givesLink, hasUrl, hu]
    | some url => simpa [givesLink, hasUrl, hu] using GivesLink.object hu
  | null | bool | int | float | list =>
    exact ⟨⟨fun ht => ht, fun ⟨_, ho⟩ => (nomatch ho)⟩, rfl⟩

theorem attachmentOf_checks (item : Value) :
    Checks (BadAttachment item)
      (fun found => List.Forall₂ GivesAttachment ([item].filter hasUrl) found.toList)
      (attachmentOf item) := by
  cases item with
  | object item =>
    refine ⟨fun e ⟨ho, _⟩ => ho ⟨item, rfl⟩, ?_⟩
    cases hu : Fields.given? item "url" with
    | none => simp [hasUrl, hu]
    | some url => simpa [hasUrl, hu] using GivesAttachment.object hu
  | null | bool | int | float | text | list =>
    exact ⟨fun ⟨_, ho⟩ => (nomatch ho), rfl⟩

theorem linksOf_checks (items : List Value) :
    Checks (fun e => ∃ item ∈ items, BadLink item e)
      (fun links => List.Forall₂ GivesLink (items.filter givesLink) links) (linksOf items) :=
  collect_checks linkOf linksOf rfl (fun _ _ => rfl) linkOf_checks items

theorem attachmentsOf_checks (items : List Value) :
    Checks (fun e => ∃ item ∈ items, BadAttachment item e)
      (fun attachments => List.Forall₂ GivesAttachment (items.filter hasUrl) attachments)
      (attachmentsOf items) :=
  collect_checks attachmentOf attachmentsOf rfl (fun _ _ => rfl) attachmentOf_checks items

/-! ## 4. Whole records -/

/-- There is no field of the name. -/
def Lacks (fields : Fields) (name : String) (e : ContentError) : Prop :=
  fields.get? name = none ∧ e = .missingField name

theorem required_checks (fields : Fields) (name : String) :
    Checks (Lacks fields name) (fun v => fields.get? name = some v) (required fields name) := by
  unfold required
  cases hv : fields.get? name with
  | none => exact ⟨hv, rfl⟩
  | some v =>
    refine ⟨fun e ⟨hn, _⟩ => ?_, rfl⟩
    rw [hv] at hn
    cases hn

/-- The title is no text. -/
def WrongTitle (fields : Fields) (e : ContentError) : Prop :=
  ∃ v, fields.get? "title" = some v ∧ ¬ v.IsText ∧ e = .titleNotText (shownId fields)

theorem titleOf_checks {id v : Value} (hid : fields.get? "id" = some id)
    (hv : fields.get? "title" = some v) :
    Checks (WrongTitle fields) (fun title => fields.get? "title" = some (.text title))
      (titleOf id v) := by
  have hshown : shownId fields = id := by
    unfold shownId
    rw [hid]
    rfl
  cases v with
  | text s =>
    refine ⟨fun e ⟨w, hw, ht, _⟩ => ?_, hv⟩
    cases hv.symm.trans hw
    exact ht trivial
  | null | bool | int | float | list | object =>
    exact ⟨_, hv, fun ht => ht, by rw [hshown]⟩

theorem links?_checks (fields : Fields) :
    Checks (WrongList fields "links" BadLink)
      (fun links => ∃ listed, links =
          ((fields.given? "link").map fun url => ⟨.text "Website", url⟩).toList ++ listed ∧
        List.Forall₂ GivesLink ((elements fields "links").filter givesLink) listed)
      (links? fields) := by
  refine listOf_bind_checks (((linksOf_checks _).map _).congr (fun _ => Iff.rfl) ?_)
  exact fun links ⟨listed, hl, hlinks⟩ => ⟨listed, hlinks, hl⟩

theorem Lacks.wrong (h : Lacks fields name e) (hn : name ∈ ["id", "title"]) :
    Wrong (.object fields) e := by
  obtain ⟨hm, rfl⟩ := h
  exact .missing hn hm

theorem WrongTitle.wrong (h : WrongTitle fields e) : Wrong (.object fields) e := by
  obtain ⟨v, hv, ht, rfl⟩ := h
  exact .title hv ht

theorem WrongList.wrong {bad : Value → ContentError → Prop} (h : WrongList fields name bad e)
    (hn : name ∈ listNames)
    (hb : ∀ item ∈ elements fields name, bad item e → Wrong (.object fields) e) :
    Wrong (.object fields) e := by
  rcases h with ⟨hl, rfl⟩ | ⟨item, hi, h⟩
  · exact .noList hn hl
  · exact hb item hi h

theorem BadText.wrong (h : BadText fields name item e) (hn : name ∈ textLists)
    (hi : item ∈ elements fields name) : Wrong (.object fields) e := by
  obtain ⟨ht, rfl⟩ := h
  exact .noText hn hi ht

theorem BadLink.wrong (h : BadLink item e) (hi : item ∈ elements fields "links") :
    Wrong (.object fields) e := by
  obtain ⟨⟨ht, ho⟩, rfl⟩ := h
  exact .link hi ht ho

theorem BadAttachment.wrong (h : BadAttachment item e)
    (hi : item ∈ elements fields "attachments") : Wrong (.object fields) e := by
  obtain ⟨ho, rfl⟩ := h
  exact .attachment hi ho

/-- What can be wrong with an object, in the order in which it is looked for. -/
theorem wrong_object_iff :
    Wrong (.object fields) e ↔
      Lacks fields "id" e ∨ Lacks fields "title" e ∨ WrongTitle fields e ∨
      (∃ name ∈ textLists, WrongList fields name (BadText fields name) e) ∨
      WrongList fields "links" BadLink e ∨ WrongList fields "attachments" BadAttachment e := by
  constructor
  · intro h
    cases h with
    | notAnObject h => exact absurd ⟨fields, rfl⟩ h
    | @missing _ name hn h =>
      simp only [List.mem_cons, List.not_mem_nil, or_false] at hn
      rcases hn with rfl | rfl
      · exact Or.inl ⟨h, rfl⟩
      · exact Or.inr (Or.inl ⟨h, rfl⟩)
    | title h ht => exact Or.inr (Or.inr (Or.inl ⟨_, h, ht, rfl⟩))
    | @noList _ name hn h =>
      have hw : ∀ bad, WrongList fields name bad (.notAList name (shownId fields)) := fun bad =>
        Or.inl ⟨h, rfl⟩
      refine Or.inr (Or.inr (Or.inr ?_))
      rcases List.mem_append.mp hn with hn | hn
      · exact Or.inl ⟨name, hn, hw _⟩
      · simp only [List.mem_cons, List.not_mem_nil, or_false] at hn
        rcases hn with rfl | rfl
        · exact Or.inr (Or.inl (hw _))
        · exact Or.inr (Or.inr (hw _))
    | noText hn hi ht =>
      exact Or.inr (Or.inr (Or.inr (Or.inl ⟨_, hn, Or.inr ⟨_, hi, ht, rfl⟩⟩)))
    | link hi ht ho =>
      exact Or.inr (Or.inr (Or.inr (Or.inr (Or.inl (Or.inr ⟨_, hi, ⟨ht, ho⟩, rfl⟩)))))
    | attachment hi ho =>
      exact Or.inr (Or.inr (Or.inr (Or.inr (Or.inr (Or.inr ⟨_, hi, ho, rfl⟩)))))
  · intro h
    rcases h with h | h | h | ⟨name, hn, h⟩ | h | h
    · exact h.wrong (by decide)
    · exact h.wrong (by decide)
    · exact h.wrong
    · exact h.wrong (List.mem_append_left _ hn) fun item hi hb => hb.wrong hn hi
    · exact h.wrong (by decide) fun item hi hb => hb.wrong hi
    · exact h.wrong (by decide) fun item hi hb => hb.wrong hi

/-- **The fields of an item are refused for something that is wrong with them, or give a
    record that says what they do.** -/
theorem ofFields_checks (fields : Fields) :
    Checks (Wrong (.object fields)) (Says fields) (ofFields fields) := by
  unfold ofFields
  refine ((required_checks fields "id").bind fun id hid =>
    (required_checks fields "title").bind fun v hv =>
    (titleOf_checks hid hv).bind fun title ht =>
    (textList_checks fields _).bind fun highlights hh =>
    (textList_checks fields _).bind fun decisions hd =>
    (textList_checks fields _).bind fun metrics hm =>
    (links?_checks fields).bind fun links hl =>
    listOf_bind_checks ((attachmentsOf_checks _).map _)).congr ?_ ?_
  · intro e
    rw [wrong_object_iff]
    simp [textLists, WrongList, or_assoc]
  · intro r h
    obtain ⟨id, hid, v, hv, title, ht, highlights, hh, decisions, hd, metrics, hm, links, hl,
      attachments, ha, rfl⟩ := h
    exact ⟨hid, ht, hh, hd, hm, hl, ha, rfl, rfl, rfl, rfl⟩

/-! ## 5. Whole documents -/

/-- The record says what the item does, which is an object. -/
def Describes (item : Value) (r : Record) : Prop :=
  ∃ fields, item = .object fields ∧ Says fields r

theorem ofItem_checks (item : Value) : Checks (Wrong item) (Describes item) (ofItem item) := by
  cases item with
  | object fields =>
    exact (ofFields_checks fields).congr (fun _ => Iff.rfl) fun r hr => ⟨fields, rfl, hr⟩
  | null | bool | int | float | text | list => exact .notAnObject fun ⟨_, ho⟩ => nomatch ho

/-- Where something is wrong with an item, there is a first such item. -/
theorem exists_first_malformed (h : ∃ item ∈ items, Malformed item) :
    ∃ before item after, items = before ++ item :: after ∧
      (∀ b ∈ before, ¬ Malformed b) ∧ Malformed item := by
  induction items with
  | nil => simp at h
  | cons first rest ih =>
    by_cases hf : Malformed first
    · exact ⟨[], first, rest, rfl, List.forall_mem_nil _, hf⟩
    · obtain ⟨before, item, after, hr, hb, hi⟩ := ih (by simpa [hf] using h)
      exact ⟨first :: before, item, after, by rw [hr]; rfl,
        List.forall_mem_cons.mpr ⟨hf, hb⟩, hi⟩

/-- What comes after the first item that is refused is not looked at. -/
theorem ofItems_of_first {before after : List Value}
    (hb : ∀ b ∈ before, ¬ Malformed b) (h : ofItem item = .error e) :
    ofItems (before ++ item :: after) = .error e := by
  induction before with
  | nil => exact bind_of_error h
  | cons first rest ih =>
    obtain ⟨hf, hr⟩ := List.forall_mem_cons.mp hb
    obtain ⟨r, hok, _⟩ := (ofItem_checks first).of_not_wrong hf
    show (ofItem first >>= fun r => ofItems (rest ++ item :: after) >>= fun more =>
      pure (r :: more)) = _
    rw [hok, ok_bind, ih hr, error_bind]

/-- If nothing is wrong, each item gives its record. -/
theorem ofItems_of_not_malformed (h : ∀ item ∈ items, ¬ Malformed item) :
    ∃ records, ofItems items = .ok records ∧ List.Forall₂ Describes items records := by
  induction items with
  | nil => exact ⟨[], rfl, .nil⟩
  | cons item rest ih =>
    obtain ⟨hi, hr⟩ := List.forall_mem_cons.mp h
    obtain ⟨r, hok, hsays⟩ := (ofItem_checks item).of_not_wrong hi
    obtain ⟨records, hrest, hall⟩ := ih hr
    refine ⟨r :: records, ?_, .cons hsays hall⟩
    show (ofItem item >>= fun r => ofItems rest >>= fun more => pure (r :: more)) = _
    rw [hok, ok_bind, hrest, ok_bind]
    rfl

theorem ofValue_list (items : List Value) :
    ofValue (.list items) = (ofItems items).mapError .content := rfl

/-- What becomes of the items of a list. -/
structure Checked (items : List Value) : Prop where
  /-- The list is refused exactly if something is wrong with an item. -/
  refused_iff : (∃ e, ofValue (.list items) = .error (.content e)) ↔
    ∃ item ∈ items, Malformed item
  /-- It fails in no other way. -/
  noOther : ∀ e, ofValue (.list items) = .error e → ∃ refusal, e = .content refusal
  /-- The first item with which something is wrong decides on the words, and they name what
      is wrong with it. -/
  first : ∀ before item after, items = before ++ item :: after →
    (∀ b ∈ before, ¬ Malformed b) → Malformed item →
    ∃ e, ofItem item = .error e ∧ Wrong item e ∧ ofValue (.list items) = .error (.content e)
  /-- If nothing is wrong, there is one record for each item, in order. -/
  accepted : (∀ item ∈ items, ¬ Malformed item) →
    ∃ records, ofValue (.list items) = .ok records ∧ List.Forall₂ Describes items records

/-- **A list is refused exactly if something is wrong with one of its items, in the words
    for the first of them; else it drops nothing that the items say.** -/
theorem ofValue_checked (items : List Value) : Checked items := by
  have hfirst : ∀ before item after, items = before ++ item :: after →
      (∀ b ∈ before, ¬ Malformed b) → Malformed item →
      ∃ e, ofItem item = .error e ∧ Wrong item e ∧
        ofValue (.list items) = .error (.content e) := by
    intro before item after hitems hb hm
    obtain ⟨e, he, hw⟩ := (ofItem_checks item).of_wrong hm
    refine ⟨e, he, hw, ?_⟩
    rw [ofValue_list, hitems, ofItems_of_first hb he, mapError_error]
  have haccepted : (∀ item ∈ items, ¬ Malformed item) →
      ∃ records, ofValue (.list items) = .ok records ∧ List.Forall₂ Describes items records := by
    intro h
    obtain ⟨records, hok, hall⟩ := ofItems_of_not_malformed h
    exact ⟨records, by rw [ofValue_list, hok, mapError_ok], hall⟩
  refine ⟨⟨?_, ?_⟩, ?_, hfirst, haccepted⟩
  · intro ⟨e, he⟩
    refine Classical.byContradiction fun hno => ?_
    obtain ⟨records, hok, _⟩ := haccepted fun item hi hm => hno ⟨item, hi, hm⟩
    rw [hok] at he
    cases he
  · intro h
    obtain ⟨before, item, after, hitems, hb, hm⟩ := exists_first_malformed h
    obtain ⟨e, _, _, he⟩ := hfirst before item after hitems hb hm
    exact ⟨e, he⟩
  · intro e he
    rw [ofValue_list] at he
    obtain ⟨refusal, _, hr⟩ := mapError_eq_error.mp he
    exact ⟨refusal, hr.symm⟩

/-- A false value in the place of a list is none, and an element without an address is
    passed over. -/
example : (ofValue (.list [.object [("id", .int 1), ("title", .text "A"),
      ("design_decisions", .int 0), ("attachments", .list [.object [("caption", .int 2)]])]])).map
      (fun records => records.map fun r => (r.title, r.designDecisions, r.attachments.length)) =
    .ok [("A", [], 0)] := by
  rfl

end Portfolio.Record
