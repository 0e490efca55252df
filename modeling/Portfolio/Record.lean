/-
  File:      Portfolio/Record.lean
  Subject:   Project records, and how they are read from a document.

  * `Record`: one project. Fields that the pages only show may be of any
    kind; the title and the three lists hold text.
  * `Record.ofFields`: the checks come in a fixed order, so a record with
    two mistakes is refused for the first one: id, title, the three lists
    of texts, links, attachments.
  * `ofValue`: all records of a document, in order.
-/
import Portfolio.Error

namespace Portfolio

open Json (Value Fields)

/-! ## 1. Records -/

/-- An address outside of the site, with the words that name it. -/
structure Link where
  label : Value
  url : Value
  deriving Repr, Inhabited

/-- A picture or a document that belongs to a project. -/
structure Attachment where
  url : Value
  caption : Option Value
  alt : Option Value
  deriving Repr, Inhabited

/-- One project. -/
structure Record where
  id : Value
  title : String
  role : Value
  description : Value
  problemStatement : Option Value
  architectureImage : Option Value
  technicalHighlights : List String
  designDecisions : List String
  impactMetrics : List String
  links : List Link
  attachments : List Attachment
  deriving Repr, Inhabited

namespace Record

/-! ## 2. Lists in a record -/

/-- The id for messages: `null` where there is none. -/
def shownId (fields : Fields) : Value :=
  (fields.get? "id").getD .null

/-- The items of a list; a list that is not given has none. -/
def listOf (fields : Fields) (name : String) : Except ContentError (List Value) :=
  match fields.given? name with
  | none => .ok []
  | some (.list items) => .ok items
  | some _ => .error (.notAList name (shownId fields))

/-- The texts of a list, if all items are texts. -/
def textsOf (name : String) (id : Value) : List Value → Except ContentError (List String)
  | [] => .ok []
  | .text s :: rest => (textsOf name id rest).map (s :: ·)
  | item :: _ => .error (.itemNotText name id item)

/-- The texts under a name. -/
def textList (fields : Fields) (name : String) : Except ContentError (List String) := do
  textsOf name (shownId fields) (← listOf fields name)

/-! ## 3. Links -/

/-- The link that an item gives: a text is an address that names itself,
    an object without an address gives none. -/
def linkOf : Value → Except ContentError (Option Link)
  | .text s => .ok (some ⟨.text s, .text s⟩)
  | .object item =>
    .ok ((Fields.given? item "url").map fun url => ⟨(Fields.given? item "label").getD url, url⟩)
  | item => .error (.badLink item)

/-- The links of the items. -/
def linksOf : List Value → Except ContentError (List Link)
  | [] => .ok []
  | item :: rest => do
    let link ← linkOf item
    return link.toList ++ (← linksOf rest)

/-- The single link of a record. -/
def singleLink (fields : Fields) : Option Link :=
  (fields.given? "link").map fun url => ⟨.text "Website", url⟩

/-- All links of a record, the single one first. -/
def links? (fields : Fields) : Except ContentError (List Link) := do
  return (singleLink fields).toList ++ (← linksOf (← listOf fields "links"))

/-! ## 4. Attachments -/

/-- The attachment that an item gives: an object without an address gives
    none. -/
def attachmentOf : Value → Except ContentError (Option Attachment)
  | .object item =>
    .ok ((Fields.given? item "url").map fun url =>
      ⟨url, Fields.given? item "caption", Fields.given? item "alt"⟩)
  | item => .error (.badAttachment item)

/-- The attachments of the items. -/
def attachmentsOf : List Value → Except ContentError (List Attachment)
  | [] => .ok []
  | item :: rest => do
    let attachment ← attachmentOf item
    return attachment.toList ++ (← attachmentsOf rest)

/-! ## 5. Whole records -/

/-- The title, which has to be a text. -/
def titleOf (id : Value) : Value → Except ContentError String
  | .text s => .ok s
  | _ => .error (.titleNotText id)

/-- A field that a record has to have. -/
def required (fields : Fields) (name : String) : Except ContentError Value :=
  match fields.get? name with
  | some v => .ok v
  | none => .error (.missingField name)

/-- The record that the fields of an object give. -/
def ofFields (fields : Fields) : Except ContentError Record := do
  let id ← required fields "id"
  let title ← titleOf id (← required fields "title")
  let technicalHighlights ← textList fields "technical_highlights"
  let designDecisions ← textList fields "design_decisions"
  let impactMetrics ← textList fields "impact_metrics"
  let links ← links? fields
  let attachments ← attachmentsOf (← listOf fields "attachments")
  return {
    id, title, technicalHighlights, designDecisions, impactMetrics, links, attachments
    role := (fields.given? "role").getD (.text "")
    description := (fields.given? "description").getD (.text "")
    problemStatement := fields.given? "problem_statement"
    architectureImage := fields.given? "architecture_image" }

/-- The record that an item gives. -/
def ofItem : Value → Except ContentError Record
  | .object fields => ofFields fields
  | item => .error (.notARecord item)

/-- The records that the items give. -/
def ofItems : List Value → Except ContentError (List Record)
  | [] => .ok []
  | item :: rest => do
    let record ← ofItem item
    return record :: (← ofItems rest)

/-- The items of a value: of a list its items, of a text its characters,
    of an object its names. -/
def itemsOf : Value → Except DataFault (List Value)
  | .list items => .ok items
  | .text s => .ok (s.toList.map fun c => .text (String.ofList [c]))
  | .object fields => .ok (fields.map fun field => .text field.1)
  | _ => .error .noItems

/-- The records that a value gives. -/
def ofValue (v : Value) : Except Error (List Record) := do
  let items ← (itemsOf v).mapError .fault
  (ofItems items).mapError .content

end Record

end Portfolio
