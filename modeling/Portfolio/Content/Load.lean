/-
  File:      Portfolio/Content/Load.lean
  Subject:   Loading a content file.

  * A document is a list of records, or an object with a list of records
    under `projects` and a profile under `profile`, either of which may be
    missing.
  * The steps fail in this order: reading, decoding, JSON, the profile, the
    list of records, the records.
-/
import Portfolio.Content.Source
import Portfolio.Log
import Portfolio.Profile
import Portfolio.Record

namespace Portfolio.Content

open Json (Value Fields)

/-- What a content file gives. -/
structure Loaded where
  profile : Profile
  records : List Record
  deriving Repr, Inhabited

/-- The text of a file. -/
def textOf (read : Reader) (path : String) : Except Error (List Char) := do
  if path.toList.contains '\x00' then throw (.fault .nullInPath)
  let bytes ← (read path).mapError fun cause => .content (.unreadable path cause)
  match String.fromUTF8? bytes with
  | none => throw (.fault .notUtf8)
  | some text => return plainLines text.toList

/-- The document in a text. -/
def documentOf (path : String) (text : List Char) : Except Error Value :=
  match Json.read text with
  | .ok v => .ok v
  | .error .longInteger => .error (.fault .longInteger)
  | .error (.fault what unread) =>
    .error (.content (.malformed path what (Json.placeOf text unread)))

/-- The profile and the items of an object. -/
def partsOfObject (path : String) (fields : Fields) : Except Error (Profile × List Value) := do
  let profile ← (Profile.ofValue ((fields.given? "profile").getD (.object []))).mapError .fault
  match fields.given? "projects" with
  | none => return (profile, [])
  | some (.list items) => return (profile, items)
  | some _ => throw (.content (.projectsNotAList path))

/-- The profile and the items of a document. -/
def partsOfDocument (path : String) : Value → Except Error (Profile × List Value)
  | .list items => .ok ({}, items)
  | .object fields => partsOfObject path fields
  | _ => .error (.content (.unsupportedDocument path))

/-- The content that a document gives. -/
def ofDocument (path : String) (document : Value) : Except Error Loaded := do
  let (profile, items) ← partsOfDocument path document
  let records ← (Record.ofItems items).mapError .content
  return { profile, records }

/-- The content of the file at a path. -/
def load (read : Reader) (path : String) : Except Error Loaded := do
  let path := cleanPath path
  let text ← textOf read path
  let document ← documentOf path text
  ofDocument path document

/-- What the log says about content that has been loaded. -/
def loadEntry (path : String) (content : Loaded) : Log.Entry where
  level := .debug
  source := "foliofs.records"
  text := "Loaded " ++ countText content.records.length ++ " content records from " ++
    cleanPath path

end Portfolio.Content
