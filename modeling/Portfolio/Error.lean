/-
  File:      Portfolio/Error.lean
  Subject:   What can go wrong, by cause, and the words for it.

  * `ConsoleError`: a command cannot do what its user asks for.
  * `ContentError`: a content file cannot be turned into records.
  * `DataFault`: data of a shape that no check names; a program that meets
    one stops.
  * `Error`: any of these.
-/
import Portfolio.Json.Text
import Portfolio.Json.Reader

namespace Portfolio

open Json (Value integerText)

/-! ## 1. The console -/

/-- Why a command fails. Where a path is named it is the path as typed,
    `none` where no path was given. -/
inductive ConsoleError where
  | pathNotFound (path : Option String)
  | notADirectory (path : Option String)
  | notAFile (path : Option String)
  | shellFeature
  | blankKeyword
  | missingKeyword
  | missingPath
  | invalidDepth
  | unknownCommand (name : String)
  | notInitialized
  deriving DecidableEq, Repr

/-- A path in a message. -/
def shownPath : Option String → String
  | some path => path
  | none => "None"

/-- The words for a failed command. -/
def ConsoleError.message : ConsoleError → String
  | .pathNotFound path => "path not found: " ++ shownPath path
  | .notADirectory path => "not a directory: " ++ shownPath path
  | .notAFile path => "not a file: " ++ shownPath path
  | .shellFeature =>
    "shell features are not supported. This console exposes a read-only portfolio system."
  | .blankKeyword => "search keyword required"
  | .missingKeyword => "search requires a keyword"
  | .missingPath => "read requires a file path"
  | .invalidDepth => "tree depth must be a positive number"
  | .unknownCommand name =>
    "unknown command: " ++ name ++ ". Type 'help' for available commands."
  | .notInitialized => "Filesystem not initialized"

/-! ## 2. Content -/

/-- Why a file cannot be read. -/
inductive ReadFault where
  | missing
  | belowFile
  | directory
  | nameTooLong
  deriving DecidableEq, Repr

/-- The number and the words for a file that cannot be read. -/
def ReadFault.message : ReadFault → String
  | .missing => "[Errno 2] No such file or directory"
  | .belowFile => "[Errno 20] Not a directory"
  | .directory => "[Errno 21] Is a directory"
  | .nameTooLong => "[Errno 36] File name too long"

/-- Why content is refused. -/
inductive ContentError where
  | missingField (name : String)
  | titleNotText (id : Value)
  | notAList (field : String) (id : Value)
  | itemNotText (field : String) (id item : Value)
  | badLink (item : Value)
  | badAttachment (item : Value)
  | notARecord (item : Value)
  | unreadable (path : String) (cause : ReadFault)
  | malformed (path : String) (fault : Json.Fault) (place : Json.Place)
  | projectsNotAList (path : String)
  | unsupportedDocument (path : String)
  deriving Repr

/-- A natural number in a message. -/
def countText (n : Nat) : String :=
  String.ofList (Nat.toDigits 10 n)

/-- A place in a document, as a message gives it. -/
def placeText (place : Json.Place) : String :=
  "line " ++ countText place.line ++ " column " ++ countText place.column ++
    " (char " ++ countText place.offset ++ ")"

/-- The words for refused content. -/
def ContentError.message : ContentError → String
  | .missingField name => "content record is missing " ++ Text.quoted name
  | .titleNotText id => "content record " ++ id.inspect ++ " has a non-text title"
  | .notAList field id =>
    Text.quoted field ++ " of record " ++ id.inspect ++ " must be a list"
  | .itemNotText field id item =>
    Text.quoted field ++ " of record " ++ id.inspect ++ " must hold text, got " ++ item.inspect
  | .badLink item => "link entries must be objects or URLs, got " ++ item.inspect
  | .badAttachment item => "attachment entries must be objects, got " ++ item.inspect
  | .notARecord item => "expected a content record object, got " ++ item.typeName
  | .unreadable path cause =>
    "cannot read " ++ path ++ ": " ++ cause.message ++ ": " ++ Text.quoted path
  | .malformed path fault place =>
    "invalid JSON in " ++ path ++ ": " ++ fault.message ++ ": " ++ placeText place
  | .projectsNotAList path => "'projects' in " ++ path ++ " must be a list"
  | .unsupportedDocument path => "unsupported content document in " ++ path

/-! ## 3. Unchecked data -/

/-- Data of a shape that no check names. -/
inductive DataFault where
  /-- A profile that is no object. -/
  | notAnObject
  /-- Records in something that has no items. -/
  | noItems
  /-- An attachment whose address or caption is no text. -/
  | notText
  /-- An integer of too many digits. -/
  | longInteger
  /-- A file in the place of the root. -/
  | rootIsFile
  /-- Bytes that are no text. -/
  | notUtf8
  /-- A path with a null character in it. -/
  | nullInPath
  /-- A word that the logging level may not be, for its value is a text. -/
  | levelIsText
  /-- A word that the logging level may not be, for its value is a table. -/
  | levelIsTable
  /-- A line that is too wide and has no place to be cut. -/
  | uncuttable
  /-- A cursor behind the end of the text that it stands in. -/
  | cursorBeyondText
  deriving DecidableEq, Repr

/-- Anything that can go wrong. -/
inductive Error where
  | console (e : ConsoleError)
  | content (e : ContentError)
  | fault (f : DataFault)
  deriving Repr

end Portfolio
