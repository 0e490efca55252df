/-
  File:      Portfolio/Site/Build.lean
  Subject:   The tree of the site, built from a profile and records.

  * `/base` and `/meta` hold the fixed pages, `/projects` a directory for
    each project, under the slug of its title.
  * Two projects with one slug share one place: the later one replaces the
    earlier one, and a warning says so.
  * The attachments of a project lie in a directory of their own, under
    names that are all different.
-/
import Portfolio.Log
import Portfolio.Node
import Portfolio.Path
import Portfolio.Profile
import Portfolio.Site.Page
import Portfolio.Slug

namespace Portfolio.Site

open Json (Value)

/-! ## 1. The fixed pages -/

/-- A page of the directory at `parent`. -/
def page (parent name content : String) (url : Option String) : Node :=
  .file name (Path.join parent name) content url

/-- The directory with the pages about the owner. -/
def baseDirectory (p : Profile) : Node :=
  .directory "base" "/base"
    [page "/base" "about" p.about none,
     page "/base" "contact" p.contact none,
     page "/base" "resume" "[Resume Link - Opens in browser]" (some p.resumeUrl)]
    .null

/-- The directory with the pages about the system. -/
def metaDirectory (p : Profile) : Node :=
  .directory "meta" "/meta"
    [page "/meta" "system.info" p.systemInfo none,
     page "/meta" "version" p.version none]
    .null

/-! ## 2. Attachments -/

/-- A value that has to be a text. -/
def textValue : Value → Except DataFault String
  | .text s => .ok s
  | _ => .error .notText

/-- The address leads to a document, not to a picture. -/
def isDocument (url : String) : Bool :=
  ".pdf".toList.isSuffixOf (Text.lower url.toList)

/-- The slug of a caption, or the number of the attachment where that is
    empty. -/
def attachmentBase (index : Nat) (caption : Option String) : String :=
  let slug := Slug.ofTitle (caption.getD "")
  if slug = "" then "attachment-" ++ countText index else slug

/-- The file of the attachment of the given number, beside files of the
    given names. A caption without characters says nothing. -/
def attachmentFile (parent : String) (index : Nat) (taken : List String) (a : Attachment) :
    Except DataFault Node := do
  let url ← textValue a.url
  let caption ← a.caption.mapM textValue
  let ext := if isDocument url then "pdf" else "jpg"
  let name := Slug.unique (attachmentBase index caption) ext taken
  let kind := if isDocument url then "PDF Document" else "Image"
  let shown := (caption.filter (· ≠ "")).getD name
  return page parent name (attachmentPage shown kind url) (some url)

/-- The files of attachments, numbered from `index` on, after the files
    that are there. -/
def attachmentFiles (parent : String) : Nat → List Node → List Attachment →
    Except DataFault (List Node)
  | _, files, [] => .ok files
  | index, files, a :: rest => do
    let file ← attachmentFile parent index (files.map Node.name) a
    attachmentFiles parent (index + 1) (files ++ [file]) rest

/-- The directory of attachments, if there are any. -/
def attachmentsDirectory (project : String) : List Attachment → Except DataFault (List Node)
  | [] => .ok []
  | attachments => do
    let path := Path.join project "attachments"
    let files ← attachmentFiles path 1 [] attachments
    return [.directory "attachments" path files .null]

/-! ## 3. Projects -/

/-- The directory of a project. -/
def project (path slug : String) (r : Record) : Except DataFault Node := do
  let attachments ← attachmentsDirectory path r.attachments
  return .directory slug path
    ([page path "overview" (overview r) none,
      page path "architecture" (architecture r) none,
      page path "decisions.log" (decisions r) none,
      page path "impact" (impact r) none] ++ attachments)
    r.id

/-- The path of the directory of all projects. -/
def projectsPath : String := "/projects"

/-- The warning about a project that takes the place of another one. -/
def replacedEntry (title path : String) : Log.Entry where
  level := .warning
  source := "foliofs.builder"
  text := "Project " ++ Text.quoted title ++ " maps to existing directory " ++ path ++
    "; the earlier project is replaced"

/-- A tree with what the log says about building it. -/
structure Built (α : Type) where
  result : α
  log : List Log.Entry
  deriving Repr, Inhabited

/-- The directories of projects, placed among those that are there. -/
def projectDirectories : List Node → List Record → Except DataFault (Built (List Node))
  | placed, [] => .ok ⟨placed, []⟩
  | placed, r :: rest => do
    let slug := Slug.ofTitle r.title
    let path := Path.join projectsPath slug
    let warnings := if (Node.named? placed slug).isSome then [replacedEntry r.title path] else []
    let directory ← project path slug r
    let built ← projectDirectories (Node.place directory placed) rest
    return ⟨built.result, warnings ++ built.log⟩

/-- What the log says about the number of projects. -/
def builtEntry (directories records : Nat) : Log.Entry where
  level := .info
  source := "foliofs.builder"
  text := "Built " ++ countText directories ++ " project directories from " ++
    countText records ++ " records"

/-- The directory of all projects. -/
def projects (records : List Record) : Except DataFault (Built Node) := do
  let built ← projectDirectories [] records
  return ⟨.directory "projects" projectsPath built.result .null,
    built.log ++ [builtEntry built.result.length records.length]⟩

/-! ## 4. The whole tree -/

/-- The tree of the site. -/
def build (p : Profile) (records : List Record) : Except DataFault (Built Node) := do
  let built ← projects records
  return ⟨.directory "" "/" [baseDirectory p, built.result, metaDirectory p] .null, built.log⟩

end Portfolio.Site
