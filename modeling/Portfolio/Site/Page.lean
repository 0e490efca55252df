/-
  File:      Portfolio/Site/Page.lean
  Subject:   The four pages of a project, and the page of an attachment.

  * Each page of a project starts with an underlined heading. The line is
    longer than the title by a fixed number of signs for each page; under the
    decisions it ends one sign before the heading does.
  * The pages show the fields of the record in order; lists are numbered
    from one. A field that says nothing is left out as if it were missing.
-/
import Portfolio.Record

namespace Portfolio.Site

open Json (Value)

/-- A heading: a label before the title, over a line that has `extra` signs
    more than the title has characters. -/
def heading (label : String) (extra : Nat) (title : String) : String :=
  label ++ title ++ "\n" ++
    String.ofList (List.replicate (title.length + extra) '=') ++ "\n\n"

/-- The items with their numbers, from `first` on. -/
def numbered (first : Nat) : List String → List (Nat × String)
  | [] => []
  | item :: rest => (first, item) :: numbered (first + 1) rest

/-- The line of a link. -/
def linkLine (link : Link) : String :=
  "- " ++ link.label.display ++ ": " ++ link.url.display ++ "\n"

/-- The part about the problem. -/
def problemPart : Option Value → String
  | none => ""
  | some problem => "Problem Statement:\n" ++ problem.display ++ "\n"

/-- The part about the links; a blank line keeps it off the part before. -/
def linksPart (spaced : Bool) : List Link → String
  | [] => ""
  | links => (if spaced then "\n" else "") ++ "Links:\n" ++ String.join (links.map linkLine)

/-- The page that introduces a project. -/
def overview (r : Record) : String :=
  heading "" 0 r.title ++ "Role: " ++ r.role.display ++ "\n\n" ++ r.description.display ++ "\n\n" ++
    problemPart (Value.given? r.problemStatement) ++
      linksPart (Value.given? r.problemStatement).isSome r.links

/-- The part about the diagram. -/
def diagramPart : Option Value → String
  | none => ""
  | some image => "Architecture Diagram: /public/" ++ image.display ++ "\n\n"

/-- The part about the highlights. -/
def highlightsPart : List String → String
  | [] => ""
  | highlights => "Technical Highlights:\n" ++
      String.join ((numbered 1 highlights).map fun (i, h) => countText i ++ ". " ++ h ++ "\n")

/-- The page about the architecture. -/
def architecture (r : Record) : String :=
  heading "Architecture - " 15 r.title ++ diagramPart (Value.given? r.architectureImage) ++
    highlightsPart r.technicalHighlights

/-- The page about the decisions. -/
def decisions (r : Record) : String :=
  heading "Design Decisions - " 18 r.title ++
    String.join ((numbered 1 r.designDecisions).map fun (i, d) =>
      "[" ++ countText i ++ "] " ++ d ++ "\n\n")

/-- The page about the impact. -/
def impact (r : Record) : String :=
  heading "Impact Metrics - " 17 r.title ++
    String.join (r.impactMetrics.map fun m => "• " ++ m ++ "\n")

/-- The page of an attachment. -/
def attachmentPage (caption kind url : String) : String :=
  "Attachment: " ++ caption ++ "\nType: " ++ kind ++ "\nURL: " ++ url ++
    "\n\nUse 'open' command to view."

end Portfolio.Site
