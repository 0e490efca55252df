/-
  File:      Portfolio/Proofs/Site/PageLines.lean
  Subject:   The pages of a project, line by line.

  * `written`: lines, each with its end. If there is no other line end in them, they can be
    told from the text (`written_inj`), so pages can be compared line by line.
  * `headed`: lines under a label, which is missing where they are; `numberedLines`: the lines
    of numbered items.
  * `overviewLines`, `architectureLines`, `decisionsLines`, `impactLines`: the lines of the
    pages. `overview_eq_written` and its like: the pages are these lines.
-/
import Portfolio.Site.Page

namespace Portfolio.Site

open Json (Value)

/-! ## 1. Lines -/

/-- The text has no line end in it. -/
def IsLine (s : String) : Prop :=
  '\n' ∉ s.toList

instance (s : String) : Decidable (IsLine s) :=
  inferInstanceAs (Decidable ('\n' ∉ s.toList))

@[simp] theorem isLine_append {s t : String} : IsLine (s ++ t) ↔ IsLine s ∧ IsLine t := by
  simp [IsLine]

@[simp] theorem isLine_countText (n : Nat) : IsLine (countText n) := by
  intro h
  unfold countText at h
  rw [String.toList_ofList] at h
  exact absurd (Nat.isDigit_of_mem_toDigits (by decide) (by decide) h) (by decide)

/-- The line under a heading. -/
def underline (length : Nat) : String :=
  String.ofList (List.replicate length '=')

@[simp] theorem isLine_underline (length : Nat) : IsLine (underline length) := by
  simp [IsLine, underline]

/-- Lines one after the other, each with its end. -/
def written (lines : List String) : String :=
  String.join (lines.map (· ++ "\n"))

@[simp] theorem written_nil : written [] = "" := rfl

@[simp] theorem written_cons (line : String) (rest : List String) :
    written (line :: rest) = line ++ "\n" ++ written rest := by
  simp [written, String.join_cons]

@[simp] theorem written_append (lines more : List String) :
    written (lines ++ more) = written lines ++ written more := by
  simp [written]

/-- At the line ends the text falls into the lines, and nothing comes after the last. -/
theorem splitOn_written {lines : List String} (h : ∀ line ∈ lines, IsLine line) :
    (written lines).toList.splitOn '\n' = lines.map String.toList ++ [[]] := by
  induction lines with
  | nil => rfl
  | cons line rest ih =>
    obtain ⟨hline, hrest⟩ := List.forall_mem_cons.mp h
    have htext : (written (line :: rest)).toList =
        line.toList ++ '\n' :: (written rest).toList := by
      simp
    rw [htext, List.splitOn_append_cons_self, List.splitOn_eq_singleton hline, ih hrest]
    rfl

/-- **Lines with no line end in them can be told from the text.** -/
theorem written_inj {lines lines' : List String} (h : ∀ line ∈ lines, IsLine line)
    (h' : ∀ line ∈ lines', IsLine line) (he : written lines = written lines') :
    lines = lines' := by
  have hsplit := splitOn_written h
  rw [he, splitOn_written h'] at hsplit
  have hmap := List.append_cancel_right hsplit
  exact (List.map_inj_right fun _ _ => String.toList_inj.mp).mp hmap.symm

/-! ## 2. Pages as lines -/

/-- The lines of a heading. -/
def headingLines (label : String) (extra : Nat) (title : String) : List String :=
  [label ++ title, underline (title.length + extra), ""]

/-- Lines under a label. Where there are none, there is no label either. -/
def headed (label : List String) : List String → List String
  | [] => []
  | lines => label ++ lines

/-- The lines of numbered items: each item as a line, with the same lines after it. -/
def numberedLines (line : Nat → String → String) (after : List String) (first : Nat)
    (items : List String) : List String :=
  (numbered first items).flatMap fun (i, item) => line i item :: after

/-- The lines about the problem. -/
def problemLines (problem : Value) : List String :=
  ["Problem Statement:", problem.display]

/-- A link without its line end. -/
def linkText (link : Link) : String :=
  "- " ++ link.label.display ++ ": " ++ link.url.display

/-- What stands over the links: an empty line keeps them off what comes before. -/
def linksLabel (spaced : Bool) : List String :=
  if spaced then ["", "Links:"] else ["Links:"]

/-- The lines about the problem and the links. -/
def notes (r : Record) : List String :=
  (Value.given? r.problemStatement).elim [] problemLines ++
    headed (linksLabel (Value.given? r.problemStatement).isSome) (r.links.map linkText)

/-- The lines of the page that introduces a project. -/
def overviewLines (r : Record) : List String :=
  headingLines "" 0 r.title ++ ["Role: " ++ r.role.display, "", r.description.display, ""] ++
    notes r

/-- The lines about the diagram. -/
def diagramLines (image : Value) : List String :=
  ["Architecture Diagram: /public/" ++ image.display, ""]

/-- A highlight with its number. -/
def highlightLine (i : Nat) (highlight : String) : String :=
  countText i ++ ". " ++ highlight

/-- The lines about the diagram and the highlights. -/
def sections (r : Record) : List String :=
  (Value.given? r.architectureImage).elim [] diagramLines ++
    headed ["Technical Highlights:"] (numberedLines highlightLine [] 1 r.technicalHighlights)

/-- The lines of the page about the architecture. -/
def architectureLines (r : Record) : List String :=
  headingLines "Architecture - " 15 r.title ++ sections r

/-- A decision with its number. -/
def decisionLine (i : Nat) (decision : String) : String :=
  "[" ++ countText i ++ "] " ++ decision

/-- The lines of the page about the decisions. -/
def decisionsLines (r : Record) : List String :=
  headingLines "Design Decisions - " 18 r.title ++
    numberedLines decisionLine [""] 1 r.designDecisions

/-- The lines of the page about the impact. -/
def impactLines (r : Record) : List String :=
  headingLines "Impact Metrics - " 17 r.title ++ r.impactMetrics.map ("• " ++ ·)

theorem heading_eq_written (label : String) (extra : Nat) (title : String) :
    heading label extra title = written (headingLines label extra title) := by
  simp [heading, headingLines, underline, ← String.toList_inj]

theorem written_numberedLines (line : Nat → String → String) (after : List String) (first : Nat)
    (items : List String) : written (numberedLines line after first items) =
      String.join ((numbered first items).map fun (i, item) =>
        line i item ++ "\n" ++ written after) := by
  unfold numberedLines
  induction numbered first items with
  | nil => rfl
  | cons item rest ih => simp [ih, String.join_cons, String.append_assoc]

theorem blankLine_eq : ("\n\n" : String) = "\n" ++ "\n" := rfl

theorem problemPart_eq_written (problem : Option Value) :
    problemPart problem = written (problem.elim [] problemLines) := by
  have hlabel : ("Problem Statement:\n" : String) = "Problem Statement:" ++ "\n" := rfl
  cases problem with
  | none => rfl
  | some problem =>
    show "Problem Statement:\n" ++ problem.display ++ "\n" =
      written ["Problem Statement:", problem.display]
    rw [hlabel, written_cons, written_cons, written_nil, String.append_empty,
      String.append_assoc]

theorem linksPart_eq_written (spaced : Bool) (links : List Link) :
    linksPart spaced links = written (headed (linksLabel spaced) (links.map linkText)) := by
  have hlabel : ("Links:\n" : String) = "Links:" ++ "\n" := rfl
  have hlines : String.join (links.map linkLine) = written (links.map linkText) := by
    unfold written
    rw [List.map_map]
    rfl
  cases links with
  | nil => rfl
  | cons link rest =>
    have hheaded : headed (linksLabel spaced) ((link :: rest).map linkText) =
        linksLabel spaced ++ (link :: rest).map linkText := rfl
    rw [hheaded, written_append, ← hlines]
    simp only [linksPart, hlabel]
    cases spaced with
    | true =>
      simp only [linksLabel, if_true, written_cons, written_nil, String.empty_append,
        String.append_empty, String.append_assoc]
    | false =>
      simp only [linksLabel, Bool.false_eq_true, if_false, written_cons, written_nil,
        String.empty_append, String.append_empty]

theorem overview_eq_written (r : Record) : overview r = written (overviewLines r) := by
  unfold overview overviewLines notes
  simp only [heading_eq_written, problemPart_eq_written, linksPart_eq_written, blankLine_eq,
    written_append, written_cons, written_nil, String.empty_append, String.append_empty,
    String.append_assoc]

theorem diagramPart_eq_written (image : Option Value) :
    diagramPart image = written (image.elim [] diagramLines) := by
  cases image with
  | none => rfl
  | some image =>
    show "Architecture Diagram: /public/" ++ image.display ++ "\n\n" =
      written ["Architecture Diagram: /public/" ++ image.display, ""]
    rw [blankLine_eq]
    simp [String.append_assoc]

theorem highlightsPart_eq_written (highlights : List String) :
    highlightsPart highlights = written (headed ["Technical Highlights:"]
      (numberedLines highlightLine [] 1 highlights)) := by
  have hlabel : ("Technical Highlights:\n" : String) = "Technical Highlights:" ++ "\n" := rfl
  cases highlights with
  | nil => rfl
  | cons highlight rest =>
    have hheaded : headed ["Technical Highlights:"]
        (numberedLines highlightLine [] 1 (highlight :: rest)) =
          "Technical Highlights:" :: numberedLines highlightLine [] 1 (highlight :: rest) := rfl
    rw [hheaded, written_cons, written_numberedLines]
    simp only [highlightsPart, hlabel, highlightLine, written_nil, String.append_empty]

theorem architecture_eq_written (r : Record) :
    architecture r = written (architectureLines r) := by
  unfold architecture architectureLines sections
  rw [heading_eq_written, diagramPart_eq_written, highlightsPart_eq_written, written_append,
    written_append, String.append_assoc]

theorem decisions_eq_written (r : Record) : decisions r = written (decisionsLines r) := by
  unfold decisions decisionsLines
  rw [heading_eq_written, written_append, written_numberedLines, blankLine_eq]
  simp [decisionLine, String.append_assoc]

theorem impact_eq_written (r : Record) : impact r = written (impactLines r) := by
  unfold impact impactLines
  rw [heading_eq_written, written_append]
  simp [written, Function.comp_def]

end Portfolio.Site
