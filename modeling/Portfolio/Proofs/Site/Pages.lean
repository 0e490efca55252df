/-
  File:      Portfolio/Proofs/Site/Pages.lean
  Subject:   What the pages of a project tell of its record.

  * `numberedLines_inj`, `headed_inj`: a list of any length can be told from its lines.
    `elim_append_inj`: so can a part that may be missing, if what comes after it never starts
    as the part does.
  * `notes_inj`, `sections_inj`: the parts of the two pages that have such parts.
  * `InLines`: a record that is read from a document, with no line end in its texts;
    `LinksInLines`: nor in those of its links, which only one page shows. `pages_tell`: two
    such records have a page in common exactly if they agree in all that it shows.
-/
import Portfolio.Proofs.Content.Records
import Portfolio.Proofs.Site.PageLines

namespace Portfolio.Site

open Json (Value Fields)

/-! ## 1. Lists and parts that may be missing -/

/-- **Numbered items can be told from their lines**, if an item can be told from its line. -/
theorem numberedLines_inj {line : Nat → String → String} (hline : ∀ i, (line i).Injective)
    {after : List String} {first : Nat} {items items' : List String}
    (h : numberedLines line after first items = numberedLines line after first items') :
    items = items' := by
  induction items generalizing items' first with
  | nil =>
    cases items' with
    | nil => rfl
    | cons item' rest' => simp [numberedLines, numbered] at h
  | cons item rest ih =>
    cases items' with
    | nil => simp [numberedLines, numbered] at h
    | cons item' rest' =>
      have hcons : ∀ item rest, numberedLines line after first (item :: rest) =
          line first item :: (after ++ numberedLines line after (first + 1) rest) := by
        intro item rest
        simp [numberedLines, numbered]
      rw [hcons, hcons] at h
      obtain ⟨hitem, hrest⟩ := List.cons.inj h
      rw [hline first hitem, ih (List.append_cancel_left hrest)]

theorem highlightLine_injective (i : Nat) : (highlightLine i).Injective := by
  intro s t h
  exact (String.append_right_inj _).mp h

theorem decisionLine_injective (i : Nat) : (decisionLine i).Injective := by
  intro s t h
  exact (String.append_right_inj _).mp h

/-- Headings of one page can be told apart, and so can what follows them. -/
theorem headingLines_append_inj {label title title' : String} {extra : Nat}
    {rest rest' : List String}
    (h : headingLines label extra title ++ rest = headingLines label extra title' ++ rest') :
    title = title' ∧ rest = rest' := by
  simp only [headingLines, List.cons_append, List.nil_append, List.cons.injEq, true_and] at h
  exact ⟨(String.append_right_inj _).mp h.1, h.2.2⟩

/-- The value is a text with no line end in it. -/
def IsLineText (v : Value) : Prop :=
  ∃ s, v = .text s ∧ IsLine s

theorem IsLineText.isLine {v : Value} (h : IsLineText v) : IsLine v.display := by
  obtain ⟨s, rfl, hs⟩ := h
  exact hs

/-- A value that is a text can be told from how it is shown. -/
theorem IsLineText.eq_of_display {v v' : Value} (h : IsLineText v) (h' : IsLineText v')
    (he : v.display = v'.display) : v = v' := by
  obtain ⟨s, rfl, _⟩ := h
  obtain ⟨s', rfl, _⟩ := h'
  exact congrArg Value.text he

/-- **A part that may be missing can be told from its lines and those after it**, if these
    never start as the part does. -/
theorem elim_append_inj {part : Value → List String} {shown shown' : Option Value}
    {rest rest' : List String}
    (hpart : ∀ v ∈ shown, ∀ v' ∈ shown', ∀ rest rest',
      part v ++ rest = part v' ++ rest' → v = v' ∧ rest = rest')
    (hnone : shown = none → ∀ v more, rest ≠ part v ++ more)
    (hnone' : shown' = none → ∀ v more, rest' ≠ part v ++ more)
    (h : shown.elim [] part ++ rest = shown'.elim [] part ++ rest') :
    shown = shown' ∧ rest = rest' := by
  cases shown with
  | none =>
    cases shown' with
    | none => exact ⟨rfl, h⟩
    | some v' => exact absurd h (hnone rfl v' rest')
  | some v =>
    cases shown' with
    | none => exact absurd h.symm (hnone' rfl v rest)
    | some v' =>
      obtain ⟨hv, hrest⟩ := hpart v rfl v' rfl rest rest' h
      exact ⟨congrArg some hv, hrest⟩

/-- **Lines can be told from what they are under their label.** -/
theorem headed_inj {label lines lines' : List String}
    (h : headed label lines = headed label lines') : lines = lines' := by
  cases lines with
  | nil =>
    cases lines' with
    | nil => rfl
    | cons line' rest' => simp [headed] at h
  | cons line rest =>
    cases lines' with
    | nil => simp [headed] at h
    | cons line' rest' => exact List.append_cancel_left h

/-- Lines under a label start with the label. -/
theorem headed_ne {first line : String} (hne : first ≠ line) (label lines more : List String) :
    headed (first :: label) lines ≠ line :: more := by
  intro h
  cases lines with
  | nil => simp [headed] at h
  | cons => exact hne (List.cons.inj h).1

/-- **The problem and the links can be told from their lines**, whether they are there or
    not. -/
theorem notes_inj {r r' : Record} (hp : ∀ v ∈ Value.given? r.problemStatement, IsLineText v)
    (hp' : ∀ v ∈ Value.given? r'.problemStatement, IsLineText v) (h : notes r = notes r') :
    Value.given? r.problemStatement = Value.given? r'.problemStatement ∧
      r.links.map linkText = r'.links.map linkText := by
  have hpart : ∀ v ∈ Value.given? r.problemStatement, ∀ v' ∈ Value.given? r'.problemStatement,
      ∀ rest rest', problemLines v ++ rest = problemLines v' ++ rest' → v = v' ∧ rest = rest' := by
    intro v hv v' hv' rest rest' he
    obtain ⟨hdisplay, hrest⟩ := List.cons.inj (List.cons.inj he).2
    exact ⟨(hp v hv).eq_of_display (hp' v' hv') hdisplay, hrest⟩
  have hnone : ∀ r : Record, Value.given? r.problemStatement = none → ∀ v more,
      headed (linksLabel (Value.given? r.problemStatement).isSome) (r.links.map linkText) ≠
        problemLines v ++ more := by
    intro r hr v more
    rw [hr]
    exact headed_ne (by decide) [] _ _
  obtain ⟨hproblem, hlinks⟩ := elim_append_inj hpart (hnone r) (hnone r') h
  rw [hproblem] at hlinks
  exact ⟨hproblem, headed_inj hlinks⟩

/-- **The diagram and the highlights can be told from their lines**, whether they are there
    or not. -/
theorem sections_inj {r r' : Record} (hi : ∀ v ∈ Value.given? r.architectureImage, IsLineText v)
    (hi' : ∀ v ∈ Value.given? r'.architectureImage, IsLineText v)
    (h : sections r = sections r') :
    Value.given? r.architectureImage = Value.given? r'.architectureImage ∧
      r.technicalHighlights = r'.technicalHighlights := by
  have hpart : ∀ v ∈ Value.given? r.architectureImage, ∀ v' ∈ Value.given? r'.architectureImage,
      ∀ rest rest', diagramLines v ++ rest = diagramLines v' ++ rest' → v = v' ∧ rest = rest' := by
    intro v hv v' hv' rest rest' he
    obtain ⟨hline, hrest⟩ := List.cons.inj he
    have hdisplay := (String.append_right_inj _).mp hline
    exact ⟨(hi v hv).eq_of_display (hi' v' hv') hdisplay, (List.cons.inj hrest).2⟩
  have hlabel : ∀ v : Value,
      "Technical Highlights:" ≠ "Architecture Diagram: /public/" ++ v.display := by
    intro v he
    have hhead := congrArg (·.toList.head?) he
    rw [String.toList_append] at hhead
    exact absurd (Option.some.inj hhead) (by decide)
  have hnone : ∀ (lines : List String) v more,
      headed ["Technical Highlights:"] lines ≠ diagramLines v ++ more :=
    fun lines v more => headed_ne (hlabel v) [] lines _
  obtain ⟨himage, hhighlights⟩ :=
    elim_append_inj hpart (fun _ => hnone _) (fun _ => hnone _) h
  exact ⟨himage, numberedLines_inj highlightLine_injective (headed_inj hhighlights)⟩

/-! ## 2. Records -/

/-- The record is read from the fields of an object, and there is no line end in the texts
    that its pages show, those of the links apart. What no page shows does not matter. -/
structure InLines (r : Record) : Prop where
  read : ∃ fields, Record.ofFields fields = .ok r
  title : IsLine r.title
  role : IsLineText r.role
  description : IsLineText r.description
  problem : ∀ v ∈ r.problemStatement, IsLineText v
  image : ∀ v ∈ r.architectureImage, IsLineText v
  highlights : ∀ item ∈ r.technicalHighlights, IsLine item
  decisions : ∀ item ∈ r.designDecisions, IsLine item
  metrics : ∀ item ∈ r.impactMetrics, IsLine item

/-- There is no line end in the texts of the links. -/
def LinksInLines (r : Record) : Prop :=
  ∀ link ∈ r.links, IsLineText link.label ∧ IsLineText link.url

variable {r r' : Record}

theorem isLine_headingLines {label title : String} (hl : IsLine label) (ht : IsLine title)
    (extra : Nat) : ∀ line ∈ headingLines label extra title, IsLine line := by
  have hempty : IsLine "" := by decide
  simp [headingLines, hl, ht, hempty]

theorem isLine_numberedLines {line : Nat → String → String} {after items : List String}
    (hline : ∀ i, ∀ item ∈ items, IsLine (line i item)) (ha : ∀ l ∈ after, IsLine l)
    (first : Nat) : ∀ l ∈ numberedLines line after first items, IsLine l := by
  induction items generalizing first with
  | nil => exact fun _ h => absurd h List.not_mem_nil
  | cons item rest ih =>
    have hrest := ih (fun i item hi => hline i item (List.mem_cons_of_mem _ hi)) (first + 1)
    intro l hl
    simp only [numberedLines, numbered, List.flatMap_cons, List.mem_append, List.mem_cons] at hl
    rcases hl with (rfl | hl) | hl
    · exact hline first item List.mem_cons_self
    · exact ha l hl
    · exact hrest l hl

theorem isLine_elim {part : Value → List String} {shown : Option Value}
    (h : ∀ v ∈ shown, ∀ line ∈ part v, IsLine line) :
    ∀ line ∈ shown.elim [] part, IsLine line := by
  cases shown with
  | none => exact fun _ hl => absurd hl List.not_mem_nil
  | some v => exact h v rfl

theorem isLine_headed {label lines : List String} (hl : ∀ line ∈ label, IsLine line)
    (h : ∀ line ∈ lines, IsLine line) : ∀ line ∈ headed label lines, IsLine line := by
  cases lines with
  | nil => exact h
  | cons => exact List.forall_mem_append.mpr ⟨hl, h⟩

theorem isLine_linkText {link : Link} (hl : IsLineText link.label) (hu : IsLineText link.url) :
    IsLine (linkText link) := by
  have hmark : IsLine "- " := by decide
  have hcolon : IsLine ": " := by decide
  simp [linkText, hmark, hcolon, hl.isLine, hu.isLine]

theorem given?_given? (fields : Fields) (name : String) :
    Value.given? (fields.given? name) = fields.given? name := by
  unfold Fields.given? Value.given?
  rw [Option.filter_filter]
  simp only [Bool.and_self]

namespace InLines

/-- What a record that was read shows of an optional field is the field. -/
theorem given (h : InLines r) : Value.given? r.problemStatement = r.problemStatement ∧
    Value.given? r.architectureImage = r.architectureImage := by
  obtain ⟨fields, hr⟩ := h.read
  have hchecks := Record.ofFields_checks fields
  rw [hr] at hchecks
  have hholds : Record.Says fields r := hchecks.2
  rw [hholds.problemStatement, hholds.architectureImage]
  exact ⟨given?_given? fields _, given?_given? fields _⟩

theorem overviewLines (h : InLines r) (hlinks : LinksInLines r) :
    ∀ line ∈ Site.overviewLines r, IsLine line := by
  have hempty : IsLine "" := by decide
  have hrole : IsLine "Role: " := by decide
  have hlabel : IsLine "Problem Statement:" := by decide
  have hlinksLabel : ∀ spaced, ∀ line ∈ linksLabel spaced, IsLine line := by decide
  refine List.forall_mem_append.mpr ⟨List.forall_mem_append.mpr ⟨?_, ?_⟩,
    List.forall_mem_append.mpr ⟨isLine_elim fun v hv => ?_, isLine_headed (hlinksLabel _) ?_⟩⟩
  · exact isLine_headingLines hempty h.title 0
  · simp [hrole, hempty, h.role.isLine, h.description.isLine]
  · rw [h.given.1] at hv
    simp [problemLines, hlabel, (h.problem v hv).isLine]
  · rw [List.forall_mem_map]
    exact fun link hl => isLine_linkText (hlinks link hl).1 (hlinks link hl).2

theorem architectureLines (h : InLines r) : ∀ line ∈ Site.architectureLines r, IsLine line := by
  have hempty : IsLine "" := by decide
  have hdot : IsLine ". " := by decide
  have hlabel : IsLine "Architecture Diagram: /public/" := by decide
  refine List.forall_mem_append.mpr ⟨isLine_headingLines (by decide) h.title 15,
    List.forall_mem_append.mpr ⟨isLine_elim fun v hv => ?_, isLine_headed (by decide) ?_⟩⟩
  · rw [h.given.2] at hv
    simp [diagramLines, hlabel, hempty, (h.image v hv).isLine]
  · refine isLine_numberedLines (fun i item hi => ?_) (List.forall_mem_nil _) 1
    simp [highlightLine, hdot, h.highlights item hi]

theorem decisionsLines (h : InLines r) : ∀ line ∈ Site.decisionsLines r, IsLine line := by
  have hempty : ∀ line ∈ [""], IsLine line := by decide
  have hopening : IsLine "[" := by decide
  have hclosing : IsLine "] " := by decide
  refine List.forall_mem_append.mpr ⟨isLine_headingLines (by decide) h.title 18,
    isLine_numberedLines (fun i item hi => ?_) hempty 1⟩
  simp [decisionLine, hopening, hclosing, h.decisions item hi]

theorem impactLines (h : InLines r) : ∀ line ∈ Site.impactLines r, IsLine line := by
  have hmark : IsLine "• " := by decide
  refine List.forall_mem_append.mpr ⟨isLine_headingLines (by decide) h.title 17, ?_⟩
  rw [List.forall_mem_map]
  intro metric hm
  simp [hmark, h.metrics metric hm]

end InLines

/-- What the pages of two records tell: they have a page in common exactly if they agree in
    all that it shows. The links are shown by their lines, on one page only. -/
structure Told (r r' : Record) : Prop where
  overview : LinksInLines r → LinksInLines r' → (overview r = overview r' ↔
    r.title = r'.title ∧ r.role = r'.role ∧ r.description = r'.description ∧
      r.problemStatement = r'.problemStatement ∧ r.links.map linkLine = r'.links.map linkLine)
  architecture : architecture r = architecture r' ↔ r.title = r'.title ∧
    r.architectureImage = r'.architectureImage ∧ r.technicalHighlights = r'.technicalHighlights
  decisions : decisions r = decisions r' ↔ r.title = r'.title ∧
    r.designDecisions = r'.designDecisions
  impact : impact r = impact r' ↔ r.title = r'.title ∧ r.impactMetrics = r'.impactMetrics

theorem map_linkLine_eq_iff {links links' : List Link} :
    links.map linkLine = links'.map linkLine ↔ links.map linkText = links'.map linkText := by
  have hline : ∀ links : List Link, links.map linkLine = (links.map linkText).map (· ++ "\n") := by
    intro links
    rw [List.map_map]
    rfl
  rw [hline, hline]
  exact List.map_inj_right fun s t => (String.append_left_inj _).mp

/-- Links with the same lines have the same part of the page. -/
theorem linksPart_congr (spaced : Bool) {links links' : List Link}
    (h : links.map linkLine = links'.map linkLine) :
    linksPart spaced links = linksPart spaced links' := by
  cases links with
  | nil =>
    rw [List.map_eq_nil_iff.mp h.symm]
  | cons link rest =>
    cases links' with
    | nil => cases h
    | cons link' rest' =>
      unfold linksPart
      dsimp only
      rw [h]

/-- **The pages of a project lose nothing of its record**, whatever its texts look like. -/
theorem pages_tell (h : InLines r) (h' : InLines r') : Told r r' where
  overview hlinks hlinks' := by
    constructor
    · intro he
      rw [overview_eq_written, overview_eq_written] at he
      have hlines := written_inj (h.overviewLines hlinks) (h'.overviewLines hlinks') he
      unfold overviewLines at hlines
      rw [List.append_assoc, List.append_assoc] at hlines
      obtain ⟨htitle, hrest⟩ := headingLines_append_inj hlines
      simp only [List.cons_append, List.nil_append, List.cons.injEq, true_and] at hrest
      obtain ⟨hrole, hdescription, hnotes⟩ := hrest
      obtain ⟨hproblem, htexts⟩ :=
        notes_inj (by rw [h.given.1]; exact h.problem) (by rw [h'.given.1]; exact h'.problem) hnotes
      rw [h.given.1, h'.given.1] at hproblem
      have hrole' := h.role.eq_of_display h'.role ((String.append_right_inj _).mp hrole)
      have hdescription' := h.description.eq_of_display h'.description hdescription
      exact ⟨htitle, hrole', hdescription', hproblem, map_linkLine_eq_iff.mpr htexts⟩
    · intro ⟨htitle, hrole, hdescription, hproblem, hlines⟩
      unfold overview
      rw [htitle, hrole, hdescription, hproblem, linksPart_congr _ hlines]
  architecture := by
    constructor
    · intro he
      rw [architecture_eq_written, architecture_eq_written] at he
      obtain ⟨htitle, hsections⟩ :=
        headingLines_append_inj (written_inj h.architectureLines h'.architectureLines he)
      obtain ⟨himage, hhighlights⟩ :=
        sections_inj (by rw [h.given.2]; exact h.image) (by rw [h'.given.2]; exact h'.image)
          hsections
      rw [h.given.2, h'.given.2] at himage
      exact ⟨htitle, himage, hhighlights⟩
    · intro ⟨htitle, himage, hhighlights⟩
      unfold architecture
      rw [htitle, himage, hhighlights]
  decisions := by
    constructor
    · intro he
      rw [decisions_eq_written, decisions_eq_written] at he
      obtain ⟨htitle, hrest⟩ :=
        headingLines_append_inj (written_inj h.decisionsLines h'.decisionsLines he)
      exact ⟨htitle, numberedLines_inj decisionLine_injective hrest⟩
    · intro ⟨htitle, hdecisions⟩
      unfold decisions
      rw [htitle, hdecisions]
  impact := by
    constructor
    · intro he
      rw [impact_eq_written, impact_eq_written] at he
      obtain ⟨htitle, hrest⟩ :=
        headingLines_append_inj (written_inj h.impactLines h'.impactLines he)
      exact ⟨htitle, (List.map_inj_right fun s t => (String.append_right_inj _).mp).mp hrest⟩
    · intro ⟨htitle, hmetrics⟩
      unfold impact
      rw [htitle, hmetrics]

/-- A problem that reads like the links, and the links. -/
theorem pages_tell_lookalike :
    ∃ r r', Record.ofFields [("id", .int 1), ("title", .text "A"),
        ("problem_statement", .text "Links:")] = .ok r ∧
      Record.ofFields [("id", .int 2), ("title", .text "A"), ("links", .list [.text "Links:"])] =
        .ok r' ∧
      InLines r ∧ InLines r' ∧ Told r r' ∧ LinksInLines r ∧ LinksInLines r' ∧
      overview r ≠ overview r' ∧ architecture r = architecture r' := by
  obtain ⟨r, hr⟩ : ∃ r, Record.ofFields [("id", .int 1), ("title", .text "A"),
      ("problem_statement", .text "Links:")] = .ok r := ⟨_, rfl⟩
  obtain ⟨r', hr'⟩ : ∃ r', Record.ofFields [("id", .int 2), ("title", .text "A"),
      ("links", .list [.text "Links:"])] = .ok r' := ⟨_, rfl⟩
  have hempty : IsLineText (.text "") := ⟨"", rfl, by decide⟩
  have hlabel : IsLineText (.text "Links:") := ⟨"Links:", rfl, by decide⟩
  have h : InLines r := by
    have hread : ∃ fields, Record.ofFields fields = .ok r := ⟨_, hr⟩
    cases hr
    exact ⟨hread, by decide, hempty, hempty, fun v hv => Option.some.inj hv ▸ hlabel,
      nofun, nofun, nofun, nofun⟩
  have h' : InLines r' := by
    have hread : ∃ fields, Record.ofFields fields = .ok r' := ⟨_, hr'⟩
    cases hr'
    exact ⟨hread, by decide, hempty, hempty, nofun, nofun, nofun, nofun, nofun⟩
  have hlinks : LinksInLines r := by
    cases hr
    exact nofun
  have hlinks' : LinksInLines r' := by
    cases hr'
    exact List.forall_mem_singleton.mpr ⟨hlabel, hlabel⟩
  have htold := pages_tell h h'
  refine ⟨r, r', hr, hr', h, h', htold, hlinks, hlinks', fun he => ?_, ?_⟩
  · have hproblem := ((htold.overview hlinks hlinks').mp he).2.2.2.1
    cases hr
    cases hr'
    cases hproblem
  · cases hr
    cases hr'
    rfl

/-- What is the label of a link and what its address, a line does not tell. -/
example : linkLine ⟨.text "a: b", .text "c"⟩ = linkLine ⟨.text "a", .text "b: c"⟩ := rfl

end Portfolio.Site
