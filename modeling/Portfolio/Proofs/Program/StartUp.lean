/-
  File:      Portfolio/Proofs/Program/StartUp.lean
  Subject:   How starting on a content file ends.

  * `StartUp`: content that has been accepted is built exactly if the
    attachments in its document have texts, and else building it stops with a
    fault. The start stops with a fault in this case, and where loading does.
  * `startUp_of_text`: this holds of every file whose text can be read.
  * `accepted_not_built`: a document that is accepted and cannot be built.
-/
import Mathlib
import Portfolio.Program.Run
import Portfolio.Proofs.Content.Acceptance

namespace Portfolio.Program

open Content (HasTexts HasProfile)

variable {read : Content.Reader} {path : String} {text : List Char} {c : Content.Loaded}
  {s : Settings}

/-! ## 1. The session that is opened -/

theorem openSession_of_error {e : Error} (hp : s.dataPath = some path)
    (hl : Content.load read path = .error e) : (openSession read s).2 = .error e := by
  unfold openSession contentOf
  rw [hp]
  dsimp only
  rw [hl]

theorem openSession_of_fault {f : DataFault} (hp : s.dataPath = some path)
    (hl : Content.load read path = .ok c)
    (hf : Filesystem.ofRecords c.profile c.records = .error f) :
    (openSession read s).2 = .error (.fault f) := by
  unfold openSession contentOf
  rw [hp]
  dsimp only
  rw [hl]
  dsimp only
  rw [hf]

theorem openSession_of_made {made : Site.Built Filesystem} (hp : s.dataPath = some path)
    (hl : Content.load read path = .ok c)
    (hm : Filesystem.ofRecords c.profile c.records = .ok made) :
    (openSession read s).2 =
      (Session.start made.result (some s.startDirectory)).mapError .console := by
  unfold openSession contentOf
  rw [hp]
  dsimp only
  rw [hl]
  dsimp only
  rw [hm]

/-- Starting stops with a fault where loading or building does. -/
theorem isFault_openSession (hp : s.dataPath = some path) :
    IsFault (openSession read s).2 ↔ IsFault (Content.load read path) ∨
      ∃ c f, Content.load read path = .ok c ∧
        Filesystem.ofRecords c.profile c.records = .error f := by
  cases hl : Content.load read path with
  | error e =>
    rw [openSession_of_error hp hl, isFault_error, isFault_error]
    refine ⟨Or.inl, fun h => h.resolve_right fun ⟨_, _, hc, _⟩ => ?_⟩
    cases hc
  | ok c =>
    refine ⟨fun h => ?_, fun h => ?_⟩
    · cases hm : Filesystem.ofRecords c.profile c.records with
      | error f => exact Or.inr ⟨c, f, rfl, hm⟩
      | ok made =>
        rw [openSession_of_made hp hl hm] at h
        exact absurd h (not_isFault_mapError fun _ _ e => by cases e)
    · rcases h with h | ⟨c', f, hc, hf⟩
      · exact absurd h (not_isFault_ok c)
      · cases hc
        exact ⟨f, openSession_of_fault hp hl hf⟩

/-! ## 2. Accepted content -/

/-- Accepted content is built if the attachments in its document have texts,
    and else building it stops with one fault. -/
theorem build_of_accepted (ht : Content.textOf read (Content.cleanPath path) = .ok text)
    {document : Json.Value} (hd : Json.read text = .ok document)
    (hl : Content.load read path = .ok c) :
    Guarded .notText (HasTexts document) (Filesystem.ofRecords c.profile c.records) := by
  obtain ⟨document', hd', ho⟩ := Content.load_eq_ok ht hl
  have e : document' = document := Except.ok.inj (hd'.symm.trans hd)
  exact (Filesystem.ofRecords_guarded c.profile c.records).congr
    (e ▸ Content.hasTexts_iff_of_ofDocument ho)

theorem isInitialized_of_ofRecords {p : Profile} {records : List Record}
    {made : Site.Built Filesystem} (h : Filesystem.ofRecords p records = .ok made) :
    made.result.isInitialized = true := by
  obtain ⟨built, _, ht, _⟩ := Filesystem.ofRecords_eq_ok h
  unfold Filesystem.isInitialized
  rw [ht]
  rfl

/-! ## 3. The start -/

/-- How a start on a file with the given text ends. -/
structure StartUp (read : Content.Reader) (path : String) (text : List Char) : Prop where
  built : ∀ c document, Content.load read path = .ok c → Json.read text = .ok document →
    ((∃ made, Filesystem.ofRecords c.profile c.records = .ok made ∧
      made.result.isInitialized = true) ↔ HasTexts document)
  unbuilt : ∀ c document, Content.load read path = .ok c → Json.read text = .ok document →
    ¬ HasTexts document → Filesystem.ofRecords c.profile c.records = .error .notText
  fault : ∀ s, s.dataPath = some path → (IsFault (openSession read s).2 ↔
    Json.read text = .error .longInteger ∨ ∃ document, Json.read text = .ok document ∧
      (¬ HasProfile document ∨ (∃ c, Content.load read path = .ok c) ∧ ¬ HasTexts document))
  started : ∀ s, s.dataPath = some path → ¬ IsFault (openSession read s).2 →
    (∃ e, (openSession read s).2 = .error (.content e)) ∨
      ∃ c made, Content.load read path = .ok c ∧
        Filesystem.ofRecords c.profile c.records = .ok made ∧
        (openSession read s).2 =
          (Session.start made.result (some s.startDirectory)).mapError .console

/-- **How a start on a content file ends**, for every text and wherever the
    session is to begin. -/
theorem startUp_of_text (ht : Content.textOf read (Content.cleanPath path) = .ok text) :
    StartUp read path text where
  built c document hl hd := by
    rw [← (build_of_accepted ht hd hl).exists_ok_iff]
    exact ⟨fun ⟨made, hm, _⟩ => ⟨made, hm⟩,
      fun ⟨made, hm⟩ => ⟨made, hm, isInitialized_of_ofRecords hm⟩⟩
  unbuilt c document hl hd hn := (build_of_accepted ht hd hl).2 hn
  fault s hp := by
    rw [isFault_openSession hp, Content.isFault_load ht, or_assoc]
    refine or_congr_right ⟨fun h => ?_, fun ⟨document, hd, h⟩ => ?_⟩
    · rcases h with ⟨document, hd, hn⟩ | ⟨c, f, hl, hf⟩
      · exact ⟨document, hd, Or.inl hn⟩
      · obtain ⟨document, hd, _⟩ := Content.load_eq_ok ht hl
        refine ⟨document, hd, Or.inr ⟨⟨c, hl⟩, fun hx => ?_⟩⟩
        obtain ⟨made, hm⟩ := (build_of_accepted ht hd hl).1 hx
        rw [hm] at hf
        cases hf
    · rcases h with hn | ⟨⟨c, hl⟩, hn⟩
      · exact Or.inl ⟨document, hd, hn⟩
      · exact Or.inr ⟨c, .notText, hl, (build_of_accepted ht hd hl).2 hn⟩
  started s hp hn := by
    cases hl : Content.load read path with
    | error e =>
      rw [openSession_of_error hp hl] at hn ⊢
      cases e with
      | console e => exact absurd hl (Content.load_ne_console ht e)
      | content e => exact Or.inl ⟨e, rfl⟩
      | fault f => exact absurd ⟨f, rfl⟩ hn
    | ok c =>
      cases hm : Filesystem.ofRecords c.profile c.records with
      | error f =>
        rw [openSession_of_fault hp hl hm] at hn
        exact absurd ⟨f, rfl⟩ hn
      | ok made => exact Or.inr ⟨c, made, rfl, hm, openSession_of_made hp hl hm⟩

/-! ### One record with one attachment -/

/-- A reader that finds the same text everywhere. -/
def constantly (text : String) : Content.Reader := fun _ =>
  .ok text.toUTF8

theorem textOf_constantly (text path : String)
    (hp : path.toList.contains '\x00' = false) :
    Content.textOf (constantly text) path = .ok (Content.plainLines text.toList) := by
  have hu : String.fromUTF8? text.toUTF8 = some text := dif_pos text.isValidUTF8
  unfold Content.textOf constantly
  rw [hp, if_neg Bool.false_ne_true, mapError_ok, ok_bind, hu]
  rfl

theorem load_constantly {text : String} {document : Json.Value} {path : String}
    (hp : (Content.cleanPath path).toList.contains '\x00' = false)
    (hd : Json.read (Content.plainLines text.toList) = .ok document) :
    Content.load (constantly text) path =
      Content.ofDocument (Content.cleanPath path) document := by
  rw [Content.load_of_text (textOf_constantly text _ hp), Content.documentOf_eq_ok.mpr hd, ok_bind]

/-- A document of one record, whose attachment has the given address. -/
def documentWith (url : Json.Value) : Json.Value :=
  .list [.object [("id", .int 1), ("title", .text "a"),
    ("attachments", .list [.object [("url", url)]])]]

/-- The text of such a document, with a text for the address. -/
def typedText : String :=
  "[\x7b\"id\":1,\"title\":\"a\",\"attachments\":[\x7b\"url\":\"b\"\x7d]\x7d]"

/-- The text of such a document, with a number for the address. -/
def untypedText : String :=
  "[\x7b\"id\":1,\"title\":\"a\",\"attachments\":[\x7b\"url\":5\x7d]\x7d]"

theorem startUp_of_typedText :
    ∃ text c made,
      Content.textOf (constantly typedText) (Content.cleanPath "content.json") = .ok text ∧
      Content.load (constantly typedText) "content.json" = .ok c ∧
      Filesystem.ofRecords c.profile c.records = .ok made ∧ made.result.isInitialized = true := by
  have ht := textOf_constantly typedText (Content.cleanPath "content.json") (by decide)
  have hd : Json.read (Content.plainLines typedText.toList) = .ok (documentWith (.text "b")) := by
    cbv
  obtain ⟨c, hl⟩ : ∃ c, Content.load (constantly typedText) "content.json" = .ok c := by
    rw [load_constantly (by decide) hd]
    exact ⟨_, rfl⟩
  have hx : HasTexts (documentWith (.text "b")) := by
    intro item hm
    cases List.mem_singleton.mp hm
    intro items hi a ha
    cases hi
    cases List.mem_singleton.mp ha
    intro url hu
    cases hu
    refine ⟨trivial, fun c hc => ?_⟩
    cases hc
  obtain ⟨made, hm, hi⟩ := ((startUp_of_text ht).built c _ hl hd).mpr hx
  exact ⟨_, c, made, ht, hl, hm, hi⟩

/-- The loader accepts an address that is no text; the builder stops at it. -/
theorem accepted_not_built :
    ∃ c, Content.load (constantly untypedText) "content.json" = .ok c ∧
      Filesystem.ofRecords c.profile c.records = .error .notText ∧
      (openSession (constantly untypedText) ⟨some "content.json", "WARNING", "/"⟩).2 =
        .error (.fault .notText) := by
  have ht := textOf_constantly untypedText (Content.cleanPath "content.json") (by decide)
  have hd : Json.read (Content.plainLines untypedText.toList) = .ok (documentWith (.int 5)) := by
    cbv
  obtain ⟨c, hl⟩ : ∃ c, Content.load (constantly untypedText) "content.json" = .ok c := by
    rw [load_constantly (by decide) hd]
    exact ⟨_, rfl⟩
  have hn : ¬ HasTexts (documentWith (.int 5)) := fun h =>
    (h _ List.mem_cons_self _ rfl _ List.mem_cons_self (.int 5) rfl).1
  have hf : Filesystem.ofRecords c.profile c.records = .error .notText :=
    (build_of_accepted ht hd hl).2 hn
  exact ⟨c, hl, hf, openSession_of_fault rfl hl hf⟩

end Portfolio.Program
