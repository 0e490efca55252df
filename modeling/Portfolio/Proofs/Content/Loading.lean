/-
  File:      Portfolio/Proofs/Content/Loading.lean
  Subject:   How the loading of a content file ends.

  * `HoldsText`: what a file holds is the encoding of a text.
  * `Breaks`: what stops the loading with a fault, by the state of the file: a
    null character in its path, bytes that encode no text, an integer of too
    many digits, or a profile that is no object.
  * `loadEnds`: loading stops with a fault exactly where one of these is met,
    and everywhere else it gives content or refuses the file with a content
    error. A file that cannot be read and a text that is no document are
    refused.
-/
import Portfolio.Proofs.Content.Acceptance

namespace Portfolio.Content

open Json (Value Fields)

variable {read : Reader} {path s : String} {text : List Char} {document : Value}

/-! ## 1. The text of a file -/

/-- The file at the path holds the text, encoded. -/
structure HoldsText (read : Reader) (path s : String) : Prop where
  named : '\x00' ∉ path.toList
  bytes : read path = .ok s.toUTF8

theorem fromUTF8?_eq_some {bytes : ByteArray} :
    String.fromUTF8? bytes = some s ↔ bytes = s.toUTF8 := by
  unfold String.fromUTF8?
  constructor
  · intro h
    split at h
    · rw [← Option.some.inj h]
      rfl
    · cases h
  · rintro rfl
    exact dif_pos s.isValidUTF8

theorem fromUTF8?_eq_none {bytes : ByteArray} :
    String.fromUTF8? bytes = none ↔ ¬ bytes.IsValidUTF8 := by
  unfold String.fromUTF8?
  split
  · rename_i h
    exact ⟨fun e => (nomatch e), fun hn => absurd h hn⟩
  · rename_i h
    exact ⟨fun _ => h, fun _ => rfl⟩

/-- Past the check of the path, the text of a file is what its bytes encode. -/
theorem textOf_of_named (hp : '\x00' ∉ path.toList) :
    textOf read path = (read path).mapError (fun cause => .content (.unreadable path cause)) >>=
      fun bytes => match String.fromUTF8? bytes with
        | none => .error (.fault .notUtf8)
        | some text => .ok (plainLines text.toList) := by
  have hc : path.toList.contains '\x00' = false := by simpa using hp
  unfold textOf
  rw [hc, if_neg Bool.false_ne_true]
  rfl

theorem textOf_of_null (hp : '\x00' ∈ path.toList) :
    textOf read path = .error (.fault .nullInPath) := by
  have hc : path.toList.contains '\x00' = true := by simpa using hp
  unfold textOf
  rw [hc, if_pos rfl]
  rfl

theorem textOf_eq_ok :
    textOf read path = .ok text ↔ ∃ s, HoldsText read path s ∧ plainLines s.toList = text := by
  by_cases hp : '\x00' ∈ path.toList
  · rw [textOf_of_null hp]
    exact ⟨fun h => (nomatch h), fun ⟨_, h, _⟩ => absurd hp h.named⟩
  · rw [textOf_of_named hp, bind_eq_ok]
    constructor
    · rintro ⟨bytes, hb, h⟩
      split at h
      · cases h
      · rename_i s hs
        rw [mapError_eq_ok, fromUTF8?_eq_some.mp hs] at hb
        exact ⟨s, ⟨hp, hb⟩, Except.ok.inj h⟩
    · rintro ⟨s, h, rfl⟩
      refine ⟨_, mapError_eq_ok.mpr h.bytes, ?_⟩
      rw [fromUTF8?_eq_some.mpr rfl]

/-- A text cannot be had with a fault only if the path holds a null character
    or the bytes encode no text. -/
theorem textOf_eq_fault {f : DataFault} :
    textOf read path = .error (.fault f) ↔
      '\x00' ∈ path.toList ∧ f = .nullInPath ∨
        '\x00' ∉ path.toList ∧ f = .notUtf8 ∧
          ∃ bytes, read path = .ok bytes ∧ ¬ bytes.IsValidUTF8 := by
  by_cases hp : '\x00' ∈ path.toList
  · rw [textOf_of_null hp]
    refine ⟨fun h => Or.inl ⟨hp, ?_⟩, fun h => ?_⟩
    · cases h
      rfl
    · rcases h with ⟨_, rfl⟩ | ⟨hn, _⟩
      · rfl
      · exact absurd hp hn
  · rw [textOf_of_named hp, bind_eq_error]
    constructor
    · rintro (h | ⟨bytes, hb, h⟩)
      · obtain ⟨cause, _, hc⟩ := mapError_eq_error.mp h
        cases hc
      · split at h
        · rename_i hn
          cases h
          exact Or.inr ⟨hp, rfl, bytes, mapError_eq_ok.mp hb, fromUTF8?_eq_none.mp hn⟩
        · cases h
    · rintro (⟨hn, _⟩ | ⟨_, rfl, bytes, hb, hn⟩)
      · exact absurd hn hp
      · refine Or.inr ⟨bytes, mapError_eq_ok.mpr hb, ?_⟩
        rw [fromUTF8?_eq_none.mpr hn]

theorem textOf_unreadable {cause : ReadFault} (hp : '\x00' ∉ path.toList)
    (hr : read path = .error cause) :
    textOf read path = .error (.content (.unreadable path cause)) := by
  rw [textOf_of_named hp, hr]
  rfl

theorem textOf_ne_console (e : ConsoleError) : textOf read path ≠ .error (.console e) := by
  intro h
  by_cases hp : '\x00' ∈ path.toList
  · rw [textOf_of_null hp] at h
    cases h
  · rw [textOf_of_named hp] at h
    rcases bind_eq_error.mp h with h | ⟨bytes, _, h⟩
    · obtain ⟨cause, _, hc⟩ := mapError_eq_error.mp h
      cases hc
    · split at h
      · cases h
      · cases h

/-! ## 2. Which fault a document meets -/

theorem documentOf_eq_fault {f : DataFault} :
    documentOf path text = .error (.fault f) ↔
      f = .longInteger ∧ Json.read text = .error .longInteger := by
  refine ⟨fun h => ?_, fun ⟨e, h⟩ => ?_⟩
  · have hj := isFault_documentOf.mp ⟨f, h⟩
    unfold documentOf at h
    rw [hj] at h
    cases h
    exact ⟨rfl, hj⟩
  · unfold documentOf
    rw [h, e]

theorem fault_of_partsOfDocument {f : DataFault}
    (h : partsOfDocument path document = .error (.fault f)) : f = .notAnObject := by
  unfold partsOfDocument at h
  split at h
  · cases h
  · unfold partsOfObject at h
    rcases bind_eq_error.mp h with h | ⟨profile, _, h⟩
    · obtain ⟨f', hf, e⟩ := mapError_eq_error.mp h
      cases e
      unfold Profile.ofValue at hf
      split at hf
      · cases hf
      · cases hf
        rfl
    · split at h
      · cases h
      · cases h
      · cases h
  · cases h

/-- Past its parts, a document is accepted or refused. -/
theorem partsOfDocument_of_ofDocument_fault {f : DataFault}
    (h : ofDocument path document = .error (.fault f)) :
    partsOfDocument path document = .error (.fault f) := by
  unfold ofDocument at h
  rcases bind_eq_error.mp h with h | ⟨parts, _, h⟩
  · exact h
  · rcases bind_eq_error.mp h with h | ⟨records, _, h⟩
    · obtain ⟨e, _, he⟩ := mapError_eq_error.mp h
      cases he
    · cases h

/-- The only fault of a document is a profile that is no object. -/
theorem ofDocument_eq_fault {f : DataFault} :
    ofDocument path document = .error (.fault f) ↔ f = .notAnObject ∧ ¬ HasProfile document := by
  constructor
  · intro h
    exact ⟨fault_of_partsOfDocument (partsOfDocument_of_ofDocument_fault h),
      isFault_ofDocument.mp ⟨f, h⟩⟩
  · rintro ⟨rfl, hn⟩
    obtain ⟨f, hf⟩ := isFault_ofDocument.mpr hn
    cases fault_of_partsOfDocument (partsOfDocument_of_ofDocument_fault hf)
    exact hf

/-! ## 3. How loading ends -/

/-- What stops the loading of the file at a path, with the fault. -/
inductive Breaks (read : Reader) (path : String) : DataFault → Prop where
  | nullInPath (named : '\x00' ∈ path.toList) : Breaks read path .nullInPath
  | notUtf8 (bytes : ByteArray) (named : '\x00' ∉ path.toList) (found : read path = .ok bytes)
      (invalid : ¬ bytes.IsValidUTF8) : Breaks read path .notUtf8
  | longInteger (s : String) (holds : HoldsText read path s)
      (long : Json.read (plainLines s.toList) = .error .longInteger) :
      Breaks read path .longInteger
  | notAnObject (s : String) (document : Value) (holds : HoldsText read path s)
      (parsed : Json.read (plainLines s.toList) = .ok document)
      (profile : ¬ HasProfile document) : Breaks read path .notAnObject

/-- How the loading of the file at a path ends: with a fault where it breaks, and
    else with content or a refusal. -/
structure LoadEnds (read : Reader) (path : String) : Prop where
  fault : ∀ f, load read path = .error (.fault f) ↔ Breaks read (cleanPath path) f
  firm : (∀ f, ¬ Breaks read (cleanPath path) f) →
    (∃ c, load read path = .ok c) ∨ ∃ e, load read path = .error (.content e)
  unreadable : ∀ cause, '\x00' ∉ (cleanPath path).toList →
    read (cleanPath path) = .error cause →
    load read path = .error (.content (.unreadable (cleanPath path) cause))
  malformed : ∀ s what unread, HoldsText read (cleanPath path) s →
    Json.read (plainLines s.toList) = .error (.fault what unread) →
    load read path = .error (.content (.malformed (cleanPath path) what
      (Json.placeOf (plainLines s.toList) unread)))

theorem load_eq_bind (read : Reader) (path : String) :
    load read path = textOf read (cleanPath path) >>= fun text =>
      documentOf (cleanPath path) text >>= ofDocument (cleanPath path) := rfl

/-- **Loading stops with a fault exactly where it breaks.** -/
theorem load_eq_fault {f : DataFault} :
    load read path = .error (.fault f) ↔ Breaks read (cleanPath path) f := by
  rw [load_eq_bind, bind_eq_error, textOf_eq_fault]
  constructor
  · rintro ((⟨hn, rfl⟩ | ⟨hn, rfl, bytes, hb, hv⟩) | ⟨text, ht, h⟩)
    · exact .nullInPath hn
    · exact .notUtf8 bytes hn hb hv
    · obtain ⟨s, hs, rfl⟩ := textOf_eq_ok.mp ht
      rcases bind_eq_error.mp h with h | ⟨document, hd, h⟩
      · obtain ⟨rfl, hj⟩ := documentOf_eq_fault.mp h
        exact .longInteger s hs hj
      · obtain ⟨rfl, hn⟩ := ofDocument_eq_fault.mp h
        exact .notAnObject s document hs (documentOf_eq_ok.mp hd) hn
  · intro h
    cases h with
    | nullInPath hn => exact Or.inl (Or.inl ⟨hn, rfl⟩)
    | notUtf8 bytes hn hb hv => exact Or.inl (Or.inr ⟨hn, rfl, bytes, hb, hv⟩)
    | longInteger s hs hj =>
      refine Or.inr ⟨_, textOf_eq_ok.mpr ⟨s, hs, rfl⟩, bind_eq_error.mpr (Or.inl ?_)⟩
      exact documentOf_eq_fault.mpr ⟨rfl, hj⟩
    | notAnObject s document hs hd hn =>
      refine Or.inr ⟨_, textOf_eq_ok.mpr ⟨s, hs, rfl⟩, bind_eq_error.mpr (Or.inr ?_)⟩
      exact ⟨document, documentOf_eq_ok.mpr hd, ofDocument_eq_fault.mpr ⟨rfl, hn⟩⟩

/-- Loading never fails as a command does, whatever the file holds. -/
theorem load_not_console (e : ConsoleError) : load read path ≠ .error (.console e) := by
  intro h
  cases ht : textOf read (cleanPath path) with
  | error e' =>
    rw [load_eq_bind, ht, error_bind] at h
    cases h
    exact textOf_ne_console e ht
  | ok text => exact load_ne_console ht e h

/-- **How loading ends**, for every path and whatever lies there. -/
theorem loadEnds (read : Reader) (path : String) : LoadEnds read path where
  fault _ := load_eq_fault
  firm hn := by
    cases hl : load read path with
    | ok c => exact Or.inl ⟨c, rfl⟩
    | error e =>
      cases e with
      | console e => exact absurd hl (load_not_console e)
      | content e => exact Or.inr ⟨e, rfl⟩
      | fault f => exact absurd (load_eq_fault.mp hl) (hn f)
  unreadable cause hp hr := by
    rw [load_eq_bind, textOf_unreadable hp hr]
    rfl
  malformed s what unread hs hj := by
    rw [load_of_text (textOf_eq_ok.mpr ⟨s, hs, rfl⟩)]
    unfold documentOf
    rw [hj]
    rfl

/-- A file of one byte that begins no character: loading it stops with a fault. -/
theorem load_of_lone_byte :
    load (fun _ => .ok ⟨#[0xff]⟩) "content.json" = .error (.fault .notUtf8) :=
  load_eq_fault.mpr (.notUtf8 ⟨#[0xff]⟩ (by decide) rfl (by decide))

end Portfolio.Content
