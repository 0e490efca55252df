/-
  File:      Portfolio/Proofs/Site/AttachmentFiles.lean
  Subject:   Which file stands for which attachment.

  * `IsBase`, `IsExtension`, `FileOf`: how the file of an attachment is named after its
    caption or its number and after its url, beside the files that are there.
  * `fileOf_attachmentFile`: one step makes such a file. `attachmentFiles_getElem?`: over
    all attachments the file at each place is that of the attachment at this place,
    beside the files before it.
  * `Kept`: a file for each attachment, in order, under different names. What else is to
    be known of the files of attachments is read off it (`Kept.exists_fileOf`).
  * `attachmentsDirectory_eq_ok`: there is no directory of attachments, or it keeps them.
-/
import Portfolio.Proofs.Node.Place
import Portfolio.Proofs.Outcome
import Portfolio.Proofs.Slug.Names
import Portfolio.Site.Build

namespace Portfolio

/-- The url of a file; a directory has none. -/
def Node.url? : Node → Option String
  | .file _ _ _ url => url
  | .directory .. => none

namespace Site

/-! ## 1. The file of one attachment -/

/-- What the name begins with: the slug of the caption, or the number of the attachment
    where there is no caption or its slug is empty. -/
structure IsBase (number : Nat) (caption : Option String) (base : String) : Prop where
  slug : ∀ c, caption = some c → Slug.ofTitle c ≠ "" → base = Slug.ofTitle c
  number : (∀ c, caption = some c → Slug.ofTitle c = "") →
    base = "attachment-" ++ countText number

/-- What the name ends with: `pdf` if the url in lower case ends in `.pdf`, and else
    `jpg`. -/
structure IsExtension (url ext : String) : Prop where
  document : ".pdf".toList <:+ Text.lower url.toList → ext = "pdf"
  picture : ¬ ".pdf".toList <:+ Text.lower url.toList → ext = "jpg"

/-- The file that stands for the attachment of the given number, beside files of the
    given names: at the path of its name, with the url of the attachment. -/
inductive FileOf (parent : String) (number : Nat) (taken : List String) :
    Attachment → Node → Prop where
  | mk {url base ext name content : String} {caption : Option String} {alt : Option Json.Value}
      (hbase : IsBase number caption base) (hext : IsExtension url ext)
      (hname : Slug.FirstFree base ext taken name) :
      FileOf parent number taken ⟨.text url, caption.map .text, alt⟩
        (.file name (Path.join parent name) content (some url))

theorem isBase_attachmentBase (number : Nat) (caption : Option String) :
    IsBase number caption (attachmentBase number caption) := by
  unfold attachmentBase
  cases caption with
  | none =>
    have hempty : Slug.ofTitle ((none : Option String).getD "") = "" := by decide
    refine ⟨fun c hc => (nomatch hc), fun _ => ?_⟩
    rw [hempty]
    rfl
  | some c =>
    refine ⟨fun c' hc hne => ?_, fun h => ?_⟩
    · cases hc
      exact if_neg hne
    · exact if_pos (h c rfl)

theorem isExtension_of_isDocument (url : String) :
    IsExtension url (if isDocument url then "pdf" else "jpg") := by
  unfold isDocument
  refine ⟨fun h => ?_, fun h => ?_⟩
  · rw [if_pos (List.isSuffixOf_iff_suffix.mpr h)]
  · rw [if_neg fun hs => h (List.isSuffixOf_iff_suffix.mp hs)]

theorem textValue_eq_ok {v : Json.Value} {text : String} (h : textValue v = .ok text) :
    v = .text text := by
  unfold textValue at h
  split at h
  · exact congrArg _ (Except.ok.inj h)
  · cases h

theorem mapM_textValue_eq_ok {v : Option Json.Value} {text : Option String}
    (h : v.mapM textValue = .ok text) : v = text.map .text := by
  cases v with
  | none =>
    cases h
    rfl
  | some c =>
    rw [Option.mapM_some] at h
    obtain ⟨t, ht, h⟩ := bind_eq_ok.mp h
    rw [← pure_eq_ok.mp h, textValue_eq_ok ht]
    rfl

/-- **One step makes the file of the attachment.** -/
theorem fileOf_attachmentFile {parent : String} {number : Nat} {taken : List String}
    {a : Attachment} {file : Node} (h : attachmentFile parent number taken a = .ok file) :
    FileOf parent number taken a file := by
  unfold attachmentFile at h
  rw [bind_eq_ok] at h
  obtain ⟨url, hurl, h⟩ := h
  rw [bind_eq_ok] at h
  obtain ⟨caption, hcaption, h⟩ := h
  have ha : a = ⟨.text url, caption.map .text, a.alt⟩ := by
    rw [← textValue_eq_ok hurl, ← mapM_textValue_eq_ok hcaption]
  rw [ha, ← pure_eq_ok.mp h]
  exact .mk (isBase_attachmentBase number caption) (isExtension_of_isDocument url)
    (Slug.firstFree_unique _ _ _)

/-! ### What is known of the file -/

theorem IsBase.eq_or {number : Nat} {caption : Option String} {base : String}
    (h : IsBase number caption base) :
    base = "attachment-" ++ countText number ∨ ∃ c, base = Slug.ofTitle c := by
  cases caption with
  | none => exact Or.inl (h.number fun c hc => (nomatch hc))
  | some c =>
    by_cases hempty : Slug.ofTitle c = ""
    · refine Or.inl (h.number fun c' hc => ?_)
      cases hc
      exact hempty
    · exact Or.inr ⟨c, h.slug c rfl hempty⟩

theorem IsBase.slash_notMem {number : Nat} {caption : Option String} {base : String}
    (h : IsBase number caption base) : '/' ∉ base.toList := by
  rcases h.eq_or with rfl | ⟨c, rfl⟩
  · rw [String.toList_append]
    intro hm
    rcases List.mem_append.mp hm with hm | hm
    · exact absurd hm (by decide)
    · exact slash_notMem_countText number hm
  · exact Slug.slash_notMem_ofTitle c

theorem IsExtension.mem {url ext : String} (h : IsExtension url ext) : ext ∈ ["pdf", "jpg"] := by
  by_cases hd : ".pdf".toList <:+ Text.lower url.toList
  · rw [h.document hd]
    exact List.mem_cons_self
  · rw [h.picture hd]
    exact List.mem_cons_of_mem _ List.mem_cons_self

variable {parent : String} {number : Nat} {taken : List String} {a : Attachment} {f : Node}

theorem FileOf.eq_page (h : FileOf parent number taken a f) :
    ∃ content url, f = page parent f.name content (some url) ∧ a.url = .text url := by
  cases h with
  | mk => exact ⟨_, _, rfl, rfl⟩

theorem FileOf.name_notMem (h : FileOf parent number taken a f) : f.name ∉ taken := by
  cases h with
  | mk hbase hext hname => exact hname.free

theorem FileOf.isName (h : FileOf parent number taken a f) : Path.IsName f.name := by
  cases h with
  | @mk url base ext name content caption alt hbase hext hname =>
    obtain ⟨hslash, hlen⟩ : '/' ∉ ext.toList ∧ 2 ≤ ext.length :=
      (by decide : ∀ e ∈ ["pdf", "jpg"], '/' ∉ e.toList ∧ 2 ≤ e.length) ext hext.mem
    have hunique : name = Slug.unique base ext taken := Slug.firstFree_iff.mp hname
    show Path.IsName name
    rw [hunique]
    exact Slug.isName_unique hbase.slash_notMem hslash hlen taken

/-! ## 2. The files of all attachments -/

/-- **The file at each place is that of the attachment at this place**, beside the files
    before it. -/
theorem attachmentFiles_getElem? {parent : String} {number : Nat} {files out : List Node}
    {attachments : List Attachment}
    (h : attachmentFiles parent number files attachments = .ok out) :
    ∃ added, out = files ++ added ∧ added.length = attachments.length ∧
      ∀ i a, attachments[i]? = some a → ∃ f, added[i]? = some f ∧
        FileOf parent (number + i) ((files ++ added.take i).map Node.name) a f := by
  induction attachments generalizing number files with
  | nil =>
    unfold attachmentFiles at h
    refine ⟨[], ?_, rfl, fun i a hi => ?_⟩
    · rw [List.append_nil]
      exact (Except.ok.inj h).symm
    · rw [List.getElem?_nil] at hi
      cases hi
  | cons first rest ih =>
    unfold attachmentFiles at h
    rw [bind_eq_ok] at h
    obtain ⟨file, hfile, h⟩ := h
    obtain ⟨added, rfl, hlen, hadded⟩ := ih h
    refine ⟨file :: added, by simp, congrArg (· + 1) hlen, fun i a hi => ?_⟩
    cases i with
    | zero =>
      cases hi
      refine ⟨file, rfl, ?_⟩
      rw [List.take_zero, List.append_nil]
      exact fileOf_attachmentFile hfile
    | succ i =>
      obtain ⟨f, hf, hof⟩ := hadded i a hi
      have hnumber : number + 1 + i = number + (i + 1) := by omega
      have htaken : files ++ [file] ++ added.take i = files ++ (file :: added).take (i + 1) := by
        simp
      rw [hnumber, htaken] at hof
      exact ⟨f, hf, hof⟩

/-- Every attachment has its file: as many of them, in the order of the attachments and
    under different names, so that none takes the place of another. -/
structure Kept (parent : String) (attachments : List Attachment) (files : List Node) : Prop where
  length_eq : files.length = attachments.length
  distinct : (files.map Node.name).Nodup
  placed : Node.placeAll files = files
  each : ∀ i a, attachments[i]? = some a → ∃ f, files[i]? = some f ∧
    FileOf parent (i + 1) ((files.take i).map Node.name) a f

variable {attachments : List Attachment} {files : List Node}

/-- Names that are each free of those before them are different. -/
theorem nodup_names_of_fresh
    (h : ∀ i f, files[i]? = some f → f.name ∉ (files.take i).map Node.name) :
    (files.map Node.name).Nodup := by
  unfold List.Nodup
  rw [List.pairwise_map, List.pairwise_iff_getElem]
  intro i j hi hj hij e
  have hbefore : files[i] ∈ files.take j := List.mem_take_iff_getElem.mpr ⟨i, by omega, rfl⟩
  have hname := List.mem_map_of_mem (f := Node.name) hbefore
  rw [e] at hname
  exact h j files[j] (List.getElem?_eq_getElem hj) hname

theorem kept_of_attachmentFiles (h : attachmentFiles parent 1 [] attachments = .ok files) :
    Kept parent attachments files := by
  obtain ⟨added, hadded, hlen, heach⟩ := attachmentFiles_getElem? h
  rw [List.nil_append] at hadded
  subst hadded
  have hplace : ∀ i a, attachments[i]? = some a → ∃ f, files[i]? = some f ∧
      FileOf parent (i + 1) ((files.take i).map Node.name) a f := by
    intro i a hi
    obtain ⟨f, hf, hof⟩ := heach i a hi
    rw [List.nil_append, Nat.add_comm] at hof
    exact ⟨f, hf, hof⟩
  have hdistinct : (files.map Node.name).Nodup := by
    refine nodup_names_of_fresh fun i f hf => ?_
    have hi : i < attachments.length := by
      rw [← hlen]
      exact (List.getElem?_eq_some_iff.mp hf).1
    obtain ⟨f', hf', hof⟩ := hplace i attachments[i] (List.getElem?_eq_getElem hi)
    have e : f = f' := Option.some.inj (hf.symm.trans hf')
    exact e ▸ hof.name_notMem
  exact ⟨hlen, hdistinct, Node.placeAll_of_nodup hdistinct, hplace⟩

/-- Each of the files stands for one of the attachments. -/
theorem Kept.exists_fileOf (h : Kept parent attachments files) (hf : f ∈ files) :
    ∃ a ∈ attachments, ∃ number taken, FileOf parent number taken a f := by
  obtain ⟨i, hi, rfl⟩ := List.mem_iff_getElem.mp hf
  have hi' : i < attachments.length := h.length_eq ▸ hi
  obtain ⟨f, hfi, hof⟩ := h.each i attachments[i] (List.getElem?_eq_getElem hi')
  have e : files[i] = f := Option.some.inj ((List.getElem?_eq_getElem hi).symm.trans hfi)
  exact ⟨attachments[i], List.getElem_mem hi', _, _, e ▸ hof⟩

/-- **A project has no directory of attachments, or one that keeps them.** -/
theorem attachmentsDirectory_eq_ok {project : String} {nodes : List Node}
    (h : attachmentsDirectory project attachments = .ok nodes) :
    (attachments = [] ∧ nodes = []) ∨ (attachments ≠ [] ∧ ∃ files,
      nodes = [.directory "attachments" (Path.join project "attachments") files .null] ∧
        Kept (Path.join project "attachments") attachments files) := by
  cases attachments with
  | nil => exact Or.inl ⟨rfl, (Except.ok.inj h).symm⟩
  | cons a rest =>
    unfold attachmentsDirectory at h
    rw [bind_eq_ok] at h
    obtain ⟨files, hf, h⟩ := h
    exact Or.inr ⟨List.cons_ne_nil a rest, files, (pure_eq_ok.mp h).symm,
      kept_of_attachmentFiles hf⟩

end Site

end Portfolio
