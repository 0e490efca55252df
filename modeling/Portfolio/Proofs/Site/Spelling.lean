/-
  File:      Portfolio/Proofs/Site/Spelling.lean
  Subject:   The characters in the names of a built tree.

  * `Spelled`: a text of letters and digits as a slug keeps them, hyphens and dots.
    Slugs and numbers are spelled, and so are the file names made from them.
  * `build_spelled`: every name in a built tree is spelled, whatever the titles and
    the captions are.
  * `Spelled.isWord`: what is spelled and not empty is a word of a line as it stands.
-/
import Portfolio.Proofs.Command.Line
import Portfolio.Proofs.Site.Shape

namespace Portfolio.Site

open Node (Everywhere everywhere_iff)

/-! ## 1. Spelling -/

/-- A character that names are made of. -/
def isNameCharacter (c : Char) : Bool :=
  Slug.isKept c || c == '-' || c == '.'

/-- The text has no other characters than those of names. -/
def Spelled (s : String) : Prop :=
  ∀ c ∈ s.toList, isNameCharacter c = true

instance (s : String) : Decidable (Spelled s) :=
  decidable_of_iff (s.toList.all isNameCharacter = true) List.all_eq_true

theorem Spelled.append {s t : String} (hs : Spelled s) (ht : Spelled t) : Spelled (s ++ t) := by
  intro c hc
  rw [String.toList_append] at hc
  exact (List.mem_append.mp hc).elim (hs c) (ht c)

theorem spelled_ofTitle (title : String) : Spelled (Slug.ofTitle title) := by
  intro c hc
  unfold isNameCharacter
  rcases Slug.mem_ofTitle hc with h | rfl
  · rw [h]
    rfl
  · rfl

theorem isKept_of_isDigit {c : Char} (h : c.isDigit = true) : Slug.isKept c = true := by
  unfold Char.isDigit at h
  unfold Slug.isKept
  rw [Bool.or_eq_true]
  exact Or.inr h

theorem spelled_countText (n : Nat) : Spelled (countText n) := by
  intro c hc
  unfold countText at hc
  rw [String.toList_ofList] at hc
  have hd := Nat.isDigit_of_mem_toDigits (by decide) (by decide) hc
  unfold isNameCharacter
  rw [isKept_of_isDigit hd]
  rfl

theorem spelled_candidate {base ext : String} (hb : Spelled base) (he : Spelled ext) (k : Nat) :
    Spelled (Slug.candidate base ext k) := by
  have hdot : Spelled "." := by decide
  have hhyphen : Spelled "-" := by decide
  cases k with
  | zero => exact (hb.append hdot).append he
  | succ k => exact (((hb.append hhyphen).append (spelled_countText _)).append hdot).append he

/-- The name of the file of an attachment is spelled. -/
theorem spelled_of_fileOf {parent : String} {number : Nat} {taken : List String}
    {a : Attachment} {f : Node} (h : FileOf parent number taken a f) : Spelled f.name := by
  cases h with
  | @mk url base ext name content caption alt hbase hext hname =>
    have hb : Spelled base := by
      rcases hbase.eq_or with rfl | ⟨c, rfl⟩
      · exact Spelled.append (by decide) (spelled_countText number)
      · exact spelled_ofTitle c
    have he : Spelled ext := (by decide : ∀ e ∈ ["pdf", "jpg"], Spelled e) ext hext.mem
    obtain ⟨k, _, hk, _⟩ := Slug.uniqueFrom_spec base ext 0 taken
    have hunique : name = Slug.candidate base ext k := (Slug.firstFree_iff.mp hname).trans hk
    show Spelled name
    rw [hunique]
    exact spelled_candidate hb he k

/-! ## 2. Built trees -/

/-- The names of the nodes and of all below them are spelled. -/
def AllSpelled (nodes : List Node) : Prop :=
  ∀ n ∈ nodes, n.Everywhere fun m => Spelled m.name

theorem AllSpelled.nil : AllSpelled [] :=
  fun _ h => absurd h List.not_mem_nil

theorem AllSpelled.append {nodes more : List Node} (h : AllSpelled nodes) (hm : AllSpelled more) :
    AllSpelled (nodes ++ more) :=
  List.forall_mem_append.mpr ⟨h, hm⟩

theorem AllSpelled.directory {nodes : List Node} (h : AllSpelled nodes) {name : String}
    (hn : Spelled name) (path : String) (id : Json.Value) :
    AllSpelled [.directory name path nodes id] :=
  List.forall_mem_singleton.mpr (everywhere_iff.mpr ⟨hn, h⟩)

/-- Pages under names that are spelled. -/
theorem allSpelled_pages (path : String) (names : List String)
    (pages : List (String × String × Option String)) (hp : pages.map Prod.fst = names)
    (hn : ∀ name ∈ names, Spelled name) :
    AllSpelled (pages.map fun p => page path p.1 p.2.1 p.2.2) := by
  intro n hm
  obtain ⟨p, hp', rfl⟩ := List.mem_map.mp hm
  exact everywhere_iff.mpr ⟨hn p.1 (hp ▸ List.mem_map_of_mem hp'), AllSpelled.nil⟩

theorem attachmentsDirectory_spelled {path : String} {attachments : List Attachment}
    {nodes : List Node} (h : attachmentsDirectory path attachments = .ok nodes) :
    AllSpelled nodes := by
  rcases attachmentsDirectory_eq_ok h with ⟨_, rfl⟩ | ⟨_, files, rfl, hkept⟩
  · exact AllSpelled.nil
  · have hfiles : AllSpelled files := by
      intro f hf
      obtain ⟨a, _, number, taken, hof⟩ := hkept.exists_fileOf hf
      obtain ⟨content, url, hpage, _⟩ := hof.eq_page
      have hname := spelled_of_fileOf hof
      rw [hpage]
      exact everywhere_iff.mpr ⟨hname, AllSpelled.nil⟩
    have hd : Spelled "attachments" := by decide
    exact hfiles.directory hd _ _

theorem project_spelled {path : String} {title : String} {r : Record} {d : Node}
    (h : project path (Slug.ofTitle title) r = .ok d) : AllSpelled [d] := by
  obtain ⟨attachments, ha, rfl⟩ := project_eq_directory h
  have hp : AllSpelled [page path "overview" (overview r) none,
      page path "architecture" (architecture r) none,
      page path "decisions.log" (decisions r) none,
      page path "impact" (impact r) none] :=
    allSpelled_pages path ["overview", "architecture", "decisions.log", "impact"]
      [("overview", overview r, none), ("architecture", architecture r, none),
        ("decisions.log", decisions r, none), ("impact", impact r, none)]
      rfl (by decide)
  exact (hp.append (attachmentsDirectory_spelled ha)).directory (spelled_ofTitle title) _ _

theorem projectDirectories_spelled {placed : List Node} {records : List Record}
    {built : Built (List Node)} (hs : AllSpelled placed)
    (h : projectDirectories placed records = .ok built) : AllSpelled built.result := by
  induction records generalizing placed built with
  | nil =>
    unfold projectDirectories at h
    exact Except.ok.inj h ▸ hs
  | cons r rest ih =>
    obtain ⟨directory, more, hd, hm, e, _⟩ := projectDirectories_cons_eq_ok h
    rw [e]
    refine ih (fun n hn => ?_) hm
    rcases Node.mem_place hn with rfl | hn
    · exact project_spelled hd _ List.mem_cons_self
    · exact hs n hn

theorem baseDirectory_spelled (p : Profile) : AllSpelled [baseDirectory p] := by
  have h : AllSpelled (baseDirectory p).children :=
    allSpelled_pages "/base" ["about", "contact", "resume"]
      [("about", p.about, none), ("contact", p.contact, none),
        ("resume", "[Resume Link - Opens in browser]", some p.resumeUrl)]
      rfl (by decide)
  exact h.directory (by decide) _ _

theorem metaDirectory_spelled (p : Profile) : AllSpelled [metaDirectory p] := by
  have h : AllSpelled (metaDirectory p).children :=
    allSpelled_pages "/meta" ["system.info", "version"]
      [("system.info", p.systemInfo, none), ("version", p.version, none)] rfl (by decide)
  exact h.directory (by decide) _ _

/-- **Every name in a built tree is spelled**, whatever the records hold. -/
theorem build_spelled {p : Profile} {records : List Record} {built : Built Node}
    (h : build p records = .ok built) : built.result.Everywhere fun n => Spelled n.name := by
  obtain ⟨placed, hp, e, _⟩ := build_eq_ok h
  have hprojects := (projectDirectories_spelled AllSpelled.nil hp).directory
    (show Spelled "projects" by decide) projectsPath .null
  have hbranches : AllSpelled (branches p placed.result) :=
    (baseDirectory_spelled p).append (hprojects.append (metaDirectory_spelled p))
  have hroot := hbranches.directory (show Spelled "" by decide) "/" .null
  rw [e]
  exact hroot _ List.mem_cons_self

/-! ## 3. Names as words of a line -/

theorem isPlain_of_isNameCharacter {c : Char} (h : isNameCharacter c = true) :
    Command.isPlain c = true := by
  have hall : ∀ n < 123, isNameCharacter (Char.ofNat n) = true →
      Command.isPlain (Char.ofNat n) = true := by decide +kernel
  have hlt : c.toNat < 123 := by
    unfold isNameCharacter Slug.isKept at h
    simp only [Bool.or_eq_true, Bool.and_eq_true, decide_eq_true_eq, beq_iff_eq] at h
    rcases h with ((⟨_, h⟩ | ⟨_, h⟩) | rfl) | rfl
    · exact Nat.lt_succ_of_le h
    · exact Nat.lt_of_le_of_lt h (by decide)
    · decide
    · decide
  rw [← Char.ofNat_toNat c] at h ⊢
  exact hall c.toNat hlt h

/-- **What is spelled and not empty is a word**, with nothing to quote. -/
theorem Spelled.isWord {s : String} (h : Spelled s) (hne : s ≠ "") : Command.IsWord s :=
  ⟨hne, fun c hc => isPlain_of_isNameCharacter (h c hc)⟩

theorem Spelled.unbroken {s : String} (h : Spelled s) : Command.Unbroken s.toList := by
  intro c hc
  obtain ⟨hb, hq, _⟩ := Command.isPlain_iff.mp (isPlain_of_isNameCharacter (h c hc))
  exact ⟨hb, hq⟩

theorem Spelled.slash_notMem {s : String} (h : Spelled s) : '/' ∉ s.toList :=
  fun hm => absurd (h _ hm) (by decide)

/-- The name of what is in a directory of a built tree is spelled. -/
theorem spelled_of_mem_children {p : Profile} {records : List Record} {built : Built Node}
    (h : build p records = .ok built) {names : List String} {d n : Node}
    (hd : built.result.descend names = some d) (hn : n ∈ d.children) : Spelled n.name :=
  build_spelled h _ (Node.mem_walk_child (Node.mem_walk_of_descend hd) hn)

/-- In a built tree a name that is not empty leads on and is a word. -/
theorem isName_and_isWord {p : Profile} {records : List Record} {built : Built Node}
    (h : build p records = .ok built) {names : List String} {d n : Node}
    (hd : built.result.descend names = some d) (hn : n ∈ d.children) (hne : n.name ≠ "") :
    Path.IsName n.name ∧ Command.IsWord n.name := by
  refine ⟨?_, (spelled_of_mem_children h hd hn).isWord hne⟩
  rcases (build_orderly h _ (Node.mem_walk_of_descend hd)).named n hn with hname | hslug
  · exact hname
  · obtain ⟨r, _, e⟩ := List.mem_map.mp hslug
    rw [← e] at hne ⊢
    exact Slug.isName_ofTitle hne

end Portfolio.Site
