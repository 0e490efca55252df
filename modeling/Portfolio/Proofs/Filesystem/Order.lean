/-
  File:      Portfolio/Proofs/Filesystem/Order.lean
  Subject:   What does not depend on the order of the records.

  * `Alike`: two nodes that differ at most in the order of their children.
    `SameTree`: the same names lead to alike nodes in two trees, or nowhere in both.
  * `listingOf_congr`: a listing is sorted by a key that tells siblings apart, so it
    does not show the order in which the children came.
  * `AnswersAlike`: the lookups of two filesystems agree at every path, and their
    searches find the same, in some order. So it is for two trees that are the same
    (`answersAlike_of_sameTree`).
  * `answersAlike_of_lastWith`: the lookups see no more of the records than the
    last one of each slug. `answersAlike_of_perm`: where all slugs are different, the
    order of the records does not matter.
-/
import Portfolio.Proofs.Filesystem.Projects
import Portfolio.Proofs.Filesystem.Search
import Portfolio.Proofs.Site.Faults

namespace Portfolio

/-! ## 1. The order of a listing -/

namespace DirectoryEntry

theorem le_iff {a b : DirectoryEntry} :
    le a b = true ↔ (a.isDirectory = b.isDirectory ∧ a.name ≤ b.name) ∨
      (a.isDirectory = true ∧ b.isDirectory = false) := by
  unfold le
  by_cases h : a.isDirectory = b.isDirectory
  · rw [if_pos h, decide_eq_true_iff]
    constructor
    · intro hn
      exact Or.inl ⟨h, hn⟩
    · rintro (⟨_, hn⟩ | ⟨ha, hb⟩)
      · exact hn
      · rw [ha, hb] at h
        cases h
  · rw [if_neg h]
    cases ha : a.isDirectory <;> cases hb : b.isDirectory <;> simp_all

theorem le_trans (a b c : DirectoryEntry) (hab : le a b = true) (hbc : le b c = true) :
    le a c = true := by
  rw [le_iff] at hab hbc ⊢
  rcases hab with ⟨h1, hn⟩ | ⟨h1, h2⟩
  · rcases hbc with ⟨h3, hm⟩ | ⟨h3, h4⟩
    · exact Or.inl ⟨h1.trans h3, String.le_trans hn hm⟩
    · exact Or.inr ⟨h1.trans h3, h4⟩
  · rcases hbc with ⟨h3, _⟩ | ⟨h3, _⟩
    · exact Or.inr ⟨h1, h3 ▸ h2⟩
    · rw [h2] at h3
      cases h3

theorem le_total (a b : DirectoryEntry) : (le a b || le b a) = true := by
  rw [Bool.or_eq_true, le_iff, le_iff]
  have hn := String.le_total a.name b.name
  cases ha : a.isDirectory <;> cases hb : b.isDirectory <;> simp [hn]

/-- The key of the order tells entries of different names apart. -/
theorem name_eq_of_le {a b : DirectoryEntry} (hab : le a b = true) (hba : le b a = true) :
    a.name = b.name := by
  rw [le_iff] at hab hba
  rcases hab with ⟨h1, hn⟩ | ⟨h1, h2⟩
  · rcases hba with ⟨_, hm⟩ | ⟨h3, h4⟩
    · exact String.le_antisymm hn hm
    · rw [h3, h4] at h1
      cases h1
  · rcases hba with ⟨h3, _⟩ | ⟨h3, _⟩
    · rw [h1, h2] at h3
      cases h3
    · rw [h2] at h3
      cases h3

end DirectoryEntry

namespace Filesystem

open Json (Value)

variable {fs fs' : Filesystem} {root root' n m : Node}

/-- Entries of different names are sorted into one listing, however they come. -/
theorem mergeSort_eq_of_perm {entries entries' : List DirectoryEntry} (hp : entries.Perm entries')
    (hn : (entries.map DirectoryEntry.name).Nodup) :
    entries.mergeSort DirectoryEntry.le = entries'.mergeSort DirectoryEntry.le := by
  have hsorted : ∀ l : List DirectoryEntry,
      (l.mergeSort DirectoryEntry.le).Pairwise fun a b => DirectoryEntry.le a b = true :=
    List.pairwise_mergeSort DirectoryEntry.le_trans DirectoryEntry.le_total
  have hperm : (entries.mergeSort DirectoryEntry.le).Perm (entries'.mergeSort DirectoryEntry.le) :=
    (List.mergeSort_perm _ _).trans (hp.trans (List.mergeSort_perm _ _).symm)
  refine hperm.eq_of_pairwise ?_ (hsorted entries) (hsorted entries')
  intro a b ha hb hab hba
  have ha' : a ∈ entries := List.mem_mergeSort.mp ha
  have hb' : b ∈ entries := hp.mem_iff.mpr (List.mem_mergeSort.mp hb)
  exact List.inj_on_of_nodup_map hn ha' hb' (DirectoryEntry.name_eq_of_le hab hba)

/-! ## 2. Nodes and trees that are the same but for their order -/

/-- Two lookups that find related nodes, or nothing. -/
def Both (R : Node → Node → Prop) : Option Node → Option Node → Prop
  | none, none => True
  | some n, some m => R n m
  | _, _ => False

theorem Both.refl {R : Node → Node → Prop} (h : ∀ n, R n n) (found : Option Node) :
    Both R found found := by
  cases found with
  | none => trivial
  | some n => exact h n

theorem Both.symm {R : Node → Node → Prop} (h : ∀ n m, R n m → R m n) {found found' : Option Node}
    (hb : Both R found found') : Both R found' found := by
  cases found <;> cases found'
  · trivial
  · exact hb
  · exact hb
  · exact h _ _ hb

/-- Either both find nothing, or each finds a node. -/
theorem Both.none_or_some {R : Node → Node → Prop} {found found' : Option Node}
    (hb : Both R found found') :
    (found = none ∧ found' = none) ∨ ∃ n m, found = some n ∧ found' = some m ∧ R n m := by
  cases found <;> cases found'
  · exact Or.inl ⟨rfl, rfl⟩
  · exact hb.elim
  · exact hb.elim
  · exact Or.inr ⟨_, _, rfl, rfl, hb⟩

theorem Both.exists_of_some {R : Node → Node → Prop} {found : Option Node}
    (hb : Both R (some n) found) : ∃ m, found = some m ∧ R n m := by
  rcases hb.none_or_some with ⟨h, _⟩ | ⟨_, m, h, hm, hr⟩
  · cases h
  · cases h
    exact ⟨m, hm, hr⟩

/-- Nothing that a query shows of the one node is different at the other. -/
structure Alike (n m : Node) : Prop where
  path : n.path = m.path
  isDirectory : n.isDirectory = m.isDirectory
  content : n.content? = m.content?
  id : ownId? n = ownId? m
  entries : (n.children.map entryOf).Perm (m.children.map entryOf)

theorem Alike.refl (n : Node) : Alike n n :=
  ⟨rfl, rfl, rfl, rfl, List.Perm.refl _⟩

theorem Alike.symm (h : Alike n m) : Alike m n :=
  ⟨h.path.symm, h.isDirectory.symm, h.content.symm, h.id.symm, h.entries.symm⟩

/-- The same names lead to alike nodes in both trees, or lead nowhere in both. -/
def SameTree (root root' : Node) : Prop :=
  ∀ names, Both Alike (root.descend names) (root'.descend names)

theorem SameTree.refl (root : Node) : SameTree root root :=
  fun names => Both.refl Alike.refl (root.descend names)

theorem SameTree.symm (h : SameTree root root') : SameTree root' root :=
  fun names => (h names).symm fun _ _ => Alike.symm

/-- Two directories are the same tree if they show the same entries, and under every
    name the same tree or none. -/
theorem SameTree.directory {name path : String} {nodes nodes' : List Node} {id : Value}
    (hp : (nodes.map entryOf).Perm (nodes'.map entryOf))
    (hc : ∀ s, Both SameTree (Node.named? nodes s) (Node.named? nodes' s)) :
    SameTree (.directory name path nodes id) (.directory name path nodes' id) := by
  have hstep : ∀ (nodes : List Node) s rest,
      (Node.directory name path nodes id).descend (s :: rest) =
        (Node.named? nodes s).bind fun c => c.descend rest := by
    intro nodes s rest
    have hchild : (Node.directory name path nodes id).child? s = Node.named? nodes s := rfl
    rw [Node.descend, hchild]
    cases Node.named? nodes s <;> rfl
  intro names
  cases names with
  | nil =>
    show Alike (.directory name path nodes id) (.directory name path nodes' id)
    exact ⟨rfl, rfl, rfl, rfl, hp⟩
  | cons s rest =>
    rw [hstep, hstep]
    rcases (hc s).none_or_some with ⟨hn, hn'⟩ | ⟨c, c', hn, hn', hsame⟩
    · rw [hn, hn']
      trivial
    · rw [hn, hn']
      exact hsame rest

/-! ## 3. Queries -/

/-- What a path resolves to in both filesystems. -/
theorem resolve_both (ht : fs.tree = some root) (ht' : fs'.tree = some root')
    (h : SameTree root root') (path : Option String) (cwd : String) :
    ∃ found found', fs.resolve path cwd = .ok found ∧ fs'.resolve path cwd = .ok found' ∧
      Both Alike found found' ∧ root.descend (Path.namesFrom path cwd) = found :=
  ⟨_, _, resolve_of_tree ht path cwd, resolve_of_tree ht' path cwd, h _, rfl⟩

/-- Alike nodes are listed alike, if no two children bear one name. -/
theorem listingOf_congr {path : Option String} {found found' : Option Node}
    (h : Both Alike found found') (hd : ∀ n, found = some n → n.ChildrenDistinct) :
    listingOf path found = listingOf path found' := by
  rcases h.none_or_some with ⟨rfl, rfl⟩ | ⟨n, m, rfl, rfl, ha⟩
  · rfl
  · have hi := ha.isDirectory
    cases n with
    | file =>
      cases m with
      | file => rfl
      | directory => cases hi
    | directory name path' nodes id =>
      cases m with
      | file => cases hi
      | directory name' path'' nodes' id' =>
        have hn : ((nodes.map entryOf).map DirectoryEntry.name).Nodup := by
          rw [List.map_map]
          exact hd _ rfl
        exact congrArg Except.ok (mergeSort_eq_of_perm ha.entries hn)

theorem contentOf_congr {path : Option String} {found found' : Option Node}
    (h : Both Alike found found') : contentOf path found = contentOf path found' := by
  rcases h.none_or_some with ⟨rfl, rfl⟩ | ⟨n, m, rfl, rfl, ha⟩
  · rfl
  · have hc := ha.content
    cases n with
    | file =>
      cases m with
      | file => exact congrArg Except.ok (Option.some.inj hc)
      | directory => cases hc
    | directory =>
      cases m with
      | file => cases hc
      | directory => rfl

theorem bind_ownId?_congr {found found' : Option Node} (h : Both Alike found found') :
    found.bind ownId? = found'.bind ownId? := by
  rcases h.none_or_some with ⟨rfl, rfl⟩ | ⟨n, m, rfl, rfl, ha⟩
  · rfl
  · exact ha.id

/-- A path belongs to the same project in both filesystems. -/
theorem projectIdOf_congr (ht : fs.tree = some root) (ht' : fs'.tree = some root')
    (h : SameTree root root') (path : Option String) (cwd : String) :
    fs.projectIdOf path cwd = fs'.projectIdOf path cwd := by
  obtain ⟨found, found', hr, hr', hb, _⟩ := resolve_both ht ht' h path cwd
  unfold projectIdOf
  rw [hr, hr', ok_bind, ok_bind]
  rcases hb.none_or_some with ⟨rfl, rfl⟩ | ⟨n, m, rfl, rfl, ha⟩
  · rfl
  · dsimp only
    rw [ha.id, ha.path]
    cases ownId? m with
    | some id => rfl
    | none =>
      cases projectNameOf? m.path with
      | none => rfl
      | some name =>
        obtain ⟨d, d', hd, hd', hbd, _⟩ :=
          resolve_both ht ht' h (some (Path.join Site.projectsPath name)) "/"
        dsimp only
        rw [hd, hd', ok_bind, ok_bind, bind_ownId?_congr hbd]

/-! ## 4. Searching -/

theorem hitOf_congr {needle : List Char} {path : String} (h : n.content? = m.content?) :
    Search.hitOf needle path n = Search.hitOf needle path m := by
  cases n with
  | file =>
    cases m with
    | file =>
      have hc := Option.some.inj h
      unfold Search.hitOf
      dsimp only
      rw [hc]
    | directory => cases h
  | directory =>
    cases m with
    | file => cases h
    | directory => rfl

/-- Every hit of the one search is a hit of the other. -/
theorem mem_hits_of_sameTree (hd : root.Everywhere Node.ChildrenDistinct) (h : SameTree root root')
    {keyword : String} {hit : Search.Hit} (hh : hit ∈ Search.hits keyword root.walk) :
    hit ∈ Search.hits keyword root'.walk := by
  obtain ⟨n, hn, ho⟩ := exists_mem_walk_of_mem_hits hh
  obtain ⟨hp, names, hdesc⟩ := (Node.mem_walk_iff_descend hd).mp hn
  have hb := h names
  rw [hdesc] at hb
  obtain ⟨m, hm, ha⟩ := hb.exists_of_some
  have hw := Node.mem_walk_of_descend hm
  refine List.mem_filterMap.mpr ⟨_, hw, ?_⟩
  rw [← hitOf_congr ha.content, ← ha.path, ← hp]
  exact ho

/-- No two hits are the same, if no two nodes have one path. -/
theorem nodup_hits {nodes : List (String × Node)} (h : (nodes.map Prod.fst).Nodup)
    (keyword : String) : (Search.hits keyword nodes).Nodup := by
  refine List.Pairwise.filterMap _ ?_ (List.pairwise_map.mp h)
  intro e e' hne hit hh hit' hh' heq
  subst heq
  exact hne ((Search.path_of_hitOf hh).symm.trans (Search.path_of_hitOf hh'))

/-- The same error, or the same hits in some order. -/
def SameHits : Except ConsoleError (List Search.Hit) → Except ConsoleError (List Search.Hit) → Prop
  | .ok hits, .ok hits' => hits.Perm hits'
  | .error e, .error e' => e = e'
  | _, _ => False

theorem search_of_blank {keyword : String} (ht : fs.tree = some root)
    (hk : Text.allBlank keyword.toList = true) : fs.search keyword = .error .blankKeyword := by
  unfold search
  rw [walk_root ht, ok_bind, if_pos hk]
  rfl

theorem sameHits_of_sameTree (ht : fs.tree = some root) (ht' : fs'.tree = some root')
    (ha : root.Addressed) (ha' : root'.Addressed) (h : SameTree root root') (keyword : String) :
    SameHits (fs.search keyword) (fs'.search keyword) := by
  cases hk : Text.allBlank keyword.toList with
  | true =>
    rw [search_of_blank ht hk, search_of_blank ht' hk]
    rfl
  | false =>
    rw [search_of_tree ht hk, search_of_tree ht' hk]
    have hn := nodup_hits ha.nodup_paths keyword
    have hn' := nodup_hits ha'.nodup_paths keyword
    refine (List.perm_ext_iff_of_nodup hn hn').mpr fun hit => ?_
    constructor
    · intro hh
      exact mem_hits_of_sameTree ha.distinct h hh
    · intro hh
      exact mem_hits_of_sameTree ha'.distinct h.symm hh

/-! ## 5. Two filesystems -/

/-- The lookups of two filesystems agree at every path, and for every keyword their
    searches fail alike or give the same hits, in some order. -/
structure AnswersAlike (fs fs' : Filesystem) : Prop where
  exists? : ∀ path cwd, fs.exists? path cwd = fs'.exists? path cwd
  isDirectory : ∀ path cwd, fs.isDirectory path cwd = fs'.isDirectory path cwd
  isFile : ∀ path cwd, fs.isFile path cwd = fs'.isFile path cwd
  list : ∀ path cwd, fs.list path cwd = fs'.list path cwd
  contentAt : ∀ path cwd, fs.contentAt path cwd = fs'.contentAt path cwd
  projectIdOf : ∀ path cwd, fs.projectIdOf path cwd = fs'.projectIdOf path cwd
  search : ∀ keyword, SameHits (fs.search keyword) (fs'.search keyword)

theorem isSome_congr {found found' : Option Node} (h : Both Alike found found') :
    found.isSome = found'.isSome := by
  rcases h.none_or_some with ⟨rfl, rfl⟩ | ⟨n, m, rfl, rfl, _⟩ <;> rfl

theorem any_congr {found found' : Option Node} (h : Both Alike found found') (f : Bool → Bool) :
    (found.any fun n => f n.isDirectory) = found'.any fun n => f n.isDirectory := by
  rcases h.none_or_some with ⟨rfl, rfl⟩ | ⟨n, m, rfl, rfl, ha⟩
  · rfl
  · exact congrArg f ha.isDirectory

/-- **Filesystems with the same tree but for its order answer alike.** -/
theorem answersAlike_of_sameTree (ht : fs.tree = some root) (ht' : fs'.tree = some root')
    (ha : root.Addressed) (ha' : root'.Addressed) (h : SameTree root root') :
    AnswersAlike fs fs' := by
  have hboth := resolve_both ht ht' h
  refine ⟨fun path cwd => ?_, fun path cwd => ?_, fun path cwd => ?_, fun path cwd => ?_,
    fun path cwd => ?_, projectIdOf_congr ht ht' h, sameHits_of_sameTree ht ht' ha ha' h⟩
  all_goals obtain ⟨found, found', hr, hr', hb, hn⟩ := hboth path cwd
  · rw [(answersBy_of_resolve hr).exists?, (answersBy_of_resolve hr').exists?, isSome_congr hb]
  · rw [(answersBy_of_resolve hr).isDirectory, (answersBy_of_resolve hr').isDirectory]
    exact congrArg Except.ok (any_congr hb id)
  · rw [(answersBy_of_resolve hr).isFile, (answersBy_of_resolve hr').isFile]
    exact congrArg Except.ok (any_congr hb not)
  · rw [list_of_resolve hr, list_of_resolve hr']
    refine listingOf_congr hb fun n hf => ?_
    rw [hf] at hn
    exact ha.distinct _ (Node.mem_walk_of_descend hn)
  · rw [contentAt_of_resolve hr, contentAt_of_resolve hr', contentOf_congr hb]

/-! ## 6. Other records with the same last ones -/

theorem named?_eq_of_perm {nodes nodes' : List Node} (hp : nodes.Perm nodes')
    (hd : (nodes.map Node.name).Nodup) (s : String) :
    Node.named? nodes s = Node.named? nodes' s := by
  cases hn : Node.named? nodes' s with
  | none =>
    rw [Node.named?_eq_none_iff] at hn ⊢
    intro hm
    exact hn ((hp.map Node.name).mem_iff.mp hm)
  | some c =>
    obtain ⟨hc, rfl⟩ := Node.named?_eq_some hn
    exact Node.named?_of_nodup hd (hp.mem_iff.mpr hc)

/-- Trees with the same projects are the same but for the order of these. -/
theorem sameTree_of_branched {p : Profile} {projects projects' : List Node}
    (hb : Branched root p projects) (hb' : Branched root' p projects')
    (hp : projects.Perm projects') (hd : (projects.map Node.name).Nodup) :
    SameTree root root' := by
  have hprojects : SameTree (.directory "projects" Site.projectsPath projects .null)
      (.directory "projects" Site.projectsPath projects' .null) := by
    refine SameTree.directory (hp.map entryOf) fun s => ?_
    rw [named?_eq_of_perm hp hd s]
    exact Both.refl SameTree.refl _
  rw [hb, hb']
  refine SameTree.directory (List.Perm.refl _) fun s => ?_
  unfold Site.branches
  simp only [Node.named?_cons]
  by_cases hbase : (Site.baseDirectory p).name = s
  · rw [if_pos hbase, if_pos hbase]
    exact SameTree.refl _
  · rw [if_neg hbase, if_neg hbase]
    by_cases hs : "projects" = s
    · rw [if_pos (show Node.name (.directory "projects" _ projects _) = s from hs),
        if_pos (show Node.name (.directory "projects" _ projects' _) = s from hs)]
      exact hprojects
    · rw [if_neg (show ¬ Node.name (.directory "projects" _ projects _) = s from hs),
        if_neg (show ¬ Node.name (.directory "projects" _ projects' _) = s from hs)]
      exact Both.refl SameTree.refl _

/-- **The lookups see no more of the records than the last one of each slug.** -/
theorem answersAlike_of_lastWith {p : Profile} {records records' : List Record}
    {made made' : Site.Built Filesystem} (h : ofRecords p records = .ok made)
    (h' : ofRecords p records' = .ok made')
    (hl : ∀ slug, Site.lastWith slug records = Site.lastWith slug records') :
    AnswersAlike made.result made'.result := by
  obtain ⟨built, hbuild, ht, _⟩ := ofRecords_eq_ok h
  obtain ⟨built', hbuild', ht', _⟩ := ofRecords_eq_ok h'
  obtain ⟨placed, hp, hb, _⟩ := Site.build_eq_ok hbuild
  obtain ⟨placed', hp', hb', _⟩ := Site.build_eq_ok hbuild'
  have hd := Site.nodup_names_projects hp
  have hd' := Site.nodup_names_projects hp'
  have hperm : placed.result.Perm placed'.result := by
    refine (List.perm_ext_iff_of_nodup hd.of_map hd'.of_map).mpr fun d => ?_
    rw [Site.mem_projects_iff hp, Site.mem_projects_iff hp']
    simp only [← Site.lastWith_eq_some_iff, hl]
  exact answersAlike_of_sameTree ht ht' (Site.build_addressed hbuild)
    (Site.build_addressed hbuild') (sameTree_of_branched hb hb' hperm hd)

/-! ## 7. The same records in another order -/

/-- Where all slugs are different, every record is the last one of its slug. -/
theorem isLast_iff_of_nodup {records : List Record} (hn : (Site.slugs records).Nodup)
    {slug : String} {r : Record} :
    Site.IsLast slug records r ↔ r ∈ records ∧ Slug.ofTitle r.title = slug := by
  constructor
  · rintro ⟨hs, before, after, rfl, _⟩
    exact ⟨by simp, hs⟩
  · rintro ⟨hr, hs⟩
    obtain ⟨before, after, rfl⟩ := List.append_of_mem hr
    refine ⟨hs, before, after, rfl, fun later hm he => ?_⟩
    -- a later record with the slug would repeat it
    have hlater : slug ∈ Site.slugs after := he ▸ Site.mem_slugs hm
    have hcons : (Slug.ofTitle r.title :: Site.slugs after).Nodup := by
      unfold Site.slugs at hn
      rw [List.map_append] at hn
      exact hn.of_append_right
    rw [hs, List.nodup_cons] at hcons
    exact hcons.1 hlater

/-- **The order of the records does not matter to lookups**, where their titles have
    different slugs: in any other order they build too, and what is built answers
    alike. -/
theorem answersAlike_of_perm {p : Profile} {records records' : List Record}
    {made : Site.Built Filesystem} (h : ofRecords p records = .ok made)
    (hn : (Site.slugs records).Nodup) (hp : records.Perm records') :
    ∃ made', ofRecords p records' = .ok made' ∧ AnswersAlike made.result made'.result := by
  have htexts : ∀ r ∈ records', r.HasTexts := by
    intro r hr
    exact (ofRecords_guarded p records).exists_ok_iff.mp ⟨made, h⟩ r (hp.mem_iff.mpr hr)
  obtain ⟨made', h'⟩ := (ofRecords_guarded p records').exists_ok_iff.mpr htexts
  have hn' : (Site.slugs records').Nodup := (hp.map _).nodup_iff.mp hn
  refine ⟨made', h', answersAlike_of_lastWith h h' fun slug => Option.ext fun r => ?_⟩
  rw [Site.lastWith_eq_some_iff, Site.lastWith_eq_some_iff, isLast_iff_of_nodup hn,
    isLast_iff_of_nodup hn', hp.mem_iff]

/-- Two projects that change places, the one of the empty slug among them; walking
    shows that they do. -/
theorem answersAlike_of_swap :
    ∃ made made', ofRecords {} [.bare (.int 1) "日本", .bare (.int 2) "Gate"] = .ok made ∧
      ofRecords {} [.bare (.int 2) "Gate", .bare (.int 1) "日本"] = .ok made' ∧
      AnswersAlike made.result made'.result ∧
      (made.result.walk (some "/projects") "/").map (·.map Prod.fst) ≠
        (made'.result.walk (some "/projects") "/").map (·.map Prod.fst) := by
  obtain ⟨made, hm⟩ : ∃ made,
      ofRecords {} [.bare (.int 1) "日本", .bare (.int 2) "Gate"] = .ok made := ⟨_, rfl⟩
  obtain ⟨made', hm', ha⟩ := answersAlike_of_perm hm (by decide) (List.Perm.swap _ _ [])
  refine ⟨made, made', hm, hm', ha, ?_⟩
  cases hm
  cases hm'
  decide +kernel

end Filesystem

end Portfolio
