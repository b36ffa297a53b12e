import DmlOutline.Proofs.ScopePlaces
import DmlOutline.Proofs.ScopeReads

/-!
# Disks that are alike for a scope

Two disks are alike for a scope when they have the same entries in its categories. They may differ
in directories that are never asked for: whether there is one for outlines yet is not seen, and nor
are directories among the outlines. What is read for the scope is the same on both, what is written
for it keeps them alike, and so does what is written for another scope on one of them.

* `Store.Orderly` — a disk on which the files of a scope are where they belong.
* `Store.Alike` — two disks that hold the same for a scope.
* `Disk.Together` — an action that gives the same on two disks and keeps them related.

Principal results: `Store.Alike.change`: what another scope does; `Store.Alike.find_entry`,
`Store.Alike.names_eq`: what is read; `Store.Alike.provideDir`, `Store.Alike.createOnce`,
`Store.Alike.storeOutline`: what is written.
-/

namespace DmlOutline

open Disk

/-! ## Runs on two disks -/

namespace Disk

variable {ε α β : Type} {a b : Disk} {R : Disk → Disk → Prop}

/-- An action that gives the same on two disks, and leaves disks that are related. -/
structure Together (R : Disk → Disk → Prop) (a b : Disk) (action : ExceptT ε (StateM Disk) α) :
    Prop where
  result_eq : (a.run action).1 = (b.run action).1
  related : R (a.run action).2 (b.run action).2

namespace Together

variable {action : ExceptT ε (StateM Disk) α} {more : α → ExceptT ε (StateM Disk) β}

theorem of_agrees (h : Agrees a b action) (hrelated : R a b) : Together R a b action := by
  obtain ⟨result, ha, hb⟩ := h
  exact ⟨by rw [ha, hb], by rw [ha, hb]; exact hrelated⟩

theorem pure (hrelated : R a b) (value : α) :
    Together R a b (pure value : ExceptT ε (StateM Disk) α) :=
  .of_agrees (.pure value) hrelated

theorem throw (hrelated : R a b) (error : ε) :
    Together R a b (throw error : ExceptT ε (StateM Disk) α) :=
  .of_agrees (.throw error) hrelated

/-- **Actions in turn give the same when each does.** -/
theorem bind (h : Together R a b action)
    (hmore : ∀ value next next', a.run action = (.ok value, next) →
      b.run action = (.ok value, next') → R next next' → Together R next next' (more value)) :
    Together R a b (action >>= more) := by
  obtain ⟨hresult, hrelated⟩ := h
  cases ha : a.run action with
  | mk result next =>
    cases hb : b.run action with
    | mk result' next' =>
      rw [ha, hb] at hresult hrelated
      obtain rfl : result = result' := hresult
      cases result with
      | error error =>
        exact ⟨by rw [run_bind, run_bind, ha, hb],
          by rw [run_bind, run_bind, ha, hb]; exact hrelated⟩
      | ok value =>
        obtain ⟨hvalue, hlater⟩ := hmore value next next' ha hb hrelated
        exact ⟨by rw [run_bind, run_bind, ha, hb]; exact hvalue,
          by rw [run_bind, run_bind, ha, hb]; exact hlater⟩

/-- After an action that reads, actions begin on the same disks. -/
theorem bind_agrees (h : Agrees a b action) (hrelated : R a b)
    (hmore : ∀ value, a.run action = (.ok value, a) → Together R a b (more value)) :
    Together R a b (action >>= more) := by
  obtain ⟨result, ha, hb⟩ := h
  refine (of_agrees ⟨result, ha, hb⟩ hrelated).bind ?_
  intro value next next' hnext hnext' _
  rw [ha] at hnext
  rw [hb] at hnext'
  obtain ⟨rfl, rfl⟩ := Prod.mk.inj hnext
  obtain ⟨-, rfl⟩ := Prod.mk.inj hnext'
  exact hmore value ha

theorem settle (h : Together R a b action) :
    Together R a b (settle action : ExceptT ε (StateM Disk) (Except ε α)) :=
  ⟨congrArg Except.ok h.result_eq, h.related⟩

end Together

end Disk

namespace Store

variable {store : Store} {scope other : Scope} {category : Category} {disk next : Disk}
  {a b a' b' : Disk} {name : String}

/-! ## Files where they belong -/

/-- A disk on which the files of a scope are where they belong. -/
structure Orderly (store : Store) (scope : Scope) (disk : Disk) : Prop where
  base : disk.kind? store.config.baseDir = some .directory
  /-- No file is on the way to a category. -/
  clear : ∀ category front, front <+: scope.place category →
    disk.fileAt (disk.goal store.config.baseDir ++ front) = none
  /-- A file in the directory of a category has a name that files there may have. -/
  listed : ∀ category name content,
    disk.fileAt (disk.goal store.config.baseDir ++ (scope.place category ++ [name])) =
      some content → Path.IsName name ∧ category.Lists name

namespace Orderly

theorem widens (h : store.Orderly scope disk) (hwidens : disk.Widens next) :
    store.Orderly scope next where
  base := hwidens.kind?_directory h.base
  clear category front hfront := by
    rw [hwidens.goal, hwidens.fileAt]
    exact h.clear category front hfront
  listed category name content hfile := by
    rw [hwidens.goal, hwidens.fileAt] at hfile
    exact h.listed category name content hfile

/-- A new file belongs where it is, in whichever scope it is put. -/
theorem of_file {content : ByteArray} (h : store.Orderly scope disk) (hgrows : disk.Grows next)
    (hother : other = scope ∨ scope.Isolated other) (hname : Path.IsName name)
    (hlists : category.Lists name)
    (hnew : ∀ place, next.fileAt place =
      if place = disk.goal store.config.baseDir ++ (other.place category ++ [name])
      then some content else disk.fileAt place) : store.Orderly scope next where
  base := hgrows.kind?_directory h.base
  clear category' front hfront := by
    have hoff : front ≠ other.place category ++ [name] := by
      rintro rfl
      exact Scope.entry_off_way hother hlists category' hfront
    rw [hgrows.goal, hnew, if_neg (fun heq => hoff (List.append_cancel_left heq))]
    exact h.clear category' front hfront
  listed category' name' content' hfile := by
    rw [hgrows.goal, hnew] at hfile
    split at hfile
    · rename_i hplace
      obtain ⟨-, rfl, rfl⟩ := Scope.entry_inj (List.append_cancel_left hplace)
      exact ⟨hname, hlists⟩
    · exact h.listed category' name' content' hfile

/-- **Requests in the scope and in those apart from it leave files where they belong.** -/
theorem change {outliner : Outliner} (h : outliner.store.Orderly scope disk)
    (hchange : outliner.Change other disk next) (hother : other = scope ∨ scope.Isolated other) :
    outliner.store.Orderly scope next := by
  rcases hchange.fileAt with hsame | ⟨category, hcategory, name, _, hname, -, hnew⟩ |
    ⟨name, _, _, _, hname, -, -, -, hnew⟩
  · exact h.widens ⟨hchange.grows, hsame⟩
  · rw [goal_entry] at hnew
    exact h.of_file hchange.grows hother hname (Category.lists_of_mem_sources hcategory name) hnew
  · rw [outlineFolder, goal_entry] at hnew
    exact h.of_file hchange.grows hother (isName_outline hname)
      (Category.lists_outline .outlines name) hnew

theorem sourcesNamed (h : store.Orderly scope disk) : store.SourcesNamed scope disk := by
  intro category _ name content hfile
  rw [goal_entry] at hfile
  exact (h.listed category name content hfile).1

/-- What names lead to from the base directory, where no file is on the way to a category. -/
theorem exists_base (h : store.Orderly scope disk) :
    ∃ top : FileTree, disk.find store.config.baseDir = .ok top ∧
      (∀ names, disk.root.get? (disk.goal store.config.baseDir ++ names) = top.get? names) ∧
      ∀ category, top.Clear (scope.place category) := by
  obtain ⟨entries, hentries⟩ := find_of_kind?_directory h.base
  have hget := get?_base hentries
  refine ⟨.directory entries, hentries, hget, fun category front hfront => ?_⟩
  rw [← h.clear category front hfront, fileAt, FileTree.fileAt_congr (hget front)]

/-- The files of a category are listed whether its directory is there or not. -/
theorem names_of_fits (h : store.Orderly scope disk) (hfits : Fits scope.keys)
    (htext : refuseText (store.folder scope category) = .ok ()) :
    namesOrNone (disk.fileNames (store.folder scope category)) =
      .ok (((disk.root.get? (disk.goal store.config.baseDir ++ scope.place category)).getD
        (.directory [])).fileNames.filter (isReachable (store.folder scope category))) := by
  obtain ⟨top, htop, hget, hclear⟩ := h.exists_base
  have hshort := (scope.fits_place_iff category).mpr hfits
  have hfind := find_below htop (scope.isName_of_mem_place category) (scope.place_ne_nil category)
  rw [← folder_eq_below, htext, Except.bind] at hfind
  rw [hget, Disk.fileNames, hfind]
  by_cases hdir : top.DirAt (scope.place category)
  · obtain ⟨entries, hentries⟩ := FileTree.descend_of_dirAt hshort hdir
    rw [hentries, (FileTree.descend_eq_ok_iff.mp hentries).2]
    rfl
  · rw [(hclear category).descend_of_fits hshort hdir, (hclear category).get?_eq_none hdir,
      Option.getD_none, FileTree.fileNames_empty]
    rfl

end Orderly

/-! ## Disks that hold the same -/

/-- Two disks that hold the same for a scope. -/
structure Alike (store : Store) (scope : Scope) (a b : Disk) : Prop where
  left : store.Orderly scope a
  right : store.Orderly scope b
  entry : ∀ category name, category.Lists name →
    a.root.get? (a.goal store.config.baseDir ++ (scope.place category ++ [name])) =
      b.root.get? (b.goal store.config.baseDir ++ (scope.place category ++ [name]))
  /-- A scope without plain sources is told from one whose directory is there. -/
  dirAt_place : ∀ category ∈ Category.sources,
    (a.root.DirAt (a.goal store.config.baseDir ++ scope.place category) ↔
      b.root.DirAt (b.goal store.config.baseDir ++ scope.place category))
  /-- Keys that are too long are told from missing ones by the directories before them. -/
  dirAt_keys : ¬Fits scope.keys → ∀ front, front <+: scope.keys →
    (a.root.DirAt (a.goal store.config.baseDir ++ front) ↔
      b.root.DirAt (b.goal store.config.baseDir ++ front))

namespace Alike

theorem refl (h : store.Orderly scope disk) : store.Alike scope disk disk :=
  ⟨h, h, fun _ _ _ => rfl, fun _ _ => Iff.rfl, fun _ _ _ => Iff.rfl⟩

/-- **A change in another scope on one of the disks keeps them alike.** -/
theorem change {outliner : Outliner} (h : outliner.store.Alike scope a b)
    (hisolated : scope.Isolated other) (hchange : outliner.Change other a a') :
    outliner.store.Alike scope a' b where
  left := h.left.change hchange (.inr hisolated)
  right := h.right
  entry category name hlists := by
    rw [hchange.grows.goal, hchange.get?_entry hisolated h.left.base hlists]
    exact h.entry category name hlists
  dirAt_place category hcategory := by
    rw [hchange.grows.goal, hchange.dirAt_place hisolated h.left.base hcategory]
    exact h.dirAt_place category hcategory
  dirAt_keys hlong front hfront := by
    rw [hchange.grows.goal, hchange.dirAt_keys hisolated h.left.base hlong hfront]
    exact h.dirAt_keys hlong front hfront

/-! ## What is read -/

variable (h : store.Alike scope a b)

include h

/-- Keys of a scope that are too long lead to the same. -/
theorem descend_keys (hlong : ¬Fits scope.keys) {top top' : FileTree}
    (htop : ∀ names, a.root.get? (a.goal store.config.baseDir ++ names) = top.get? names)
    (htop' : ∀ names, b.root.get? (b.goal store.config.baseDir ++ names) = top'.get? names)
    (hclear : top.Clear scope.keys) (hclear' : top'.Clear scope.keys) :
    top.descend scope.keys = top'.descend scope.keys := by
  refine hclear.descend_congr hclear' hlong fun front hfront => ?_
  have hdirs := h.dirAt_keys hlong front hfront
  unfold FileTree.DirAt at hdirs ⊢
  rwa [htop, htop'] at hdirs

/-- **What is found in a category is the same**, where its directory is there on both disks or on
none. -/
theorem find_entry
    (hdir : a.root.DirAt (a.goal store.config.baseDir ++ scope.place category) ↔
      b.root.DirAt (b.goal store.config.baseDir ++ scope.place category))
    (hname : Path.IsName name) (hlists : category.Lists name) :
    a.find (store.folder scope category / name) = b.find (store.folder scope category / name) := by
  obtain ⟨top, htop, hget, hclear⟩ := h.left.exists_base
  obtain ⟨top', htop', hget', hclear'⟩ := h.right.exists_base
  have hentry := h.entry category name hlists
  have hnames := scope.isName_of_mem_entry category hname
  unfold FileTree.DirAt at hdir
  rw [hget, hget'] at hdir hentry
  have hdescend : top.descend (scope.place category ++ [name]) =
      top'.descend (scope.place category ++ [name]) := by
    by_cases hfits : Fits scope.keys
    · have hshort := (scope.fits_place_iff category).mpr hfits
      exact (hclear category).descend_entry_congr (hclear' category) hshort hdir hentry
    · have hkeys := h.descend_keys hfits hget hget' (hclear category).concat
        (hclear' category).concat
      rw [Scope.place, FileTree.descend_concat, FileTree.descend_concat,
        FileTree.descend_concat, FileTree.descend_concat, hkeys]
  rw [folder_entry_eq_below, find_below htop hnames (by simp), find_below htop' hnames (by simp),
    hdescend]

/-- What is found in a category on one of the disks is found on the other. -/
theorem find_eq_ok_iff (found : FileTree) (hname : Path.IsName name)
    (hlists : category.Lists name) :
    a.find (store.folder scope category / name) = .ok found ↔
      b.find (store.folder scope category / name) = .ok found := by
  obtain ⟨top, htop, -, -⟩ := h.left.exists_base
  obtain ⟨top', htop', -, -⟩ := h.right.exists_base
  have hnames := scope.isName_of_mem_entry category hname
  rw [folder_entry_eq_below, find_below_eq_ok_iff htop hnames (by simp),
    find_below_eq_ok_iff htop' hnames (by simp), h.entry category name hlists]

theorem kind?_entry (hname : Path.IsName name) (hlists : category.Lists name) :
    a.kind? (store.folder scope category / name) =
      b.kind? (store.folder scope category / name) := by
  have hfind := fun found => h.find_eq_ok_iff found hname hlists
  unfold kind?
  cases ha : a.find (store.folder scope category / name) with
  | ok found => rw [(hfind found).mp ha]
  | error cause =>
    cases hb : b.find (store.folder scope category / name) with
    | ok found => rw [(hfind found).mpr hb] at ha; cases ha
    | error cause => rfl

/-- A file in a category is read as the same. -/
theorem read_entry (hname : Path.IsName name) (hlists : category.Lists name)
    (hkind : a.kind? (store.folder scope category / name) = some .file) :
    a.read (store.folder scope category / name) = b.read (store.folder scope category / name) := by
  obtain ⟨content, hread⟩ := kind?_eq_file_iff.mp hkind
  have hfind := (h.find_eq_ok_iff _ hname hlists).mp (find_eq_file_iff.mpr hread)
  rw [hread, find_eq_file_iff.mp hfind]

/-- A source is read as the same, or refused for the same reason. -/
theorem read_source (hcategory : category ∈ Category.sources) (hname : Path.IsName name) :
    a.read (store.folder scope category / name) = b.read (store.folder scope category / name) := by
  have hlists := Category.lists_of_mem_sources hcategory name
  rw [Disk.read, h.find_entry (h.dirAt_place category hcategory) hname hlists, Disk.read]

theorem fileAt_entry (category : Category) (name : String) :
    a.fileAt (a.goal store.config.baseDir ++ (scope.place category ++ [name])) =
      b.fileAt (b.goal store.config.baseDir ++ (scope.place category ++ [name])) := by
  by_cases hlists : category.Lists name
  · exact FileTree.fileAt_congr (h.entry category name hlists)
  · have hnone : ∀ {disk : Disk}, store.Orderly scope disk →
        disk.fileAt (disk.goal store.config.baseDir ++ (scope.place category ++ [name])) =
          none := by
      intro disk horderly
      refine Option.eq_none_iff_forall_ne_some.mpr fun content hfile => ?_
      exact hlists (horderly.listed category name content hfile).2
    rw [hnone h.left, hnone h.right]

/-- **A category lists the same files.** -/
theorem names_eq (category : Category) :
    namesOrNone (a.fileNames (store.folder scope category)) =
      namesOrNone (b.fileNames (store.folder scope category)) := by
  cases htext : refuseText (store.folder scope category) with
  | error cause =>
    have hrefused : ∀ disk : Disk,
        disk.fileNames (store.folder scope category) = .error cause := by
      intro disk
      unfold Disk.fileNames find locate
      rw [htext]
    rw [hrefused a, hrefused b]
  | ok value =>
    by_cases hfits : Fits scope.keys
    · rw [h.left.names_of_fits hfits htext, h.right.names_of_fits hfits htext]
      refine congrArg Except.ok (congrArg (List.filter _) (FileTree.fileNames_congr fun name => ?_))
      have hinside : ∀ disk : Disk,
          ((disk.root.get? (disk.goal store.config.baseDir ++ scope.place category)).getD
            (.directory [])).fileAt [name] =
            disk.fileAt (disk.goal store.config.baseDir ++ (scope.place category ++ [name])) := by
        intro disk
        unfold fileAt FileTree.fileAt
        rw [← List.append_assoc, FileTree.get?_append disk.root _ [name]]
        cases disk.root.get? (disk.goal store.config.baseDir ++ scope.place category) <;> rfl
      rw [hinside a, hinside b]
      exact h.fileAt_entry category name
    · obtain ⟨top, htop, hget, hclear⟩ := h.left.exists_base
      obtain ⟨top', htop', hget', hclear'⟩ := h.right.exists_base
      have hnames := scope.isName_of_mem_place category
      have hne := scope.place_ne_nil category
      have hkeys := h.descend_keys hfits hget hget' (hclear category).concat
        (hclear' category).concat
      have hfind : a.find (store.folder scope category) = b.find (store.folder scope category) := by
        rw [folder_eq_below, find_below htop hnames hne, find_below htop' hnames hne, Scope.place,
          FileTree.descend_concat, FileTree.descend_concat, hkeys]
      rw [Disk.fileNames, Disk.fileNames, hfind]

/-- Where there is a directory of sources. -/
theorem isDirectory_iff (hcategory : category ∈ Category.sources) :
    a.kind? (store.folder scope category) = some .directory ↔
      b.kind? (store.folder scope category) = some .directory := by
  have hnames := scope.isName_of_mem_place category
  have hne := scope.place_ne_nil category
  rw [folder_eq_below, kind?_below_iff h.left.base hnames hne,
    kind?_below_iff h.right.base hnames hne, h.dirAt_place category hcategory]

/-! ## What is written -/

/-- What is paved for the scope keeps the disks alike. -/
theorem paved (ha : Paved store.config.baseDir (scope.place category) a a')
    (hb : Paved store.config.baseDir (scope.place category) b b') : store.Alike scope a' b' where
  left := h.left.widens ha.toWidens
  right := h.right.widens hb.toWidens
  entry category' name hlists := by
    have hoff := Scope.entry_off_way (.inl rfl : scope = scope ∨ _) hlists category
    rw [ha.goal, hb.goal, ha.apart _ (by rwa [List.prefix_append_right_inj]),
      hb.apart _ (by rwa [List.prefix_append_right_inj])]
    exact h.entry category' name hlists
  dirAt_place category' hcategory := by
    rw [ha.goal, hb.goal]
    by_cases hway : scope.place category' <+: scope.place category
    · rw [ha.dirAt_iff hway, hb.dirAt_iff hway, h.dirAt_place category' hcategory]
    · unfold FileTree.DirAt
      rw [ha.apart _ (by rwa [List.prefix_append_right_inj]),
        hb.apart _ (by rwa [List.prefix_append_right_inj])]
      exact h.dirAt_place category' hcategory
  dirAt_keys hlong front hfront := by
    have hway : front <+: scope.place category := hfront.trans (List.prefix_append _ _)
    rw [ha.goal, hb.goal, ha.dirAt_iff hway, hb.dirAt_iff hway, h.dirAt_keys hlong front hfront]

/-- **Providing the directory of a category does the same on both disks.** -/
theorem provideDir (category : Category) :
    Together (store.Alike scope) a b (Store.provideDir (store.folder scope category)) := by
  have hnames := scope.isName_of_mem_place category
  have hne := scope.place_ne_nil category
  rw [folder_eq_below]
  cases htext : refuseText (store.config.baseDir.below (scope.place category)) with
  | error cause =>
    have hempty := text_below_ne_empty store.config.baseDir hnames hne
    have ha := run_provideDir_of_refused a hempty htext
    have hb := run_provideDir_of_refused b hempty htext
    exact ⟨by rw [ha, hb], by rw [ha, hb]; exact h⟩
  | ok value =>
    obtain ⟨ha, hpaved⟩ := run_provideDir_below h.left.base hnames hne (h.left.clear category) htext
    obtain ⟨hb, hpaved'⟩ :=
      run_provideDir_below h.right.base hnames hne (h.right.clear category) htext
    exact ⟨by rw [ha, hb], h.paved hpaved hpaved'⟩

/-- The same file in a category of the scope keeps the disks alike. -/
theorem puts {content : ByteArray} (hname : Path.IsName name) (hlists : category.Lists name)
    (ha : a.Puts (store.folder scope category / name) (.file content) a')
    (hb : b.Puts (store.folder scope category / name) (.file content) b') :
    store.Alike scope a' b' := by
  have hgoal : ∀ disk : Disk, disk.goal (store.folder scope category / name) =
      disk.goal store.config.baseDir ++ (scope.place category ++ [name]) := by
    intro disk
    rw [goal_join disk _ hname, goal_entry]
  have horderly : ∀ {disk next : Disk}, store.Orderly scope disk →
      disk.Puts (store.folder scope category / name) (.file content) next →
        store.Orderly scope next := by
    intro disk next horderly hputs
    have hnew := hputs.fileAt_file
    rw [hgoal] at hnew
    exact horderly.of_file hputs.grows (.inl rfl) hname hlists hnew
  refine ⟨horderly h.left ha, horderly h.right hb, ?_, ?_, ?_⟩
  · intro category' name' hlists'
    rw [ha.grows.goal, hb.grows.goal]
    by_cases hsame : scope.place category ++ [name] = scope.place category' ++ [name']
    · rw [← hsame, ← hgoal a, ← hgoal b, ha.get?_self, hb.get?_self]
    · have hlength : (scope.place category ++ [name]).length =
          (scope.place category' ++ [name']).length := by
        simp [Scope.place]
      have hbelow : ¬scope.place category ++ [name] <+: scope.place category' ++ [name'] :=
        fun hway => hsame (hway.eq_of_length hlength)
      have habove : ¬scope.place category' ++ [name'] <+: scope.place category ++ [name] :=
        fun hway => hsame (hway.eq_of_length hlength.symm).symm
      rw [ha.get?_apart (by rwa [hgoal, List.prefix_append_right_inj])
          (by rwa [hgoal, List.prefix_append_right_inj]),
        hb.get?_apart (by rwa [hgoal, List.prefix_append_right_inj])
          (by rwa [hgoal, List.prefix_append_right_inj])]
      exact h.entry category' name' hlists'
  · intro category' hcategory
    rw [ha.grows.goal, hb.grows.goal, ha.dirAt_file, hb.dirAt_file]
    exact h.dirAt_place category' hcategory
  · intro hlong front hfront
    rw [ha.grows.goal, hb.grows.goal, ha.dirAt_file, hb.dirAt_file]
    exact h.dirAt_keys hlong front hfront

/-- An operation that puts a file in a category, and is refused on both disks for the same reason,
keeps them alike. -/
theorem operates (operation : Disk → Except IoError Disk) {content : ByteArray}
    (hname : Path.IsName name) (hlists : category.Lists name)
    (hputs : ∀ {disk next : Disk}, operation disk = .ok next →
      disk.Puts (store.folder scope category / name) (.file content) next)
    (hrefused : ∀ cause, operation a = .error cause ↔ operation b = .error cause) :
    (∃ cause, operation a = .error cause ∧ operation b = .error cause) ∨
      ∃ next next', operation a = .ok next ∧ operation b = .ok next' ∧
        store.Alike scope next next' := by
  cases ha : operation a with
  | error cause => exact .inl ⟨cause, rfl, (hrefused cause).mp ha⟩
  | ok next =>
    cases hb : operation b with
    | error cause =>
      rw [(hrefused cause).mpr hb] at ha
      cases ha
    | ok next' => exact .inr ⟨next, next', rfl, rfl, h.puts hname hlists (hputs ha) (hputs hb)⟩

section Writes

variable (hdir : a.kind? (store.folder scope category) = some .directory)
  (hdir' : b.kind? (store.folder scope category) = some .directory)

include hdir hdir'

/-- A file is made on both disks, or on none for the same reason. -/
theorem create (hname : Path.IsName name) (hlists : category.Lists name) (content : ByteArray) :
    (∃ cause, a.create (store.folder scope category / name) content = .error cause ∧
        b.create (store.folder scope category / name) content = .error cause) ∨
      ∃ next next', a.create (store.folder scope category / name) content = .ok next ∧
        b.create (store.folder scope category / name) content = .ok next' ∧
        store.Alike scope next next' := by
  refine h.operates (fun disk => disk.create _ content) hname hlists
    (fun hmade => (create_eq_ok hmade).1) fun cause => ?_
  rw [create_join hdir hname, create_join hdir' hname, goal_entry, goal_entry,
    h.entry category name hlists]
  cases permit (store.folder scope category / name) name with
  | error refused => rfl
  | ok value =>
    rw [Except.bind, Except.bind]
    split <;> simp

/-- A file is replaced on both disks, or on none for the same reason. -/
theorem replace (hname : Path.IsName name) (hlists : category.Lists name) (content : ByteArray) :
    (∃ cause, a.replace (store.folder scope category / name) content = .error cause ∧
        b.replace (store.folder scope category / name) content = .error cause) ∨
      ∃ next next', a.replace (store.folder scope category / name) content = .ok next ∧
        b.replace (store.folder scope category / name) content = .ok next' ∧
        store.Alike scope next next' := by
  refine h.operates (fun disk => disk.replace _ content) hname hlists
    (fun hmade => (replace_eq_ok hmade).1) fun cause => ?_
  rw [replace_join hdir hname, replace_join hdir' hname, goal_entry, goal_entry,
    h.entry category name hlists]
  cases roomBeside (store.folder scope category / name) with
  | error refused => rfl
  | ok value =>
    cases permit (store.folder scope category / name) name with
    | error refused => rfl
    | ok value =>
      simp only [Except.bind]
      split <;> simp

/-- **Making a file once does the same on both disks.** -/
theorem createOnce (segment : Segment) (hlists : category.Lists segment.text)
    (content : ByteArray) :
    Together (store.Alike scope) a b
      (Store.createOnce (store.folder scope category) segment.text content) := by
  have ha := run_createOnce a (store.folder scope category) segment content
  have hb := run_createOnce b (store.folder scope category) segment content
  rcases h.create hdir hdir' segment.isName hlists content with
    ⟨cause, hcreate, hcreate'⟩ | ⟨next, next', hcreate, hcreate', halike⟩
  · rw [hcreate] at ha
    rw [hcreate'] at hb
    cases cause <;> exact ⟨by rw [ha, hb], by rw [ha, hb]; exact h⟩
  · rw [hcreate] at ha
    rw [hcreate'] at hb
    exact ⟨by rw [ha, hb], by rw [ha, hb]; exact halike⟩

end Writes

/-- **Storing an outline does the same on both disks.** -/
theorem storeOutline (hname : Path.IsName name) (text : String) :
    Together (store.Alike scope) a b
      (Store.storeOutline (store.outlinePath scope name) text) := by
  have ha := run_storeOutline a store scope hname text
  have hb := run_storeOutline b store scope hname text
  obtain ⟨hresult, halike⟩ := h.provideDir .outlines
  cases hprovide : a.run (Store.provideDir (store.outlineFolder scope)) with
  | mk result next =>
    cases hprovide' : b.run (Store.provideDir (store.outlineFolder scope)) with
    | mk result' next' =>
      rw [outlineFolder] at hprovide hprovide'
      rw [hprovide, hprovide'] at hresult halike
      rw [outlineFolder, hprovide] at ha
      rw [outlineFolder, hprovide'] at hb
      obtain rfl : result = result' := hresult
      cases result with
      | error error => exact ⟨by rw [ha, hb], by rw [ha, hb]; exact halike⟩
      | ok value =>
        have hdir := kind?_of_provideDir (isName_folderName .outlines) hprovide
        have hdir' := kind?_of_provideDir (isName_folderName .outlines) hprovide'
        have hlists := Category.lists_outline .outlines name
        rcases halike.replace hdir hdir' (isName_outline hname) hlists text.toUTF8 with
          ⟨cause, hreplace, hreplace'⟩ | ⟨last, last', hreplace, hreplace', hlast⟩
        · rw [outlinePath, outlineFolder] at ha hb
          simp only [hreplace] at ha
          simp only [hreplace'] at hb
          exact ⟨by rw [outlinePath, outlineFolder, ha, hb],
            by rw [outlinePath, outlineFolder, ha, hb]; exact halike⟩
        · rw [outlinePath, outlineFolder] at ha hb
          simp only [hreplace] at ha
          simp only [hreplace'] at hb
          exact ⟨by rw [outlinePath, outlineFolder, ha, hb],
            by rw [outlinePath, outlineFolder, ha, hb]; exact hlast⟩

end Alike

end Store

end DmlOutline
