import DmlOutline.Proofs.CaselessNames
import DmlOutline.Proofs.IsolatedScopes

/-!
# Files of a scope

From an empty base directory on, requests in a scope leave its files in order. Every file can be
read by its path, and a `.sql` file is a source, in the directory that its name belongs in. So a
name tells where its `.sql` file is, and no two categories have one of the same name.

* `Store.Filed` — a disk on which the files of a scope are in order.
* `Store.SqlNames` — the names of the `.sql` files of a category, in order.
* `Store.TooLong` — a scope whose directories have keys or paths that are too long.

Principal results: `Store.Filed.change`: what one change keeps; `Outliner.filed_after`: what all
requests keep; `Store.Filed.run_sqlFilesIn`: what is listed.
-/

namespace DmlOutline

open Disk

namespace Store

variable {store : Store} {scope : Scope} {category : Category} {disk next : Disk} {name : String}
  {content : ByteArray}

/-! ## Files in order -/

/-- A disk on which the files of a scope are in order. -/
structure Filed (store : Store) (scope : Scope) (disk : Disk) : Prop
    extends Orderly store scope disk where
  /-- A file can be read by its path. -/
  readable : ∀ category name content,
    disk.fileAt (disk.goal (store.folder scope category) ++ [name]) = some content →
      disk.read (store.folder scope category / name) = .ok content
  /-- A `.sql` file is where its name belongs. -/
  routed : ∀ category name content,
    disk.fileAt (disk.goal (store.folder scope category) ++ [name]) = some content →
      FileName.isSql name = true → category = .ofName name

theorem Orderly.isName (h : store.Orderly scope disk)
    (hfile : disk.fileAt (disk.goal (store.folder scope category) ++ [name]) = some content) :
    Path.IsName name := by
  rw [goal_entry] at hfile
  exact (h.listed category name content hfile).1

namespace Filed

/-- More directories leave files in order. -/
theorem widens (h : store.Filed scope disk) (hwidens : disk.Widens next) :
    store.Filed scope next where
  toOrderly := h.toOrderly.widens hwidens
  readable category name content hfile := by
    rw [hwidens.goal, hwidens.fileAt] at hfile
    refine hwidens.toGrows.read (h.readable category name content hfile) ?_
    rw [goal_join disk _ (h.toOrderly.isName hfile), hwidens.fileAt, hfile]
  routed category name content hfile := by
    rw [hwidens.goal, hwidens.fileAt] at hfile
    exact h.routed category name content hfile

/-- A file that is put where its name belongs leaves files in order. -/
theorem of_puts (h : store.Filed scope disk) (horderly : store.Orderly scope next)
    (hname : Path.IsName name)
    (hputs : disk.Puts (store.folder scope category / name) (.file content) next)
    (hread : next.read (store.folder scope category / name) = .ok content)
    (hrouted : FileName.isSql name = true → category = .ofName name) :
    store.Filed scope next := by
  have hfiles : ∀ {category' name' content'},
      next.fileAt (next.goal (store.folder scope category') ++ [name']) = some content' →
        category' = category ∧ name' = name ∧ content' = content ∨
          disk.fileAt (disk.goal (store.folder scope category') ++ [name']) = some content' ∧
            next.fileAt (disk.goal (store.folder scope category') ++ [name']) = some content' := by
    intro category' name' content' hfile
    rw [hputs.grows.goal] at hfile
    have hbefore := hfile
    rw [hputs.fileAt_file, goal_join disk _ hname] at hbefore
    split at hbefore
    · rename_i hplace
      obtain ⟨rfl, rfl⟩ := folder_entry_inj hplace
      exact .inl ⟨rfl, rfl, (Option.some.inj hbefore).symm⟩
    · exact .inr ⟨hbefore, hfile⟩
  refine ⟨horderly, fun category' name' content' hfile => ?_,
    fun category' name' content' hfile hsql => ?_⟩
  · rcases hfiles hfile with ⟨rfl, rfl, rfl⟩ | ⟨hbefore, hlater⟩
    · exact hread
    · refine hputs.grows.read (h.readable category' name' content' hbefore) ?_
      rw [goal_join disk _ (h.toOrderly.isName hbefore), hlater]
  · rcases hfiles hfile with ⟨rfl, rfl, rfl⟩ | ⟨hbefore, -⟩
    · exact hrouted hsql
    · exact h.routed category' name' content' hbefore hsql

/-- **Requests in the scope leave its files in order.** A source is stored where its name belongs,
and an outline is no `.sql` file. -/
theorem change {outliner : Outliner} (h : outliner.store.Filed scope disk)
    (hchange : outliner.Change scope disk next) : outliner.store.Filed scope next := by
  have horderly := h.toOrderly.change hchange (.inl rfl)
  cases hchange with
  | provides category => exact h.widens (provideDir_widens disk _)
  | stores hname hcreate =>
    obtain ⟨hputs, -⟩ := create_eq_ok hcreate
    exact h.of_puts horderly hname hputs (read_of_create hcreate) fun _ => rfl
  | @outlines _ name _ _ _ hname _ _ _ hreplace =>
    obtain ⟨hputs, -⟩ := replace_eq_ok hreplace
    refine h.of_puts horderly (isName_outline hname) hputs (read_of_replace hreplace) ?_
    intro hsql
    rw [FileName.isSql_json] at hsql
    cases hsql

end Filed

/-! ## Names of `.sql` files -/

/-- The names of the `.sql` files of a category, in order and each once. -/
structure SqlNames (store : Store) (scope : Scope) (disk : Disk) (category : Category)
    (names : List String) : Prop where
  sorted : names.Pairwise (· < ·)
  mem_iff : ∀ name, name ∈ names ↔ FileName.isSql name = true ∧
    ∃ content, disk.fileAt (disk.goal (store.folder scope category) ++ [name]) = some content

theorem SqlNames.nodup {names : List String} (h : store.SqlNames scope disk category names) :
    names.Nodup :=
  h.sorted.imp fun hlt => by
    rintro rfl
    exact String.lt_irrefl _ hlt

/-- The tree that a category is listed from; an empty one stands for a directory that is missing. -/
def folderTree (store : Store) (scope : Scope) (disk : Disk) (category : Category) : FileTree :=
  (disk.root.get? (disk.goal (store.folder scope category))).getD (.directory [])

theorem fileAt_folderTree (store : Store) (scope : Scope) (disk : Disk) (category : Category)
    (name : String) : (store.folderTree scope disk category).fileAt [name] =
      disk.fileAt (disk.goal (store.folder scope category) ++ [name]) := by
  unfold folderTree Disk.fileAt FileTree.fileAt
  rw [FileTree.get?_append]
  cases disk.root.get? (disk.goal (store.folder scope category)) with
  | none => rfl
  | some found => rfl

/-- The `.sql` names of what a category is listed from. -/
def sqlListing (store : Store) (scope : Scope) (disk : Disk) (category : Category) : List String :=
  (store.folderTree scope disk category).fileNames.filter FileName.isSql

theorem sqlNames_sqlListing (store : Store) (scope : Scope) (disk : Disk) (category : Category) :
    store.SqlNames scope disk category (store.sqlListing scope disk category) where
  sorted := (FileTree.sorted_fileNames (store.folderTree scope disk category)).filter _
  mem_iff name := by
    rw [sqlListing, List.mem_filter, FileTree.mem_fileNames, and_comm]
    simp only [fileAt_folderTree]

/-! ## Listings -/

/-- A scope whose directories have keys or paths that are too long. -/
def TooLong (store : Store) (scope : Scope) : Prop :=
  ¬Fits scope.keys ∨ ∃ category, refuseText (store.folder scope category) = .error .nameTooLong

theorem nul_not_mem_of_kind? {path : Path} (h : disk.kind? path = some .directory) :
    '\x00' ∉ path.text.toList := by
  intro hnul
  have hlocate := (kind?_eq_directory_iff.mp h).1
  rw [locate, refuseText, if_pos hnul] at hlocate
  cases hlocate

theorem nul_not_mem_below {base : Path} {names : List String} (hbase : '\x00' ∉ base.text.toList)
    (hnames : ∀ name ∈ names, Path.IsName name ∧ '\x00' ∉ name.toList) :
    '\x00' ∉ (base.below names).text.toList := by
  induction names using List.reverseRecOn with
  | nil => exact hbase
  | append_singleton names name ih =>
    rw [List.forall_mem_append, List.forall_mem_singleton] at hnames
    obtain ⟨hfront, hname, hnul⟩ := hnames
    rw [Path.below_concat]
    intro hmem
    rcases Path.mem_of_mem_join hname.isRelative hmem with hmem | hslash | hmem
    · exact ih hfront hmem
    · exact absurd hslash (by decide)
    · exact hnul hmem

theorem nul_not_mem_place (scope : Scope) (category : Category) :
    ∀ name ∈ scope.place category, Path.IsName name ∧ '\x00' ∉ name.toList := by
  have hsegment : ∀ segment : Segment, '\x00' ∉ segment.text.toList := by
    intro segment hmem
    have hchecked := segment.2
    simp only [isSegment, Bool.and_eq_true, List.all_eq_true, bne_iff_ne] at hchecked
    exact (hchecked.2 _ hmem).2 rfl
  intro name hname
  refine ⟨scope.isName_of_mem_place category name hname, ?_⟩
  obtain ⟨session, project⟩ := scope
  simp only [Scope.place, Scope.keys, List.mem_append, List.mem_cons, Option.mem_toList,
    Option.map_eq_some_iff, List.not_mem_nil, or_false] at hname
  rcases hname with (rfl | ⟨key, -, rfl⟩) | rfl
  · exact hsegment session
  · exact hsegment key
  · cases category <;> decide

/-- The path of a category is refused only for its length. -/
theorem refuseText_folder (hbase : disk.kind? store.config.baseDir = some .directory)
    (scope : Scope) (category : Category) :
    refuseText (store.folder scope category) = .ok () ∨
      refuseText (store.folder scope category) = .error .nameTooLong := by
  have hbelow := nul_not_mem_below (nul_not_mem_of_kind? hbase) (nul_not_mem_place scope category)
  have hempty : (store.folder scope category).text ≠ "" :=
    Path.text_join_ne_empty _ (isName_folderName category)
  rw [← folder_eq_below] at hbelow
  rw [refuseText, if_neg hbelow, if_neg hempty]
  split
  · exact .inr rfl
  · exact .inl rfl

/-- **What is in a category is listed, unless the scope is too long.** -/
theorem Filed.names_listed (h : store.Filed scope disk) (category : Category) :
    namesOrNone (disk.fileNames (store.folder scope category)) =
        .ok (store.folderTree scope disk category).fileNames ∨
      namesOrNone (disk.fileNames (store.folder scope category)) = .error .nameTooLong ∧
        store.TooLong scope := by
  have hplace : disk.goal (store.folder scope category) =
      disk.goal store.config.baseDir ++ scope.place category := by
    rw [folder_eq_below, goal_below disk _ (scope.isName_of_mem_place category)]
  have hreached : ∀ name ∈ (store.folderTree scope disk category).fileNames,
      isReachable (store.folder scope category) name = true := by
    intro name hname
    obtain ⟨content, hfile⟩ := FileTree.mem_fileNames.mp hname
    rw [fileAt_folderTree] at hfile
    exact isReachable_of_read (h.toOrderly.isName hfile) (h.readable category name content hfile)
  rcases refuseText_folder h.base scope category with htext | htext
  · by_cases hfits : Fits scope.keys
    · refine .inl ((h.toOrderly.names_of_fits hfits htext).trans (congrArg Except.ok ?_))
      rw [← hplace]
      exact List.filter_eq_self.mpr hreached
    · obtain ⟨top, htop, hget, hclear⟩ := h.toOrderly.exists_base
      have hlong : ¬Fits (scope.place category) := mt (scope.fits_place_iff category).mp hfits
      have hfind := find_below htop (scope.isName_of_mem_place category)
        (scope.place_ne_nil category)
      rw [← folder_eq_below, htext, Except.bind] at hfind
      rw [Disk.fileNames, hfind]
      rcases (hclear category).descend_of_not_fits hlong with
        ⟨hmissing, front, hfront, -, hgone⟩ | ⟨hrefused, -⟩
      · have hnone := (hclear category).get?_eq_none fun hdir => hgone (hdir.above hfront)
        rw [hmissing, folderTree, hplace, hget, hnone, Option.getD_none, FileTree.fileNames_empty]
        exact .inl rfl
      · rw [hrefused]
        exact .inr ⟨rfl, .inl hfits⟩
  · refine .inr ⟨?_, .inr ⟨category, htext⟩⟩
    rw [Disk.fileNames, Disk.find, Disk.locate, htext]
    rfl

/-- The `.sql` files of a category are listed in the order of their names, unless the scope is too
long. -/
theorem Filed.run_sqlFilesIn (h : store.Filed scope disk) (category : Category) :
    disk.run (sqlFilesIn (store.folder scope category)) =
        (.ok ((store.sqlListing scope disk category).map (store.folder scope category / ·)), disk) ∨
      disk.run (sqlFilesIn (store.folder scope category)) = (.error (.io .nameTooLong), disk) ∧
        store.TooLong scope := by
  rw [sqlFilesIn, run_bind, run_filesIn]
  rcases h.names_listed category with hnames | ⟨hrefused, hlong⟩
  · have hsql : ∀ name ∈ (store.folderTree scope disk category).fileNames,
        nameSatisfies FileName.isSql (store.folder scope category / name) =
          FileName.isSql name := by
      intro name hname
      obtain ⟨content, hfile⟩ := FileTree.mem_fileNames.mp hname
      rw [fileAt_folderTree] at hfile
      rw [nameSatisfies, Path.fileName?_join _ (h.toOrderly.isName hfile), Option.any_some]
    rw [hnames]
    simp only [Except.mapError, Except.map, run_pure, List.filter_map]
    rw [sqlListing, ← List.filter_congr hsql]
    exact .inl rfl
  · rw [hrefused]
    exact .inr ⟨rfl, hlong⟩

end Store

/-! ## Requests -/

namespace Outliner

variable {outliner : Outliner} {scope : Scope} {disk next : Disk}

theorem after_append (disk : Disk) (earlier later : List Request) :
    outliner.after scope disk (earlier ++ later) =
      outliner.after scope (outliner.after scope disk earlier) later := by
  induction earlier generalizing disk with
  | nil => rfl
  | cons request rest ih => exact ih _

theorem Changes.filed (hchanges : Changes outliner scope disk next)
    (h : outliner.store.Filed scope disk) : outliner.store.Filed scope next := by
  induction hchanges with
  | refl => exact h
  | tail _ hchange ih => exact ih.change hchange

/-- In a base directory with nothing in it the files of a scope are in order. -/
theorem filed_of_empty (hempty : disk.find outliner.store.config.baseDir = .ok (.directory []))
    (scope : Scope) : outliner.store.Filed scope disk := by
  have hnone : ∀ category name,
      disk.fileAt (disk.goal (outliner.store.folder scope category) ++ [name]) = none := by
    intro category name
    have hscope := vacant_scopeRoot (vacant_of_find hempty) scope
    exact (hscope.join (Store.isName_folderName category)).fileAt name []
  refine ⟨orderly_of_empty hempty scope, fun category name content hfile => ?_,
    fun category name content hfile => ?_⟩
  · rw [hnone] at hfile
    cases hfile
  · rw [hnone] at hfile
    cases hfile

/-- **After all requests in a scope from an empty base directory on, its files are in order.** -/
theorem filed_after (hempty : disk.find outliner.store.config.baseDir = .ok (.directory []))
    (scope : Scope) (requests : List Request) :
    outliner.store.Filed scope (outliner.after scope disk requests) := by
  have hfiled := filed_of_empty hempty scope
  exact (changes_after hfiled.toOrderly.sourcesNamed requests).filed hfiled

end Outliner

end DmlOutline
