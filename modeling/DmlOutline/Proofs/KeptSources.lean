import DmlOutline.Proofs.OutlinerChanges
import DmlOutline.Proofs.WaysBelow

/-!
# Sources that outlining keeps

Where the directory of outlines is there, to outline a source is to put one file into it, or to
leave the disk as it is. So whatever is outlined in a scope, each look at the sources of the scope
gives what the one before gave, and where an outline could be stored it still can.

* `Outliner.draft?` — what is to be stored when a source is outlined.
* `Store.Accepts` — names under which an outline can be stored.
* `Store.KeepsSources` — a disk that has the same directories and the same sources as another one,
  and no file less.

Principal results: `Outliner.outlineSource_cases`: what outlining a source does;
`Store.KeepsSources.agrees_findSource`, `Store.KeepsSources.accepts_iff`: what stays.
-/

namespace DmlOutline

open Disk

variable {disk next last : Disk} {name : String} {store : Store} {scope : Scope}
  {category : Category} {content : ByteArray}

/-! ## Where outlines can be stored -/

namespace Store

/-- A name under which an outline can be stored: there is room for a new file beside it, its path is
not refused, the name of the outline is not too long, and no directory is in its place. -/
structure Accepts (store : Store) (scope : Scope) (disk : Disk) (name : String) : Prop where
  room : roomBeside (store.outlinePath scope name) = .ok ()
  permitted : permit (store.outlinePath scope name) (FileName.base name ++ ".json") = .ok ()
  noDirectory : ¬disk.root.DirAt (disk.goal (store.outlinePath scope name))

/-- **An outline can be stored under the names that are accepted, whatever it says.** -/
theorem exists_replace_iff (hname : Path.IsName name)
    (hdir : disk.kind? (store.outlineFolder scope) = some .directory) (content : ByteArray) :
    (∃ next, disk.replace (store.outlinePath scope name) content = .ok next) ↔
      store.Accepts scope disk name := by
  have hplace := goal_outlinePath disk store scope hname
  have hreplace := replace_join hdir (isName_outline hname) content
  change disk.replace (store.outlinePath scope name) content =
    (roomBeside (store.outlinePath scope name)).bind fun _ =>
      (permit (store.outlinePath scope name) (FileName.base name ++ ".json")).bind _ at hreplace
  rw [hreplace, ← hplace]
  constructor
  · rintro ⟨next, hnext⟩
    cases hroom : roomBeside (store.outlinePath scope name) with
    | error cause => rw [hroom] at hnext; cases hnext
    | ok value =>
      cases hpermit : permit (store.outlinePath scope name) (FileName.base name ++ ".json") with
      | error cause => rw [hroom, hpermit] at hnext; cases hnext
      | ok value =>
        refine ⟨hroom, hpermit, ?_⟩
        rintro ⟨entries, hentries⟩
        rw [hroom, hpermit, hentries] at hnext
        cases hnext
  · rintro ⟨hroom, hpermit, hnot⟩
    rw [hroom, hpermit]
    simp only [Except.bind]
    split
    · rename_i entries hentries
      exact absurd ⟨entries, hentries⟩ hnot
    · exact ⟨_, rfl⟩

/-! ## Disks with the same sources -/

/-- A disk that has the same directories as another one and the same sources in a scope, and no file
less. -/
structure KeepsSources (store : Store) (scope : Scope) (disk next : Disk) : Prop where
  here_eq : next.here = disk.here
  dirAt_iff : ∀ place, next.root.DirAt place ↔ disk.root.DirAt place
  get?_source : ∀ category ∈ Category.sources, ∀ rest,
    next.root.get? (disk.goal (store.folder scope category) ++ rest) =
      disk.root.get? (disk.goal (store.folder scope category) ++ rest)
  fileAt_ne_none : ∀ place, disk.fileAt place ≠ none → next.fileAt place ≠ none

namespace KeepsSources

theorem refl (store : Store) (scope : Scope) (disk : Disk) : store.KeepsSources scope disk disk :=
  ⟨rfl, fun _ => Iff.rfl, fun _ _ _ => rfl, fun _ => id⟩

theorem grows (h : store.KeepsSources scope disk next) : disk.Grows next :=
  ⟨h.here_eq, fun place => (h.dirAt_iff place).mpr⟩

theorem trans (h : store.KeepsSources scope disk next)
    (hnext : store.KeepsSources scope next last) : store.KeepsSources scope disk last where
  here_eq := hnext.here_eq.trans h.here_eq
  dirAt_iff place := (hnext.dirAt_iff place).trans (h.dirAt_iff place)
  get?_source category hcategory rest := by
    have hlater := hnext.get?_source category hcategory rest
    rw [h.grows.goal] at hlater
    rw [hlater, h.get?_source category hcategory rest]
  fileAt_ne_none place hfile := hnext.fileAt_ne_none place (h.fileAt_ne_none place hfile)

/-- **Storing an outline keeps the sources.** Its place is in none of their directories. -/
theorem of_replace (hname : Path.IsName name)
    (h : disk.replace (store.outlinePath scope name) content = .ok next) :
    store.KeepsSources scope disk next := by
  obtain ⟨hputs, -⟩ := replace_eq_ok h
  refine ⟨hputs.grows.here_eq, hputs.dirAt_file, fun category hcategory rest => ?_,
    fun place hfile => ?_⟩
  · have hplace := goal_outlinePath disk store scope hname
    rw [outlineFolder, goal_folder, List.append_assoc] at hplace
    have hother : category.folderName ≠ Category.outlines.folderName := by
      revert hcategory
      cases category <;> decide
    rw [goal_folder, List.append_assoc]
    refine hputs.get?_apart ?_ ?_
    · rw [hplace, List.prefix_append_right_inj]
      intro hbegins
      exact hother (List.cons_prefix_cons.mp hbegins).1.symm
    · rw [hplace, List.prefix_append_right_inj]
      intro hbegins
      exact hother (List.cons_prefix_cons.mp hbegins).1
  · rw [hputs.fileAt_file]
    split
    · exact Option.some_ne_none content
    · exact hfile

/-- A file that can be read is followed by one that can be read. -/
theorem kind?_file {path : Path} (h : store.KeepsSources scope disk next)
    (hkind : disk.kind? path = some .file) : next.kind? path = some .file := by
  obtain ⟨held, hread⟩ := kind?_eq_file_iff.mp hkind
  obtain ⟨hlocate, hfile⟩ := read_eq_ok_iff.mp hread
  have hkept := h.fileAt_ne_none _ (hfile ▸ Option.some_ne_none held)
  obtain ⟨later, hlater⟩ := Option.ne_none_iff_exists'.mp hkept
  refine kind?_eq_file_iff.mpr ⟨later, read_eq_ok_iff.mpr ?_⟩
  rw [h.grows.goal]
  exact ⟨h.grows.locate hlocate, hlater⟩

theorem sourcesNamed (h : store.KeepsSources scope disk next)
    (hnamed : store.SourcesNamed scope disk) : store.SourcesNamed scope next := by
  intro category hcategory name held hfile
  rw [h.grows.goal, Disk.fileAt, FileTree.fileAt_congr (h.get?_source category hcategory [name])]
    at hfile
  exact hnamed category hcategory name held hfile

/-- The names under which an outline can be stored stay the same. -/
theorem accepts_iff (h : store.KeepsSources scope disk next) :
    store.Accepts scope next name ↔ store.Accepts scope disk name := by
  constructor
  · rintro ⟨hroom, hpermit, hnot⟩
    rw [h.grows.goal, h.dirAt_iff] at hnot
    exact ⟨hroom, hpermit, hnot⟩
  · rintro ⟨hroom, hpermit, hnot⟩
    refine ⟨hroom, hpermit, ?_⟩
    rw [h.grows.goal, h.dirAt_iff]
    exact hnot

section Found

variable (h : store.KeepsSources scope disk next)
  (hdir : disk.kind? (store.outlineFolder scope) = some .directory)

include h hdir

theorem find_folder (hcategory : category ∈ Category.sources) :
    next.find (store.folder scope category) = disk.find (store.folder scope category) ∧
      ∀ name, Path.IsName name → next.find (store.folder scope category / name) =
        disk.find (store.folder scope category / name) := by
  obtain ⟨hway, hroot⟩ := way_of_locate_join (isName_folderName .outlines)
    (kind?_eq_directory_iff.mp hdir).1
  refine h.grows.find_below (isName_folderName category) hway hroot fun rest => ?_
  have hsame := h.get?_source category hcategory rest
  rwa [goal_folder, List.append_assoc] at hsame

/-- **The same sources are found.** -/
theorem agrees_findSource (name : String) :
    Agrees disk next (store.findSource scope name) := by
  refine Store.agrees_findSource (fun category hcategory stored hstored => ?_)
    fun category hcategory => ?_
  · rw [kind?, kind?, (h.find_folder hdir hcategory).2 stored hstored]
  · rw [Disk.fileNames, Disk.fileNames, (h.find_folder hdir hcategory).1]

/-- **Sources are read as before.** -/
theorem read_source {source : Path} (hsource : store.IsSource scope name source) :
    next.read source = disk.read source := by
  obtain ⟨category, hcategory, stored, rfl, hstored, -⟩ := hsource
  unfold Disk.read
  rw [(h.find_folder hdir hcategory).2 stored hstored]

end Found

end KeepsSources

end Store

/-! ## What is stored -/

namespace Outliner

variable {outliner : Outliner}

/-- What is to be stored when a source is outlined: its outline as a text, if it can be read and has
an outline. -/
def draft? (outliner : Outliner) (disk : Disk) (source : Path) : Option ByteArray :=
  (disk.read source).toOption.bind fun content =>
    (outliner.outlineText? content).map String.toUTF8

/-- What is stored is written from the text of the source. -/
theorem draft?_eq_some_iff {source : Path} {bytes : ByteArray} :
    outliner.draft? disk source = some bytes ↔
      ∃ text tree, disk.run (outliner.store.textOf source) = (.ok text, disk) ∧
        outliner.frontEnd.parse text = .ok tree ∧ bytes = tree.outline.write.toUTF8 := by
  rw [draft?, Store.run_textOf]
  unfold outlineText?
  cases disk.read source with
  | error cause => simp [Except.toOption]
  | ok content =>
    cases hdecode : outliner.store.decoder.decode? content with
    | none => simp [Except.toOption, hdecode]
    | some text =>
      cases hparse : outliner.frontEnd.parse text with
      | error error => simp [Except.toOption, hdecode, hparse]
      | ok tree => simp [Except.toOption, hdecode, hparse, eq_comm]

/-- **Outlining a source stores its outline, if it has one and the name is accepted; else the disk
stays as it is, and that is told.** -/
theorem outlineSource_cases (hname : Path.IsName name)
    (hdir : disk.kind? (outliner.store.outlineFolder scope) = some .directory) (source : Path) :
    (∃ bytes next, outliner.draft? disk source = some bytes ∧
        disk.replace (outliner.store.outlinePath scope name) bytes = .ok next ∧
        (disk.run (outliner.outlineSource source
          (outliner.store.outlinePath scope name))).1.isOk = true ∧
        (disk.run (outliner.outlineSource source
          (outliner.store.outlinePath scope name))).2 = next) ∨
      (outliner.draft? disk source = none ∨ ¬outliner.store.Accepts scope disk name) ∧
        (disk.run (outliner.outlineSource source
          (outliner.store.outlinePath scope name))).1.isOk = false ∧
        (disk.run (outliner.outlineSource source
          (outliner.store.outlinePath scope name))).2 = disk := by
  rw [outlineSource, run_bind, Store.run_textOf]
  unfold draft? outlineText?
  cases hread : disk.read source with
  | error cause => exact .inr ⟨.inl rfl, rfl, rfl⟩
  | ok content =>
    simp only [Except.toOption, Option.bind_some]
    cases hdecode : outliner.store.decoder.decode? content with
    | none => exact .inr ⟨.inl rfl, rfl, rfl⟩
    | some text =>
      simp only [run_bind, run_ofResult]
      cases htree : outliner.frontEnd.parse text with
      | error error => exact .inr ⟨.inl rfl, rfl, rfl⟩
      | ok tree =>
        simp only [Store.run_storeOutline disk outliner.store scope hname,
          Store.run_provideDir_of_directory hdir]
        cases hreplace : disk.replace (outliner.store.outlinePath scope name)
            tree.outline.write.toUTF8 with
        | ok next => exact .inl ⟨_, next, rfl, hreplace, rfl, rfl⟩
        | error cause =>
          refine .inr ⟨.inr fun haccepts => ?_, rfl, rfl⟩
          obtain ⟨next, hnext⟩ := (Store.exists_replace_iff hname hdir _).mpr haccepts
          rw [hreplace] at hnext
          cases hnext

/-- Outlining a source keeps all sources. -/
theorem keepsSources_outlineSource (hname : Path.IsName name)
    (hdir : disk.kind? (outliner.store.outlineFolder scope) = some .directory) (source : Path) :
    outliner.store.KeepsSources scope disk
      (disk.run (outliner.outlineSource source (outliner.store.outlinePath scope name))).2 := by
  rcases outlineSource_cases hname hdir source with
    ⟨bytes, next, -, hreplace, -, hnext⟩ | ⟨-, -, hsame⟩
  · rw [hnext]
    exact .of_replace hname hreplace
  · rw [hsame]
    exact .refl _ _ _

end Outliner

end DmlOutline
