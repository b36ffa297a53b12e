import DmlOutline.Proofs.StoreReads
import DmlOutline.Proofs.NewFiles

/-!
# What the store writes

The store makes directories, makes files under names that are free, and replaces outlines. Each of
these either is one operation of the disk or changes no file.

* `Store.IsSource` — a file in a directory of sources that a name may stand for.

Principal results: `Store.provideDir_widens`, `Store.createOnce_cases`, `Store.run_storeOutline`:
what becomes of a disk; `Store.goal_outlinePath`, `Store.folder_entry_inj`: where files are.
-/

namespace DmlOutline

open Disk

variable {disk next : Disk} {path dir : Path} {name text : String} {content : ByteArray}

/-! ## Writing one thing -/

namespace Store

theorem run_provideDir (disk : Disk) (path : Path) :
    disk.run (provideDir path) =
      if disk.kind? path = some .directory then (.ok (), disk)
      else ((disk.makeDirs path).1.mapError (.directoryCreation path), (disk.makeDirs path).2) := by
  rw [provideDir, run_bind, run_isDirectory]
  by_cases hkind : disk.kind? path = some .directory
  · simp [hkind]
  · simp only [hkind, decide_false, Bool.false_eq_true, if_false]
    exact run_attempt disk _ _

/-- Providing a directory, whether it succeeds or not, changes no files. -/
theorem provideDir_widens (disk : Disk) (path : Path) :
    disk.Widens (disk.run (provideDir path)).2 := by
  rw [run_provideDir]
  split
  · exact .refl disk
  · exact makeDirs_widens disk path

theorem widens_of_provideDir {result : Except Error Unit}
    (h : disk.run (provideDir path) = (result, next)) : disk.Widens next := by
  have hwidens := provideDir_widens disk path
  rwa [h] at hwidens

theorem run_provideDir_of_directory (h : disk.kind? path = some .directory) :
    disk.run (provideDir path) = (.ok (), disk) := by
  rw [run_provideDir, if_pos h]

/-- **A directory that was provided is there.** -/
theorem kind?_of_provideDir (hname : Path.IsName name)
    (h : disk.run (provideDir (path / name)) = (.ok (), next)) :
    next.kind? (path / name) = some .directory := by
  rw [run_provideDir] at h
  split at h
  · rename_i hkind
    cases h
    exact hkind
  · obtain ⟨hmade, rfl⟩ := Prod.mk.inj h
    refine kind?_of_makeDirs ?_ (Path.text_join_ne_empty path hname)
    cases hresult : (disk.makeDirs (path / name)).1 with
    | error cause => rw [hresult] at hmade; cases hmade
    | ok value => rfl

/-- A file is made once, under a name, unless the name is taken or the disk refuses. -/
theorem run_createOnce (disk : Disk) (dir : Path) (segment : Segment) (content : ByteArray) :
    disk.run (createOnce dir segment.text content) =
      match disk.create (dir / segment.text) content with
      | .ok next => (.ok .created, next)
      | .error .alreadyExists => (.ok .alreadyExists, disk)
      | .error cause => (.error (.io cause), disk) := by
  have hoperation : (unlessTaken <$> FileAccess.create (dir / segment.text) : StateM Disk _) disk =
      (unlessTaken ((FileAccess.create (dir / segment.text) : StateM Disk _) disk).1,
        ((FileAccess.create (dir / segment.text) : StateM Disk _) disk).2) := rfl
  have hcontent := create_eq_map disk (dir / segment.text) content
  rw [createOnce, run_bind, run_ofResult, ofFileName_text]
  simp only [run_bind, run_attempt, hoperation, run_create]
  cases hmade : disk.create (dir / segment.text) .empty with
  | error cause =>
    rw [hmade] at hcontent
    simp only [hcontent]
    cases cause <;> rfl
  | ok made =>
    obtain ⟨filled, hfill, hholds⟩ := (holds_of_create hmade).run_fill content
    have hcompletion : made.run (attempt Error.io (FileAccess.fill ⟨dir / segment.text⟩ content)) =
        (.ok (), filled) := by
      rw [run_attempt, hfill]
      rfl
    have hrun := (run_completeOrRemove hholds).1 filled hcompletion
    simp only [unlessTaken, Except.mapError, run_bind, hrun, run_pure, hholds.create hmade]

/-- A file is made once, under a name, or nothing changes. -/
theorem createOnce_cases (disk : Disk) (dir : Path) (name : String) (content : ByteArray) :
    (disk.run (createOnce dir name content)).2 = disk ∨
      Path.IsName name ∧
        disk.create (dir / name) content = .ok (disk.run (createOnce dir name content)).2 := by
  cases hsegment : Segment.ofFileName name with
  | error error =>
    refine .inl ?_
    rw [createOnce, run_bind, run_ofResult, hsegment]
  | ok segment =>
    obtain rfl := text_of_ofFileName hsegment
    rw [run_createOnce]
    cases disk.create (dir / segment.text) content with
    | ok made => exact .inr ⟨segment.isName, rfl⟩
    | error cause => cases cause <;> exact .inl rfl

/-! ## Where things are written -/

theorem isName_folderName (category : Category) : Path.IsName category.folderName := by
  cases category <;> exact ⟨by decide, by decide, by decide, by decide⟩

theorem mem_of_mem_base {c : Char} (h : c ∈ (FileName.base name).toList) : c ∈ name.toList := by
  unfold FileName.base at h
  split at h
  · exact h
  · exact h
  · rename_i front hdot
    rw [String.toList_ofList, List.mem_reverse] at h
    have hmem : c ∈ FileName.fromLastDot name := by
      rw [hdot]
      exact List.mem_cons_of_mem _ h
    exact List.mem_reverse.mp ((List.dropWhile_suffix _).subset hmem)

theorem isName_outline (h : Path.IsName name) : Path.IsName (FileName.base name ++ ".json") := by
  have hlong : ∀ short : String, short.toList.length < 5 →
      FileName.base name ++ ".json" ≠ short := by
    rintro short hshort rfl
    rw [String.toList_append, List.length_append] at hshort
    have : ".json".toList.length = 5 := rfl
    omega
  refine ⟨hlong "" (by decide), hlong "." (by decide), hlong ".." (by decide), ?_⟩
  intro hmem
  rw [String.toList_append, List.mem_append] at hmem
  rcases hmem with hmem | hmem
  · exact h.no_slash (mem_of_mem_base hmem)
  · revert hmem
    decide

variable {store : Store} {scope : Scope}

theorem text_scopeRoot_ne_empty (store : Store) (scope : Scope) :
    (store.scopeRoot scope).text ≠ "" := by
  unfold scopeRoot Scope.dir
  cases scope.project with
  | none => exact Path.text_join_ne_empty _ scope.session.isName
  | some project => exact Path.text_join_ne_empty _ project.isName

theorem goal_folder (disk : Disk) (store : Store) (scope : Scope) (category : Category) :
    disk.goal (store.folder scope category) =
      disk.goal (store.scopeRoot scope) ++ [category.folderName] :=
  goal_join disk _ (isName_folderName category)

theorem goal_outlinePath (disk : Disk) (store : Store) (scope : Scope) (h : Path.IsName name) :
    disk.goal (store.outlinePath scope name) =
      disk.goal (store.outlineFolder scope) ++ [FileName.base name ++ ".json"] :=
  goal_join disk _ (isName_outline h)

theorem parent?_outlinePath (store : Store) (scope : Scope) (h : Path.IsName name) :
    (store.outlinePath scope name).parent? = some (store.outlineFolder scope) :=
  Path.parent?_join (store.scopeRoot scope) (isName_folderName .outlines) (isName_outline h)

/-- **Storing an outline provides its directory and replaces what is in its place.** -/
theorem run_storeOutline (disk : Disk) (store : Store) (scope : Scope) (h : Path.IsName name)
    (text : String) :
    disk.run (storeOutline (store.outlinePath scope name) text) =
      match disk.run (provideDir (store.outlineFolder scope)) with
      | (.error error, provided) => (.error error, provided)
      | (.ok (), provided) =>
        match provided.replace (store.outlinePath scope name) text.toUTF8 with
        | .ok next => (.ok (), next)
        | .error cause => (.error (.io cause), provided) := by
  unfold storeOutline
  rw [parent?_outlinePath store scope h]
  simp only [run_bind]
  cases hprovide : disk.run (provideDir (store.outlineFolder scope)) with
  | mk result provided =>
    cases result with
    | error error => rfl
    | ok value =>
      have hdir : provided.kind? (store.outlineFolder scope) = some .directory :=
        kind?_of_provideDir (isName_folderName .outlines) hprovide
      dsimp only
      refine (run_replaceFile hdir (parent?_outlinePath store scope h) text.toUTF8).trans ?_
      cases provided.replace (store.outlinePath scope name) text.toUTF8 <;> rfl

/-- An outline that was stored has replaced what was in its place. -/
theorem storeOutline_eq_ok (hname : Path.IsName name)
    (h : disk.run (storeOutline (store.outlinePath scope name) text) = (.ok (), next)) :
    ∃ provided, disk.run (provideDir (store.outlineFolder scope)) = (.ok (), provided) ∧
      provided.replace (store.outlinePath scope name) text.toUTF8 = .ok next := by
  rw [run_storeOutline disk store scope hname] at h
  cases hprovide : disk.run (provideDir (store.outlineFolder scope)) with
  | mk result provided =>
    rw [hprovide] at h
    cases result with
    | error error => cases h
    | ok value =>
      simp only at h
      cases hreplace : provided.replace (store.outlinePath scope name) text.toUTF8 with
      | error cause => rw [hreplace] at h; cases h
      | ok made =>
        rw [hreplace] at h
        cases h
        exact ⟨provided, rfl, hreplace⟩

/-- Two entries of the directories of scopes are the same only in the same category. -/
theorem folder_entry_inj {scope' : Scope} {category category' : Category} {name' : String}
    (h : disk.goal (store.folder scope category) ++ [name] =
      disk.goal (store.folder scope' category') ++ [name']) :
    category = category' ∧ name = name' := by
  obtain ⟨hplace, hname⟩ := List.append_inj' h rfl
  rw [goal_folder, goal_folder] at hplace
  have hfolder := List.head_eq_of_cons_eq (List.append_inj' hplace rfl).2
  refine ⟨?_, List.head_eq_of_cons_eq hname⟩
  cases category <;> cases category' <;> first | rfl | exact absurd hfolder (by decide)

/-- A file in a directory of sources that a name may stand for. -/
def IsSource (store : Store) (scope : Scope) (name : String) (path : Path) : Prop :=
  ∃ category ∈ Category.sources, ∃ stored, path = store.folder scope category / stored ∧
    Path.IsName stored ∧ sameName name stored = true

end Store

end DmlOutline
