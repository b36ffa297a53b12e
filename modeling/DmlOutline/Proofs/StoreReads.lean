import DmlOutline.Proofs.DiskFiles
import DmlOutline.Proofs.DiskRuns
import DmlOutline.Store
import Mathlib.Data.List.Find

/-!
# What the store reads

Reading and searching leave a disk as it is. What they give is told from the files of the disk.

* `Store.outlineOf` — the outline that a file is read as.

Principal results: `Store.textOf_eq_ok`, `Store.run_loadOutline_of_read`, `Store.filesIn_eq_ok`,
`Store.findSource_eq_ok`: what is given; `Store.agrees_findSource`: what a search depends on.
-/

namespace DmlOutline.Store

open Disk

variable {store : Store} {scope : Scope} {disk next : Disk} {path dir : Path} {name : String}

/-! ## Texts -/

theorem run_textOf (disk : Disk) (store : Store) (path : Path) :
    disk.run (store.textOf path) =
      (match disk.read path with
        | .error cause => .error (.io cause)
        | .ok bytes =>
          match store.decoder.decode? bytes with
          | none => .error (.undecodable path)
          | some text => .ok text, disk) := by
  have hread : (FileAccess.read path : StateM Disk _) disk = (disk.read path, disk) := rfl
  rw [textOf, run_bind, run_attempt, hread]
  cases disk.read path with
  | error cause => rfl
  | ok bytes =>
    simp only [Except.mapError]
    cases store.decoder.decode? bytes <;> rfl

theorem reads_textOf (store : Store) (path : Path) :
    Reads (store.textOf path : Action (StateM Disk) String) :=
  frame.textOf store path

/-- **The text of a file is what its content decodes to.** -/
theorem textOf_eq_ok {text : String} (h : disk.run (store.textOf path) = (.ok text, next)) :
    next = disk ∧
      ∃ content, disk.read path = .ok content ∧ store.decoder.decode? content = some text := by
  have hnext := (reads_textOf store path).eq_of_ok h
  refine ⟨hnext, ?_⟩
  rw [run_textOf] at h
  obtain ⟨hresult, -⟩ := Prod.mk.inj h
  cases hread : disk.read path with
  | error cause => rw [hread] at hresult; cases hresult
  | ok content =>
    refine ⟨content, rfl, ?_⟩
    rw [hread] at hresult
    cases hdecode : store.decoder.decode? content with
    | none => simp only [hdecode] at hresult; cases hresult
    | some decoded => simp only [hdecode] at hresult; cases hresult; rfl

theorem run_recordOf (disk : Disk) (store : Store) (path : Path) :
    disk.run (store.recordOf path) =
      ((disk.run (store.textOf path)).1.map (.ofContent (path.fileName?.getD "")), disk) := by
  rw [recordOf, run_bind, run_textOf]
  cases disk.read path with
  | error cause => rfl
  | ok bytes =>
    simp only
    cases store.decoder.decode? bytes <;> rfl

theorem run_recordOf_of_read {content : ByteArray} (h : disk.read path = .ok content) :
    disk.run (store.recordOf path) =
      (match store.decoder.decode? content with
        | none => .error (.undecodable path)
        | some text => .ok (.ofContent (path.fileName?.getD "") text), disk) := by
  rw [run_recordOf, run_textOf, h]
  simp only
  cases store.decoder.decode? content <;> rfl

theorem reads_recordOf (store : Store) (path : Path) :
    Reads (store.recordOf path : Action (StateM Disk) SourceRecord) :=
  frame.recordOf store path

/-- The record of a file in a directory bears the name that the file has there, and its text. -/
theorem recordOf_eq_ok {record : SourceRecord} (hname : Path.IsName name)
    (h : disk.run (store.recordOf (dir / name)) = (.ok record, next)) :
    next = disk ∧ ∃ text, disk.run (store.textOf (dir / name)) = (.ok text, disk) ∧
      record = .ofContent name text := by
  rw [run_recordOf, Path.fileName?_join _ hname] at h
  obtain ⟨hresult, rfl⟩ := Prod.mk.inj h
  cases htext : (disk.run (store.textOf (dir / name))).1 with
  | error error => rw [htext] at hresult; cases hresult
  | ok text =>
    rw [htext] at hresult
    cases hresult
    exact ⟨rfl, text, Prod.ext htext (reads_textOf store _ disk), rfl⟩

/-! ## Outlines -/

/-- The outline that the content of a file is read as. -/
def outlineOf (content : ByteArray) : Except Error Outline :=
  match String.fromUTF8? content with
  | none => .error (.io .notUtf8)
  | some text =>
    match Outline.read? text with
    | none => .error .json
    | some outline => .ok outline

/-- The content of an outline that was stored is read as its text is. -/
theorem outlineOf_toUTF8 (text : String) :
    outlineOf text.toUTF8 =
      match Outline.read? text with
      | none => .error .json
      | some outline => .ok outline := by
  have hdecode : String.fromUTF8? text.toUTF8 = some text := dif_pos text.isValidUTF8
  simp only [outlineOf, hdecode]

/-- **What is loaded is what the file in the place of the outline is read as.** -/
theorem run_loadOutline_of_read {content : ByteArray}
    (h : disk.read (store.outlinePath scope name) = .ok content) :
    disk.run (store.loadOutline scope name) = ((outlineOf content).map some, disk) := by
  have hkind := kind?_eq_file_iff.mpr ⟨content, h⟩
  have hread : (FileAccess.read (store.outlinePath scope name) : StateM Disk _) disk =
      (disk.read (store.outlinePath scope name), disk) := rfl
  rw [loadOutline, run_bind, run_isFile]
  simp only [hkind, decide_true, if_true, run_bind, run_attempt, hread, h, Except.mapError,
    outlineOf]
  cases String.fromUTF8? content with
  | none => rfl
  | some text =>
    simp only
    cases Outline.read? text <;> rfl

/-! ## Directories -/

theorem run_filesIn (disk : Disk) (dir : Path) :
    disk.run (filesIn dir) =
      (((namesOrNone (disk.fileNames dir)).mapError Error.io).map fun names =>
        names.map (dir / ·), disk) := by
  have hnames : (namesOrNone <$> FileAccess.fileNames dir : StateM Disk _) disk =
    (namesOrNone (disk.fileNames dir), disk) := rfl
  rw [filesIn, run_bind, run_attempt, hnames]
  cases (namesOrNone (disk.fileNames dir)).mapError Error.io <;> rfl

theorem reads_filesIn (dir : Path) : Reads (filesIn dir : Action (StateM Disk) (List Path)) :=
  frame.filesIn dir

theorem fileAt_of_mem_fileNames {names : List String} (h : disk.fileNames dir = .ok names)
    (hname : name ∈ names) : ∃ content, disk.fileAt (disk.goal dir ++ [name]) = some content := by
  unfold Disk.fileNames at h
  split at h
  · cases h
  · cases h
  · rename_i entries hfind
    cases h
    obtain ⟨-, hdir⟩ := find_eq_ok_iff.mp hfind
    have hfile := (List.mem_filter.mp (List.mem_filter.mp hname).1).2
    cases hget : (FileTree.directory entries).get? [name] with
    | none => rw [hget] at hfile; cases hfile
    | some found =>
      rw [hget] at hfile
      cases found with
      | directory below => cases hfile
      | file content =>
        refine ⟨content, FileTree.fileAt_eq_some_iff.mpr ?_⟩
        rw [FileTree.get?_append, hdir, Option.bind_some, hget]

/-- The files in a directory are names below it. -/
theorem filesIn_eq_ok {paths : List Path} (h : disk.run (filesIn dir) = (.ok paths, next)) :
    next = disk ∧ ∀ path ∈ paths, ∃ name content,
      path = dir / name ∧ disk.fileAt (disk.goal dir ++ [name]) = some content := by
  rw [run_filesIn] at h
  obtain ⟨hresult, rfl⟩ := Prod.mk.inj h
  refine ⟨rfl, ?_⟩
  intro path hpath
  cases hnames : disk.fileNames dir with
  | ok names =>
    rw [hnames] at hresult
    cases hresult
    obtain ⟨name, hname, rfl⟩ := List.mem_map.mp hpath
    obtain ⟨content, hcontent⟩ := fileAt_of_mem_fileNames hnames hname
    exact ⟨name, content, rfl, hcontent⟩
  | error cause =>
    rw [hnames] at hresult
    cases cause <;> cases hresult
    cases hpath

theorem sqlFilesIn_eq_ok {paths : List Path} (h : disk.run (sqlFilesIn dir) = (.ok paths, next)) :
    next = disk ∧ ∀ path ∈ paths, ∃ name content,
      path = dir / name ∧ disk.fileAt (disk.goal dir ++ [name]) = some content := by
  rw [sqlFilesIn, run_bind_eq_ok] at h
  obtain ⟨files, reached, hfiles, hsql⟩ := h
  obtain ⟨rfl, hall⟩ := filesIn_eq_ok hfiles
  cases hsql
  exact ⟨rfl, fun path hpath => hall path (List.mem_filter.mp hpath).1⟩

theorem reads_sqlFilesIn (dir : Path) :
    Reads (sqlFilesIn dir : Action (StateM Disk) (List Path)) :=
  frame.sqlFilesIn dir

/-! ## Searches -/

theorem run_firstFile (disk : Disk) (paths : List Path) :
    disk.run (firstFile paths) =
      (.ok (paths.find? fun path => disk.kind? path = some .file), disk) := by
  induction paths with
  | nil => rfl
  | cons path rest ih =>
    rw [firstFile, run_bind, run_isFile]
    by_cases hfile : disk.kind? path = some .file
    · simp [hfile]
    · simp only [hfile, decide_false, Bool.false_eq_true, if_false, List.find?_cons]
      exact ih

theorem run_findAnyCase (disk : Disk) (dir : Path) (name : String) :
    disk.run (findAnyCase dir name) =
      ((disk.run (filesIn dir)).1.map fun paths => paths.find? (nameSatisfies (sameName name)),
        disk) := by
  rw [findAnyCase, run_bind]
  have hreads := reads_filesIn dir disk
  cases hrun : disk.run (filesIn dir) with
  | mk result reached =>
    rw [hrun] at hreads
    obtain rfl : reached = disk := hreads
    cases result <;> rfl

theorem reads_findSource (store : Store) (scope : Scope) (name : String) :
    Reads (store.findSource scope name : Action (StateM Disk) (Option Path)) :=
  frame.findSource store scope name

theorem reads_declaring (store : Store) (scope : Scope) (unitName : String) :
    Reads (store.declaring scope unitName : Action (StateM Disk) (List SourceRecord)) :=
  frame.declaring store scope unitName

theorem reads_loadOutline (store : Store) (scope : Scope) (name : String) :
    Reads (store.loadOutline scope name : Action (StateM Disk) (Option Outline)) :=
  frame.loadOutline store scope name

/-- A file that is found without regard to case is in one of the directories. -/
theorem firstAnyCase_eq_some {dirs : List Path}
    (h : disk.run (firstAnyCase name dirs) = (.ok (some path), next)) :
    ∃ dir ∈ dirs, ∃ stored content, path = dir / stored ∧
      disk.fileAt (disk.goal dir ++ [stored]) = some content ∧
      nameSatisfies (sameName name) path = true := by
  induction dirs with
  | nil => cases h
  | cons dir rest ih =>
    rw [firstAnyCase, run_bind, run_findAnyCase] at h
    cases hfiles : (disk.run (filesIn dir)).1 with
    | error error => rw [hfiles] at h; cases h
    | ok paths =>
      rw [hfiles] at h
      cases hfind : paths.find? (nameSatisfies (sameName name)) with
      | none =>
        simp only [Except.map, hfind] at h
        obtain ⟨other, hmem, hother⟩ := ih h
        exact ⟨other, List.mem_cons_of_mem dir hmem, hother⟩
      | some found =>
        simp only [Except.map, hfind] at h
        cases h
        obtain ⟨-, hall⟩ := filesIn_eq_ok (Prod.ext hfiles rfl)
        obtain ⟨stored, content, hpath, hstored⟩ := hall path (List.mem_of_find?_eq_some hfind)
        exact ⟨dir, List.mem_cons_self, stored, content, hpath, hstored,
          List.find?_some hfind⟩

/-- The files in the directories of sources bear names. -/
def SourcesNamed (store : Store) (scope : Scope) (disk : Disk) : Prop :=
  ∀ category ∈ Category.sources, ∀ name content,
    disk.fileAt (disk.goal (store.folder scope category) ++ [name]) = some content →
      Path.IsName name

/-- More directories leave sources as they are named. -/
theorem SourcesNamed.widens (h : store.SourcesNamed scope disk) (hwidens : disk.Widens next) :
    store.SourcesNamed scope next := by
  intro category hcategory name content hfile
  rw [hwidens.goal, hwidens.fileAt] at hfile
  exact h category hcategory name content hfile

theorem text_of_ofFileName {segment : Segment} (h : Segment.ofFileName name = .ok segment) :
    segment.text = name := by
  unfold Segment.ofFileName at h
  split at h
  · rename_i found hfound
    cases h
    exact Segment.text_of_ofText? hfound
  · cases h

theorem ofFileName_text (segment : Segment) :
    Segment.ofFileName segment.text = .ok segment := by
  have htext : Segment.ofText? segment.text = some segment := dif_pos segment.2
  rw [Segment.ofFileName, htext]

theorem isSegment_of_ofFileName {segment : Segment} (h : Segment.ofFileName name = .ok segment) :
    isSegment name = true := by
  rw [← text_of_ofFileName h]
  exact segment.2

/-- Sources are searched under checked names only. -/
theorem isSegment_of_findSource {σ : Type} [FileAccess (StateM σ)] {state next : σ}
    {found : Option Path}
    (h : runFrom state (store.findSource scope name) = (.ok found, next)) :
    isSegment name = true := by
  rw [findSource, runFrom_bind_eq_ok] at h
  obtain ⟨segment, reached, hresult, -⟩ := h
  exact isSegment_of_ofFileName (Prod.mk.inj hresult).1

theorem isName_of_findSource {σ : Type} [FileAccess (StateM σ)] {state next : σ}
    {found : Option Path}
    (h : runFrom state (store.findSource scope name) = (.ok found, next)) : Path.IsName name :=
  Path.isName_of_isSegment (isSegment_of_findSource h)

/-- **A source that is found is a file in a directory of sources, and its name is the one that was
asked for, but for case.** -/
theorem findSource_eq_ok (hnamed : store.SourcesNamed scope disk)
    (h : disk.run (store.findSource scope name) = (.ok (some path), next)) :
    next = disk ∧ Path.IsName name ∧ ∃ category ∈ Category.sources, ∃ stored content,
      path = store.folder scope category / stored ∧ Path.IsName stored ∧
        disk.fileAt (disk.goal (store.folder scope category) ++ [stored]) = some content ∧
        sameName name stored = true := by
  refine ⟨(reads_findSource store scope name).eq_of_ok h, ?_⟩
  rw [findSource, run_bind_eq_ok] at h
  obtain ⟨segment, reached, hresult, h⟩ := h
  obtain ⟨hsegment, rfl⟩ := Prod.mk.inj hresult
  obtain rfl := text_of_ofFileName hsegment
  refine ⟨segment.isName, ?_⟩
  rw [run_bind, run_firstFile] at h
  cases hfirst : ((Category.sources.map (store.folder scope)).map (· / segment.text)).find?
      fun path => disk.kind? path = some .file with
  | some found =>
    rw [hfirst] at h
    cases h
    have hmem := List.mem_of_find?_eq_some hfirst
    obtain ⟨dir, hdir, rfl⟩ := List.mem_map.mp hmem
    obtain ⟨category, hcategory, rfl⟩ := List.mem_map.mp hdir
    have hkind : disk.kind? (store.folder scope category / segment.text) = some .file := by
      simpa using List.find?_some hfirst
    obtain ⟨content, hread⟩ := kind?_eq_file_iff.mp hkind
    have hfile := (read_eq_ok_iff.mp hread).2
    rw [goal_join disk _ segment.isName] at hfile
    exact ⟨category, hcategory, segment.text, content, rfl, segment.isName, hfile,
      by simp [sameName]⟩
  | none =>
    rw [hfirst] at h
    obtain ⟨dir, hdir, stored, content, rfl, hfile, hsame⟩ := firstAnyCase_eq_some h
    obtain ⟨category, hcategory, rfl⟩ := List.mem_map.mp hdir
    have hstored := hnamed category hcategory stored content hfile
    rw [nameSatisfies, Path.fileName?_join _ hstored] at hsame
    exact ⟨category, hcategory, stored, content, rfl, hstored, hfile, by simpa using hsame⟩

/-! ## What reading depends on -/

section Agrees

variable {a b : Disk} {paths dirs : List Path}

theorem agrees_textOf (h : a.read path = b.read path) : Agrees a b (store.textOf path) :=
  ⟨_, run_textOf a store path, by rw [run_textOf, h]⟩

theorem agrees_recordOf (h : a.read path = b.read path) : Agrees a b (store.recordOf path) :=
  .bind (agrees_textOf h) fun _ _ => .pure _

theorem agrees_filesIn (h : namesOrNone (a.fileNames dir) = namesOrNone (b.fileNames dir)) :
    Agrees a b (filesIn dir) :=
  ⟨_, run_filesIn a dir, by rw [run_filesIn, h]⟩

theorem agrees_sqlFilesIn (h : namesOrNone (a.fileNames dir) = namesOrNone (b.fileNames dir)) :
    Agrees a b (sqlFilesIn dir) :=
  .bind (agrees_filesIn h) fun _ _ => .pure _

theorem agrees_firstFile (h : ∀ path ∈ paths, a.kind? path = b.kind? path) :
    Agrees a b (firstFile paths) := by
  have hfind : paths.find? (fun path => decide (a.kind? path = some .file)) =
      paths.find? (fun path => decide (b.kind? path = some .file)) :=
    List.find?_congr fun path hpath => by rw [h path hpath]
  exact ⟨_, run_firstFile a paths, by rw [run_firstFile, hfind]⟩

theorem agrees_firstAnyCase
    (h : ∀ dir ∈ dirs, namesOrNone (a.fileNames dir) = namesOrNone (b.fileNames dir)) :
    Agrees a b (firstAnyCase name dirs) := by
  induction dirs with
  | nil => exact .pure _
  | cons dir rest ih =>
    have hdir := agrees_filesIn (h dir List.mem_cons_self)
    refine .bind (.bind hdir fun _ _ => .pure _) ?_
    intro found _
    cases found with
    | some path => exact .pure _
    | none => exact ih fun other hother => h other (List.mem_cons_of_mem dir hother)

/-- **A search depends on what the directories of sources hold, and on nothing else.** -/
theorem agrees_findSource
    (hkinds : ∀ category ∈ Category.sources, ∀ name, Path.IsName name →
      a.kind? (store.folder scope category / name) = b.kind? (store.folder scope category / name))
    (hnames : ∀ category ∈ Category.sources,
      namesOrNone (a.fileNames (store.folder scope category)) =
        namesOrNone (b.fileNames (store.folder scope category))) :
    Agrees a b (store.findSource scope name) := by
  refine .bind (.ofResult _) ?_
  intro segment _
  refine .bind (agrees_firstFile fun path hpath => ?_) ?_
  · obtain ⟨dir, hdir, rfl⟩ := List.mem_map.mp hpath
    obtain ⟨category, hcategory, rfl⟩ := List.mem_map.mp hdir
    exact hkinds category hcategory _ segment.isName
  · intro found _
    cases found with
    | some path => exact .pure _
    | none =>
      refine agrees_firstAnyCase fun dir hdir => ?_
      obtain ⟨category, hcategory, rfl⟩ := List.mem_map.mp hdir
      exact hnames category hcategory

end Agrees

end DmlOutline.Store
