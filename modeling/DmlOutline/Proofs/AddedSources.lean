import DmlOutline.Proofs.DeviceRuns
import DmlOutline.Proofs.OutlineCache

/-!
# Sources that are added

A source is stored before it is read back. So adding one can fail in two ways: before its file is
complete, or on a complete file that cannot be read. A file that is not complete is removed, unless
that is refused; a complete one stays, and with it the name is taken.

* `Store.sourcePath` — the place of a source that is added under a name.
* `Store.Leaves` — a new file under a name.
* `Store.Spoils` — a name under which there is now a file that cannot be read.

Principal results: `Store.run_add`: what adding a source does; `Store.add_error_keeps_files`: what a
failure leaves.
-/

namespace DmlOutline.Store

open Disk Device Outliner

variable {store : Store} {scope : Scope} {disk next : Disk} {name : String} {content : ByteArray}
  {error : Error}

/-- The place of a source that is added under a name. -/
def sourcePath (store : Store) (scope : Scope) (name : String) : Path :=
  store.folderFor scope (some name) / name

/-! ## One source -/

/-- **Adding a source provides its directory, makes its file unless the name is taken, and reads
what is there.** -/
theorem run_add (disk : Disk) (store : Store) (scope : Scope) (segment : Segment)
    (content : ByteArray) :
    disk.run (store.add scope segment.text content) =
      match disk.run (provideDir (store.folderFor scope (some segment.text))) with
      | (.error error, provided) => (.error error, provided)
      | (.ok (), provided) =>
        match provided.create (store.sourcePath scope segment.text) content with
        | .ok made => made.run (store.recordOf (store.sourcePath scope segment.text))
        | .error .alreadyExists =>
          provided.run (store.recordOf (store.sourcePath scope segment.text))
        | .error cause => (.error (.io cause), provided) := by
  rw [add, run_bind, run_ofResult, ofFileName_text]
  simp only [run_bind]
  cases disk.run (provideDir (store.folderFor scope (some segment.text))) with
  | mk result provided =>
    cases result with
    | error error => rfl
    | ok value =>
      simp only [run_createOnce, sourcePath]
      cases provided.create (store.folderFor scope (some segment.text) / segment.text) content with
      | ok made => rfl
      | error cause => cases cause <;> rfl

/-- Where there is a file in its directory, that is what adding a source reports. -/
theorem run_add_of_taken {segment : Segment} {held : ByteArray}
    (hdir : disk.kind? (store.folderFor scope (some segment.text)) = some .directory)
    (hread : disk.read (store.sourcePath scope segment.text) = .ok held) (content : ByteArray) :
    disk.run (store.add scope segment.text content) =
      disk.run (store.recordOf (store.sourcePath scope segment.text)) := by
  have hcreate : disk.create (store.sourcePath scope segment.text) content =
      .error .alreadyExists := create_of_read segment.isName hread content
  simp only [run_add, run_provideDir_of_directory hdir, hcreate]

/-! ## What a failure leaves -/

/-- A name that was free has a file now, and all other files are as they were. -/
structure Leaves (store : Store) (scope : Scope) (name : String) (held : ByteArray)
    (disk next : Disk) : Prop where
  free : disk.fileAt (disk.goal (store.sourcePath scope name)) = none
  stays : ∀ place, next.fileAt place =
    if place = disk.goal (store.sourcePath scope name) then some held else disk.fileAt place

/-- A name that was free has a file now that cannot be read. -/
structure Spoils (store : Store) (scope : Scope) (name : String) (content : ByteArray)
    (disk next : Disk) : Prop extends Leaves store scope name content disk next where
  undecodable : store.decoder.decode? content = none
  /-- Whatever is added under the name is refused, and nothing changes. -/
  blocked : ∀ later, next.run (store.add scope name later) =
    (.error (.undecodable (store.sourcePath scope name)), next)

variable {segment : Segment} {provided : Disk}

/-- A file that was made is left, if nothing but directories was made before it. -/
theorem leaves_of_create (hwidens : disk.Widens provided)
    (hcreate : provided.create (store.sourcePath scope name) content = .ok next) :
    store.Leaves scope name content disk next := by
  obtain ⟨hputs, hnone, -⟩ := create_eq_ok hcreate
  rw [hwidens.goal] at hnone
  refine ⟨?_, fun place => ?_⟩
  · rw [← hwidens.fileAt, Disk.fileAt, FileTree.fileAt, hnone]
  · rw [hputs.fileAt_file, hwidens.goal, hwidens.fileAt]

/-- What was stored and cannot be read spoils the name. -/
theorem spoils_of_create (hwidens : disk.Widens provided)
    (hdir : provided.kind? (store.folderFor scope (some segment.text)) = some .directory)
    (hcreate : provided.create (store.sourcePath scope segment.text) content = .ok next)
    (hdecode : store.decoder.decode? content = none) :
    store.Spoils scope segment.text content disk next := by
  obtain ⟨hputs, -, -⟩ := create_eq_ok hcreate
  have hread := read_of_create hcreate
  refine ⟨leaves_of_create hwidens hcreate, hdecode, fun later => ?_⟩
  rw [run_add_of_taken (hputs.grows.kind?_directory hdir) hread later]
  rw [run_recordOf_of_read hread, hdecode]

/-- What there may be after a source could not be added, but for directories. -/
inductive AddFailure (store : Store) (scope : Scope) (name : String) (content : ByteArray)
    (device next : Device) (error : Error) : Prop where
  /-- All files are as they were. -/
  | kept (h : ∀ place, next.disk.fileAt place = device.disk.fileAt place)
  /-- The file is complete, and no encoding reads it. -/
  | spoiled (h : store.Spoils scope name content device.disk next.disk)
      (herror : error = .undecodable (store.sourcePath scope name))
  /-- The file is complete, and the device fails to read it back. -/
  | unread (h : store.Leaves scope name content device.disk next.disk) (fault : Fault)
      (hfault : device.Meets fault error)
  /-- The file is not complete, and its removal is refused. -/
  | stranded (fault : Fault) (hfault : device.Meets fault error)
      (hrefused : device.RefusesRemoval)
      (h : store.Leaves scope name (content.extract 0 fault.reach) device.disk next.disk)

variable {device next : Device}

/-- **A source that could not be added leaves all files as they were, or a file under its name**:
one that was stored and cannot be read, or, where its removal is refused, a part of one. -/
theorem add_error_keeps_files
    (h : runFrom device (store.add scope name content) = (.error error, next)) :
    AddFailure store scope name content device next error := by
  cases hsegment : Segment.ofFileName name with
  | error invalid =>
    rw [add, runFrom_bind, runFrom_ofResult, hsegment] at h
    cases h
    exact .kept fun _ => rfl
  | ok segment =>
    obtain rfl := text_of_ofFileName hsegment
    rw [add, runFrom_bind, runFrom_ofResult, hsegment] at h
    obtain hprovide | ⟨_, provided, hprovide, h⟩ := runFrom_bind_eq_error.mp h
    · exact .kept ((provideDir_later _).of_run hprovide).disk.fileAt
    have hlater := (provideDir_later _).of_run hprovide
    have hwidens := hlater.disk.toWidens
    obtain hcreate | ⟨creation, made, hcreate, h⟩ := runFrom_bind_eq_error.mp h
    · -- the file is not complete
      rcases Device.createOnce_cases hcreate with hsame | ⟨hrefused, fault, hfault, hpart⟩
      · rw [← hsame] at hwidens
        exact .kept hwidens.fileAt
      · exact .stranded fault (hfault.of_suffix hlater.faults) (hrefused.of_eq hlater.removals)
          (leaves_of_create hwidens hpart)
    -- the file is there and is not read back
    have hsame := ((Device.frame.recordOf store _).of_run h).disk
    have hread := recordOf_error h
    have hmade := Device.createOnce_cases hcreate
    cases creation with
    | alreadyExists =>
      rw [← hmade, ← hsame] at hwidens
      exact .kept hwidens.fileAt
    | created =>
      obtain ⟨hfaults, hmade⟩ := hmade
      rw [run_recordOf_of_read (read_of_create hmade)] at hread
      rw [← hsame] at hmade
      rcases hread with ⟨fault, hfault⟩ | hrefused
      · exact .unread (leaves_of_create hwidens hmade) fault
          (hfault.of_suffix (hfaults.trans hlater.faults))
      · have hdir := Device.kind?_of_provideDir (isName_folderName _) hprovide
        cases hdecode : store.decoder.decode? content with
        | some text =>
          rw [hdecode] at hrefused
          cases hrefused
        | none =>
          rw [hdecode] at hrefused
          cases hrefused
          exact .spoiled (spoils_of_create hwidens hdir hmade hdecode) rfl

/-! ### A source that no encoding reads -/

/-- Bytes that are no text in UTF-8. -/
def strayByte : ByteArray := ⟨#[255]⟩

/-- The source is refused. -/
theorem add_error_keeps_files_stray : ∃ error next,
    runFrom (reliable emptyBase) (inBase.store.add plainScope "a.sql" strayByte) =
        (.error error, next) ∧
      AddFailure inBase.store plainScope "a.sql" strayByte (reliable emptyBase) next error := by
  have hrun : runFrom (reliable emptyBase) (inBase.store.add plainScope "a.sql" strayByte) =
      (.error (.undecodable ⟨"base/s/src/a.sql"⟩), _) := Prod.ext (by decide +kernel) rfl
  exact ⟨_, _, hrun, add_error_keeps_files hrun⟩

/-- **A source that could not be added can leave a file.** -/
theorem add_error_leaves_file :
    ¬ ∀ (store : Store) (scope : Scope) (name : String) (content : ByteArray) (disk next : Disk)
      (error : Error), disk.run (store.add scope name content) = (.error error, next) →
      ∀ place, next.fileAt place = disk.fileAt place := by
  intro hall
  have hkept := hall inBase.store plainScope "a.sql" strayByte emptyBase _
    (.undecodable ⟨"base/s/src/a.sql"⟩) (Prod.ext (by decide +kernel) rfl)
    ["base", "s", "src", "a.sql"]
  revert hkept
  decide +kernel

end DmlOutline.Store
