import DmlOutline.Device
import DmlOutline.Proofs.DirectoriesMade
import DmlOutline.Proofs.StoreWrites

/-!
# Running actions on a device that fails

An operation on a device does what it does on the disk, or it fails where the device says so. A file
that was made and could not be completed is removed; only a refused removal leaves it. So what the
store writes is there completely, or the disk has the files that it had.

* `Device.Later` — a device after operations whose effect on the disk is known.
* `Device.Spares` — what a failure leaves of a disk; `Device.Strands` — a file that is not removed.

Principal results: `Device.obey_cases`: what an operation does; `Device.frame`,
`Device.provideDir_later`: what reading and making directories leave; `Device.createOnce_cases`,
`Device.replaceFile_cases`: what writing a file leaves.
-/

namespace DmlOutline.Device

open Disk Store

variable {α : Type} {device next last : Device} {path dir : Path} {name : String}
  {file : NewFile} {before content : ByteArray} {R : Disk → Disk → Prop}

/-! ## One operation -/

section

variable {operation : StateM Disk (Except IoError α)} {partway : Nat → Disk → Disk}

/-- **An operation does what it does on the disk, or a failure of the device is met.** -/
theorem obey_cases (operation : StateM Disk (Except IoError α)) (partway : Nat → Disk → Disk)
    (device : Device) :
    (∃ fault, some fault ∈ device.faults ∧ obey operation partway device =
        (.error fault.cause,
          ⟨partway fault.reach device.disk, device.faults.tail, device.removals⟩)) ∨
      obey operation partway device =
        ((operation device.disk).1,
          ⟨(operation device.disk).2, device.faults.tail, device.removals⟩) := by
  cases hfirst : device.faults.head?.join with
  | none =>
    right
    simp only [obey, hfirst]
  | some fault =>
    refine .inl ⟨fault, ?_, by simp only [obey, hfirst]⟩
    exact List.mem_of_mem_head? (Option.join_eq_some_iff.mp hfirst)

/-- An operation that was not refused was done as on the disk. -/
theorem ok_of_obey {a : α} (h : obey operation partway device = (.ok a, next)) :
    operation device.disk = (.ok a, next.disk) := by
  rcases obey_cases operation partway device with ⟨fault, -, hfault⟩ | hdone
  · rw [hfault] at h
    cases h
  · rw [hdone] at h
    obtain ⟨hresult, rfl⟩ := Prod.mk.inj h
    exact Prod.ext hresult rfl

/-- An operation takes its turn, and removals are left for new files. -/
theorem spent_of_obey {result : Except IoError α}
    (h : obey operation partway device = (result, next)) :
    next.faults <:+ device.faults ∧ next.removals = device.removals := by
  rcases obey_cases operation partway device with ⟨fault, -, hrun⟩ | hrun
  all_goals
    rw [hrun] at h
    obtain ⟨-, rfl⟩ := Prod.mk.inj h
    exact ⟨List.tail_suffix _, rfl⟩

end

/-! ## Failures that are met -/

/-- The next removal of a new file is refused. -/
def RefusesRemoval (device : Device) : Prop :=
  ∃ cause, device.removals.head? = some (some cause)

theorem RefusesRemoval.of_eq (h : next.RefusesRemoval) (hremovals : next.removals = device.removals) :
    device.RefusesRemoval := by
  rwa [RefusesRemoval, ← hremovals]

/-- A failure that a device was to meet, and that an error tells of. -/
structure Meets (device : Device) (fault : Fault) (error : Error) : Prop where
  mem : some fault ∈ device.faults
  told : error = .io fault.cause

theorem Meets.of_suffix {fault : Fault} {error : Error} (h : next.Meets fault error)
    (hfaults : next.faults <:+ device.faults) : device.Meets fault error :=
  ⟨hfaults.subset h.mem, h.told⟩

/-! ## Devices after operations -/

/-- A device after operations: what they made of the disk is known, and failures of other operations
are still to come. -/
structure Later (R : Disk → Disk → Prop) (device next : Device) : Prop where
  disk : R device.disk next.disk
  faults : next.faults <:+ device.faults
  removals : next.removals = device.removals

namespace Later

theorem refl (hrefl : ∀ disk, R disk disk) (device : Device) : Later R device device :=
  ⟨hrefl device.disk, List.suffix_refl _, rfl⟩

theorem trans (htrans : ∀ {a b c}, R a b → R b c → R a c) (h : Later R device next)
    (hnext : Later R next last) : Later R device last :=
  ⟨htrans h.disk hnext.disk, hnext.faults.trans h.faults, hnext.removals.trans h.removals⟩

theorem mono {S : Disk → Disk → Prop} (hsub : ∀ {a b}, R a b → S a b) (h : Later R device next) :
    Later S device next :=
  ⟨hsub h.disk, h.faults, h.removals⟩

end Later

theorem later_obey {operation : StateM Disk (Except IoError α)} {partway : Nat → Disk → Disk}
    (hdone : R device.disk (operation device.disk).2)
    (hpart : ∀ reach, R device.disk (partway reach device.disk)) :
    Later R device (obey operation partway device).2 := by
  rcases obey_cases operation partway device with ⟨fault, -, h⟩ | h
  · rw [h]
    exact ⟨hpart fault.reach, List.tail_suffix _, rfl⟩
  · rw [h]
    exact ⟨hdone, List.tail_suffix _, rfl⟩

/-- A device with the same disk. -/
abbrev Same (device next : Device) : Prop :=
  Later (fun disk changed => changed = disk) device next

theorem same_obey {operation : StateM Disk (Except IoError α)}
    (h : (operation device.disk).2 = device.disk) :
    Same device (obey operation untouched device).2 :=
  later_obey h fun _ => rfl

theorem run_kind? (device : Device) (path : Path) :
    (FileAccess.kind? path : StateM Device _) device =
      ((look path device).1.toOption.join, (look path device).2) := rfl

/-- Looking at files leaves the disk as it is. -/
theorem frame : Frame Same where
  refl := .refl fun _ => rfl
  trans h hnext := h.trans (fun hdisk hrest => hrest.trans hdisk) hnext
  kind? path state := by
    rw [run_kind?]
    exact same_obey rfl
  read _ _ := same_obey rfl
  fileNames _ _ := same_obey rfl

/-- What was found at a path is there. -/
theorem kind?_of_run {kind : EntryKind}
    (h : (FileAccess.kind? path : StateM Device _) device = (some kind, next)) :
    device.disk.kind? path = some kind := by
  rw [run_kind?] at h
  obtain ⟨hfound, -⟩ := Prod.mk.inj h
  cases hlook : look path device with
  | mk result looked =>
    rw [hlook] at hfound
    cases result with
    | error cause => cases hfound
    | ok found =>
      unfold look at hlook
      have hdone := ok_of_obey hlook
      obtain ⟨hresult, -⟩ := Prod.mk.inj hdone
      rw [Except.ok.inj hresult]
      exact hfound

/-! ## Directories -/

theorem Same.widens (h : Same device next) (path : Path) : Later (WidensTo path) device next := by
  refine h.mono ?_
  rintro _ _ rfl
  exact .refl path _

/-- **Providing a directory, whether it fails or not, makes nothing but directories on the way.** -/
theorem provideDir_later (path : Path) :
    Keeps (Later (WidensTo path)) (provideDir path : Action (StateM Device) Unit) := by
  refine .bind (fun h => h.trans .trans)
    (fun state => (frame.isDirectory path state).widens path) fun found => ?_
  cases found with
  | true => exact fun state => (frame.refl state).widens path
  | false =>
    exact .attempt _ fun state =>
      later_obey (makeFirst_widensTo state.disk (List.Subset.refl _)) fun missing =>
        makeFirst_widensTo state.disk (List.drop_subset _ _)

/-- A directory that was provided is there. -/
theorem kind?_of_provideDir (hname : Path.IsName name)
    (h : runFrom device (provideDir (path / name)) = (.ok (), next)) :
    next.disk.kind? (path / name) = some .directory := by
  rw [provideDir, runFrom_bind_eq_ok] at h
  obtain ⟨found, looked, hfound, h⟩ := h
  cases found with
  | true =>
    have hsame := ((frame.isDirectory _).of_run hfound).disk
    cases h
    rw [hsame]
    exact kind?_of_run (kind?_of_runFrom_isDirectory hfound)
  | false =>
    have hmade := ok_of_obey (ok_of_runFrom_attempt h)
    obtain ⟨hresult, hdisk⟩ := Prod.mk.inj hmade
    rw [← hdisk]
    exact kind?_of_makeDirs hresult (Path.text_join_ne_empty path hname)

/-! ## New files -/

variable {base : Disk}

/-- **A file is made where its name is free, or nothing changes.** -/
theorem create_cases {result : Except IoError NewFile}
    (h : (FileAccess.create path : StateM Device _) device = (result, next)) :
    match result with
    | .ok file => file = ⟨path⟩ ∧ device.disk.create path .empty = .ok next.disk
    | .error _ => next.disk = device.disk := by
  rcases obey_cases (FileAccess.create path) untouched device with ⟨fault, -, hrun⟩ | hrun
  · cases h.symm.trans hrun
    rfl
  · rw [run_create] at hrun
    cases hcreate : device.disk.create path .empty with
    | error cause =>
      rw [hcreate] at hrun
      cases h.symm.trans hrun
      rfl
    | ok made =>
      rw [hcreate] at hrun
      cases h.symm.trans hrun
      exact ⟨rfl, rfl⟩

/-- **A new file is filled, or a part of it is.** -/
theorem fill_cases (hholds : base.Holds file before device.disk) {result : Except IoError Unit}
    (h : (FileAccess.fill file content : StateM Device _) device = (result, next)) :
    match result with
    | .ok () => base.Holds file content next.disk
    | .error cause => ∃ fault, some fault ∈ device.faults ∧ cause = fault.cause ∧
        base.Holds file (content.extract 0 fault.reach) next.disk := by
  rcases obey_cases (FileAccess.fill file content) (filledPart file content) device with
    ⟨fault, hfault, hrun⟩ | hrun
  · obtain ⟨part, hpart, hparted⟩ := hholds.run_fill (content.extract 0 fault.reach)
    rw [filledPart, hpart] at hrun
    cases h.symm.trans hrun
    exact ⟨fault, hfault, rfl, hparted⟩
  · obtain ⟨filled, hfill, hfilled⟩ := hholds.run_fill content
    rw [hfill] at hrun
    cases h.symm.trans hrun
    exact hfilled

/-- A new file is removed, unless its removal is refused. -/
theorem discard_cases (hholds : base.Holds file content device.disk) :
    (discard file device).2.disk = base ∨
      device.RefusesRemoval ∧
        (discard file device).2.disk = device.disk := by
  cases hfirst : device.removals.head?.join with
  | none =>
    left
    simp only [discard, hfirst, hholds.run_remove]
  | some cause =>
    right
    refine ⟨⟨cause, Option.join_eq_some_iff.mp hfirst⟩, ?_⟩
    simp only [discard, hfirst]

/-! ## Writing files -/

/-- A completion that fails is followed by the removal of the new file. -/
theorem completeOrRemove_cases {completion : Action (StateM Device) Unit}
    {result : Except Error Unit}
    (h : runFrom device (completeOrRemove file completion) = (result, next)) :
    ∃ completed, runFrom device completion = (result, completed) ∧
      next = if result.isOk then completed else (discard file completed).2 := by
  rw [completeOrRemove, runFrom_bind, runFrom_settle] at h
  cases hrun : runFrom device completion with
  | mk outcome completed =>
    rw [hrun] at h
    cases outcome with
    | ok value =>
      cases h
      exact ⟨completed, rfl, rfl⟩
    | error error =>
      change runFrom completed (settle (attempt Error.io (FileAccess.remove file)) >>= _) = _ at h
      rw [runFrom_bind, runFrom_settle, runFrom_attempt] at h
      cases h
      exact ⟨completed, rfl, rfl⟩

/-- A device on which a new file stays that could not be completed, since its removal was refused.
But for it there are only more directories on the way to the one that it is in. -/
structure Strands (dir : Path) (device next : Device) : Prop where
  refused : device.RefusesRemoval
  stays : ∃ provided name held, WidensTo dir device.disk provided ∧ Path.IsName name ∧
    provided.Holds ⟨dir / name⟩ held next.disk

theorem Strands.after (h : Later (WidensTo dir) device next) (hstrands : Strands dir next last) :
    Strands dir device last := by
  obtain ⟨hrefused, provided, held, name, hwidens, hstays⟩ := hstrands
  exact ⟨hrefused.of_eq h.removals, provided, held, name, h.disk.trans hwidens, hstays⟩

/-- What a failure leaves: nothing is new but directories on the way to one. Where the removal of a
file that was not completed is refused, that file is new too. -/
def Spares (dir : Path) (device next : Device) : Prop :=
  WidensTo dir device.disk next.disk ∨ Strands dir device next

theorem Spares.after (h : Later (WidensTo dir) device next) (hspares : Spares dir next last) :
    Spares dir device last :=
  hspares.imp h.disk.trans (.after h)

/-- A new file is filled, or it is gone, unless its removal is refused. -/
theorem fillOrRemove_cases (hholds : base.Holds file before device.disk)
    {result : Except Error Unit}
    (h : runFrom device (completeOrRemove file (attempt .io (FileAccess.fill file content))) =
      (result, next)) :
    match result with
    | .ok () => next.faults <:+ device.faults ∧ base.Holds file content next.disk
    | .error error => next.disk = base ∨
        device.RefusesRemoval ∧
          ∃ fault, device.Meets fault error ∧
            base.Holds file (content.extract 0 fault.reach) next.disk := by
  obtain ⟨completed, hcompletion, rfl⟩ := completeOrRemove_cases h
  cases result with
  | ok value =>
    have hfill := ok_of_runFrom_attempt hcompletion
    exact ⟨(spent_of_obey hfill).1, fill_cases hholds hfill⟩
  | error error =>
    obtain ⟨cause, hfill, rfl⟩ := error_of_runFrom_attempt hcompletion
    obtain ⟨fault, hfault, rfl, hpart⟩ := fill_cases hholds hfill
    rcases discard_cases hpart with hgone | ⟨hrefused, hsame⟩
    · exact .inl hgone
    · rw [← hsame] at hpart
      exact .inr ⟨hrefused.of_eq (spent_of_obey hfill).2, fault, ⟨hfault, rfl⟩, hpart⟩

/-- **A file is made and filled, its name is taken, or nothing changes**, unless the removal of the
new file is refused. -/
theorem createOnce_cases {segment : Segment} {result : Except Error Creation}
    (h : runFrom device (createOnce dir segment.text content) = (result, next)) :
    match result with
    | .ok .created => next.faults <:+ device.faults ∧
        device.disk.create (dir / segment.text) content = .ok next.disk
    | .ok .alreadyExists => next.disk = device.disk
    | .error error => next.disk = device.disk ∨
        device.RefusesRemoval ∧
          ∃ fault, device.Meets fault error ∧
            device.disk.create (dir / segment.text) (content.extract 0 fault.reach) =
              .ok next.disk := by
  have hoperation : (unlessTaken <$> FileAccess.create (dir / segment.text) : StateM Device _)
      device = (unlessTaken ((FileAccess.create (dir / segment.text) : StateM Device _) device).1,
        ((FileAccess.create (dir / segment.text) : StateM Device _) device).2) := rfl
  rw [createOnce, runFrom_bind, runFrom_ofResult, ofFileName_text] at h
  simp only at h
  rw [runFrom_bind, runFrom_attempt, hoperation] at h
  cases hmade : (FileAccess.create (dir / segment.text) : StateM Device _) device with
  | mk outcome made =>
    have hcreate := create_cases hmade
    rw [hmade] at h
    cases outcome with
    | error cause =>
      cases cause with
      | alreadyExists =>
        cases h
        exact hcreate
      | _ =>
        cases h
        exact .inl hcreate
    | ok file =>
      obtain ⟨rfl, hcreate⟩ := hcreate
      change runFrom made (completeOrRemove ⟨dir / segment.text⟩ _ >>= _) = _ at h
      have hholds := holds_of_create hcreate
      cases result with
      | ok creation =>
        obtain ⟨value, completed, hcomplete, h⟩ := runFrom_bind_eq_ok.mp h
        obtain ⟨hfaults, hfilled⟩ := fillOrRemove_cases hholds hcomplete
        cases h
        exact ⟨hfaults.trans (spent_of_obey hmade).1, hfilled.create hcreate⟩
      | error error =>
        obtain hcomplete | ⟨value, completed, -, h⟩ := runFrom_bind_eq_error.mp h
        · rcases fillOrRemove_cases hholds hcomplete with
            hgone | ⟨hrefused, fault, hfault, hpart⟩
          · exact .inl hgone
          · have hspent := spent_of_obey hmade
            exact .inr ⟨hrefused.of_eq hspent.2, fault, hfault.of_suffix hspent.1,
              hpart.create hcreate⟩
        · cases h

/-- A device without files that is full after three bytes of a new one. -/
def fullAfterThree (removals : List (Option IoError)) : Device where
  disk := ⟨.directory [], []⟩
  faults := [none, some ⟨3, .other "No space left on device"⟩]
  removals := removals

/-- The part that was written stays only if its removal is refused. -/
example :
    let after (removals : List (Option IoError)) :=
      (runFrom (fullAfterThree removals) (createOnce ⟨"."⟩ "a.sql" "SELECT".toUTF8)).2.disk
    (after []).fileAt ["a.sql"] = none ∧
      (after [some .busy]).fileAt ["a.sql"] = some "SEL".toUTF8 := by
  decide +kernel

/-! ## Reading -/

/-- **A file is read as on the disk, or a failure of the device is met.** -/
theorem textOf_cases (device : Device) (store : Store) (path : Path) :
    (∃ fault, some fault ∈ device.faults ∧
        (runFrom device (store.textOf path)).1 = .error (.io fault.cause)) ∨
      (runFrom device (store.textOf path)).1 = (device.disk.run (store.textOf path)).1 := by
  have htext := run_textOf device.disk store path
  rw [htext, textOf, runFrom_bind, runFrom_attempt]
  rcases obey_cases (FileAccess.read path) untouched device with ⟨fault, hfault, hrun⟩ | hrun
  · refine .inl ⟨fault, hfault, ?_⟩
    have hread : (FileAccess.read path : StateM Device _) device = (.error fault.cause, _) := hrun
    rw [hread]
    rfl
  · right
    have hread : (FileAccess.read path : StateM Device _) device =
      (device.disk.read path, ⟨device.disk, device.faults.tail, device.removals⟩) := hrun
    rw [hread]
    cases device.disk.read path with
    | error cause => rfl
    | ok content =>
      simp only [Except.mapError]
      cases store.decoder.decode? content <;> rfl

/-- A text that was read is what the content of the file decodes to. -/
theorem textOf_eq_ok {store : Store} {text : String}
    (h : runFrom device (store.textOf path) = (.ok text, next)) :
    ∃ content, device.disk.read path = .ok content ∧ store.decoder.decode? content = some text := by
  rcases textOf_cases device store path with ⟨fault, -, hrun⟩ | hrun
  · rw [h] at hrun
    cases hrun
  · rw [h] at hrun
    exact (Store.textOf_eq_ok (Prod.ext hrun.symm (reads_textOf store path device.disk))).2

/-- A record is refused for what is on the disk, or for a failure on the way. -/
theorem recordOf_error {store : Store} {error : Error}
    (h : runFrom device (store.recordOf path) = (.error error, next)) :
    (∃ fault, device.Meets fault error) ∨
      (device.disk.run (store.recordOf path)).1 = .error error := by
  rw [recordOf] at h
  obtain htext | ⟨text, reached, -, h⟩ := runFrom_bind_eq_error.mp h
  · rcases textOf_cases device store path with ⟨fault, hfault, hrun⟩ | hrun
    · rw [htext] at hrun
      exact .inl ⟨fault, hfault, Except.error.inj hrun⟩
    · rw [htext] at hrun
      right
      rw [run_recordOf, ← hrun]
      rfl
  · cases h

end DmlOutline.Device
