import DmlOutline.Disk
import DmlOutline.Proofs.Runs

/-!
# Running actions on a disk

Runs whose state is a disk.

* `Disk.run` — the outcome of an action and the disk after it.
* `Disk.Reads` — actions that leave every disk as it is.
* `Disk.Agrees` — actions that read and give the same on two disks.

Principal results: `Disk.run_bind`, `Disk.run_bind_eq_ok`, `Disk.frame`, `Disk.Agrees.bind`.
-/

namespace DmlOutline.Disk

variable {ε α β : Type} {disk next last : Disk} {a : α} {b : β}

/-- The outcome of an action on a disk, and the disk after it. -/
def run (disk : Disk) (action : ExceptT ε (StateM Disk) α) : Except ε α × Disk :=
  runFrom disk action

/-- Results are compared as options, since errors need not be comparable. -/
theorem toOption_eq_some_iff {result : Except ε α} : result.toOption = some a ↔ result = .ok a := by
  cases result <;> simp [Except.toOption]

theorem run_eq_ok_of_toOption {action : ExceptT ε (StateM Disk) α}
    (h : (disk.run action).1.toOption = some a) :
    disk.run action = (.ok a, (disk.run action).2) :=
  Prod.ext (toOption_eq_some_iff.mp h) rfl

/-! ## Runs by the shape of actions -/

@[simp]
theorem run_pure (disk : Disk) (a : α) :
    disk.run (pure a : ExceptT ε (StateM Disk) α) = (.ok a, disk) := rfl

@[simp]
theorem run_throw (disk : Disk) (error : ε) :
    disk.run (throw error : ExceptT ε (StateM Disk) α) = (.error error, disk) := rfl

/-- **An action goes on where the one before it succeeded.** -/
theorem run_bind (disk : Disk) (action : ExceptT ε (StateM Disk) α)
    (more : α → ExceptT ε (StateM Disk) β) :
    disk.run (action >>= more) =
      match disk.run action with
      | (.ok a, next) => next.run (more a)
      | (.error error, next) => (.error error, next) := by
  unfold run
  rw [runFrom_bind]
  cases runFrom disk action with
  | mk result next => cases result <;> rfl

@[simp]
theorem run_ofResult (disk : Disk) (result : Except ε α) :
    disk.run (ofResult result) = (result, disk) := rfl

theorem run_attempt (disk : Disk) (wrap : IoError → ε)
    (operation : StateM Disk (Except IoError α)) :
    disk.run (attempt wrap operation) =
      ((operation disk).1.mapError wrap, (operation disk).2) :=
  runFrom_attempt disk wrap operation

theorem change_of_ok {operation : Disk → Except IoError Disk} (h : operation disk = .ok next) :
    change operation disk = (.ok (), next) := by
  rw [change, h]

theorem change_of_error {operation : Disk → Except IoError Disk} {cause : IoError}
    (h : operation disk = .error cause) : change operation disk = (.error cause, disk) := by
  rw [change, h]

theorem ok_of_change {operation : Disk → Except IoError Disk}
    (h : change operation disk = (.ok (), next)) : operation disk = .ok next := by
  cases hresult : operation disk with
  | error cause =>
    rw [change_of_error hresult] at h
    cases h
  | ok changed =>
    rw [change_of_ok hresult] at h
    cases h
    rfl

/-- An operation that was not a failure was not refused. -/
theorem ok_of_run_attempt {wrap : IoError → ε} {operation : StateM Disk (Except IoError α)}
    (h : disk.run (attempt wrap operation) = (.ok a, next)) : operation disk = (.ok a, next) :=
  ok_of_runFrom_attempt h

theorem run_settle (disk : Disk) (action : ExceptT ε (StateM Disk) α) :
    disk.run (settle action) = (.ok (disk.run action).1, (disk.run action).2) := rfl

/-- A failure that was settled is the failure of the action itself. -/
theorem run_of_settle {action : ExceptT ε (StateM Disk) α} {result : Except ε α}
    (h : disk.run (settle action) = (.ok result, next)) : disk.run action = (result, next) := by
  rw [run_settle] at h
  cases h
  rfl

@[simp]
theorem run_entryKind (disk : Disk) (path : Path) :
    disk.run (entryKind path : ExceptT ε (StateM Disk) _) = (.ok (disk.kind? path), disk) := rfl

@[simp]
theorem run_isFile (disk : Disk) (path : Path) :
    disk.run (isFile path : ExceptT ε (StateM Disk) Bool) =
      (.ok (disk.kind? path = some .file), disk) := rfl

@[simp]
theorem run_isDirectory (disk : Disk) (path : Path) :
    disk.run (isDirectory path : ExceptT ε (StateM Disk) Bool) =
      (.ok (disk.kind? path = some .directory), disk) := rfl

/-! ## Runs that succeed -/

variable {action : ExceptT ε (StateM Disk) α} {more : α → ExceptT ε (StateM Disk) β}

theorem run_bind_eq_ok :
    disk.run (action >>= more) = (.ok b, last) ↔
      ∃ a next, disk.run action = (.ok a, next) ∧ next.run (more a) = (.ok b, last) :=
  runFrom_bind_eq_ok

/-- What an action and those after it make of a disk, whether they succeed or not. -/
theorem run_bind_rel {R : Disk → Disk → Prop} (htrans : ∀ {a b c}, R a b → R b c → R a c)
    (haction : R disk (disk.run action).2)
    (hmore : ∀ a next, disk.run action = (.ok a, next) → R next (next.run (more a)).2) :
    R disk (disk.run (action >>= more)).2 :=
  runFrom_bind_rel htrans haction hmore

/-! ## Actions that read -/

/-- An action that leaves every disk as it is. -/
def Reads (action : ExceptT ε (StateM Disk) α) : Prop :=
  ∀ disk : Disk, (disk.run action).2 = disk

/-- Looking at files leaves a disk as it is. -/
theorem frame : Frame fun disk next : Disk => next = disk where
  refl _ := rfl
  trans h hnext := hnext.trans h
  kind? _ _ := rfl
  read _ _ := rfl
  fileNames _ _ := rfl

namespace Reads

theorem ofResult (result : Except ε α) : Reads (ofResult result : ExceptT ε (StateM Disk) α) :=
  frame.ofResult result

theorem isFile (path : Path) : Reads (isFile path : ExceptT ε (StateM Disk) Bool) :=
  frame.isFile path

theorem isDirectory (path : Path) : Reads (isDirectory path : ExceptT ε (StateM Disk) Bool) :=
  frame.isDirectory path

theorem settle (h : Reads action) :
    Reads (settle action : ExceptT ε (StateM Disk) (Except ε α)) :=
  h

/-- What an action that reads gives, when it succeeds, is given on the disk before. -/
theorem eq_of_ok (h : Reads action) (hrun : disk.run action = (.ok a, next)) : next = disk := by
  have := h disk
  rwa [hrun] at this

end Reads

/-! ## What a reading action depends on -/

/-- An action that reads and gives the same on two disks. -/
def Agrees (a b : Disk) (action : ExceptT ε (StateM Disk) α) : Prop :=
  ∃ result, a.run action = (result, a) ∧ b.run action = (result, b)

namespace Agrees

variable {a b : Disk}

theorem pure (value : α) : Agrees a b (pure value : ExceptT ε (StateM Disk) α) :=
  ⟨_, rfl, rfl⟩

theorem ofResult (result : Except ε α) :
    Agrees a b (ofResult result : ExceptT ε (StateM Disk) α) :=
  ⟨_, rfl, rfl⟩

theorem throw (error : ε) : Agrees a b (throw error : ExceptT ε (StateM Disk) α) :=
  ⟨_, rfl, rfl⟩

/-- **Actions in turn give the same when each does.** The later ones need to only for what the
earlier ones give. -/
theorem bind (h : Agrees a b action)
    (hmore : ∀ value, a.run action = (.ok value, a) → Agrees a b (more value)) :
    Agrees a b (action >>= more) := by
  obtain ⟨result, ha, hb⟩ := h
  cases result with
  | error error => exact ⟨.error error, by rw [run_bind, ha], by rw [run_bind, hb]⟩
  | ok value =>
    obtain ⟨result, hmorea, hmoreb⟩ := hmore value ha
    refine ⟨result, ?_, ?_⟩
    · rw [run_bind, ha]
      exact hmorea
    · rw [run_bind, hb]
      exact hmoreb

theorem result_eq (h : Agrees a b action) : (a.run action).1 = (b.run action).1 := by
  obtain ⟨result, ha, hb⟩ := h
  rw [ha, hb]

theorem read {path : Path} (wrap : IoError → ε) (h : a.read path = b.read path) :
    Agrees a b (attempt wrap (FileAccess.read path) : ExceptT ε (StateM Disk) ByteArray) := by
  refine ⟨_, run_attempt a wrap _, ?_⟩
  rw [run_attempt]
  change ((b.read path).mapError wrap, b) = ((a.read path).mapError wrap, b)
  rw [h]

theorem isFile {path : Path} (h : a.kind? path = b.kind? path) :
    Agrees a b (isFile path : ExceptT ε (StateM Disk) Bool) :=
  ⟨_, run_isFile a path, by rw [run_isFile, h]⟩

theorem isDirectory {path : Path}
    (h : a.kind? path = some .directory ↔ b.kind? path = some .directory) :
    Agrees a b (isDirectory path : ExceptT ε (StateM Disk) Bool) :=
  ⟨_, run_isDirectory a path, by rw [run_isDirectory, decide_eq_decide.mpr h]⟩

theorem settle (h : Agrees a b action) :
    Agrees a b (settle action : ExceptT ε (StateM Disk) (Except ε α)) := by
  obtain ⟨result, ha, hb⟩ := h
  exact ⟨.ok result, by rw [run_settle, ha], by rw [run_settle, hb]⟩

end Agrees

end DmlOutline.Disk
