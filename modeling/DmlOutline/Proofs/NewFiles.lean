import DmlOutline.Proofs.DiskFiles
import DmlOutline.Proofs.DiskRuns
import DmlOutline.Store
import DmlOutline.Text.Digits
import Mathlib.Data.List.NodupEquivFin

/-!
# Files that were just made

A file is made empty, under a name that was free, and written then. As long as it is only a new file
on the disk, taking it away gives the disk before. A file that must be complete or not there at all
is made under a name of its own and moved when it is complete. Seen from outside, this is one step:
the file is in its place, or the disk is what it was.

* `Disk.Holds` — a disk that differs from another one by a new file.

Principal results: `Disk.run_createTemp`, `Disk.holds_of_create`: where new files are;
`Store.run_replaceFile`: a run of the operations is `Disk.replace` or nothing.
-/

namespace DmlOutline

open FileTree

variable {disk next made filled : Disk} {path dir : Path} {name : String} {file : NewFile}
  {content before : ByteArray}

namespace Disk

/-! ## A name that is not taken -/

theorem tempName_injective : Function.Injective tempName := by
  intro m n h
  have hdigits := String.ofList_injective ((String.append_right_inj _).mp h)
  have hnumber := Text.toDigits_inj hdigits
  omega

theorem isName_tempName (number : Nat) : Path.IsName (tempName number) := by
  have hdigits : ∀ c ∈ Nat.toDigits 10 (100000 + number), c.isDigit = true :=
    fun c hc => Nat.isDigit_of_mem_toDigits (by decide) (by decide) hc
  have hlong : ∀ short : String, short.toList.length < 4 → tempName number ≠ short := by
    rintro short hshort rfl
    rw [tempName, String.toList_append, List.length_append] at hshort
    have : ".tmp".toList.length = 4 := rfl
    omega
  refine ⟨hlong "" (by decide), hlong "." (by decide), hlong ".." (by decide), ?_⟩
  intro hmem
  rw [tempName, String.toList_append, List.mem_append] at hmem
  rcases hmem with hmem | hmem
  · revert hmem
    decide
  · rw [String.toList_ofList] at hmem
    exact absurd (hdigits '/' hmem) (by decide)

/-- Of more numbers than there are names one gives a name that is not taken. -/
theorem exists_tempName_notMem (taken : List String) :
    ∃ number ∈ List.range (taken.length + 1), tempName number ∉ taken := by
  by_contra hall
  have hsub : (List.range (taken.length + 1)).map tempName ⊆ taken := by
    intro other hother
    obtain ⟨number, hnumber, rfl⟩ := List.mem_map.mp hother
    by_contra hfree
    exact hall ⟨number, hnumber, hfree⟩
  have hlength := (List.subperm_of_subset
    (List.nodup_range.map tempName_injective) hsub).length_le
  rw [List.length_map, List.length_range] at hlength
  omega

/-- The name that is drawn is one of the names for new files, and it is not taken. -/
theorem exists_freshName_eq (taken : List String) :
    ∃ number, freshName taken = tempName number ∧ tempName number ∉ taken := by
  obtain ⟨number, hnumber, hfree⟩ := exists_tempName_notMem taken
  cases hfind : (List.range (taken.length + 1)).find? fun number => tempName number ∉ taken with
  | none =>
    have hnone := List.find?_eq_none.mp hfind number hnumber
    exact absurd (decide_eq_true hfree) hnone
  | some found =>
    refine ⟨found, by rw [freshName, hfind, Option.getD_some], ?_⟩
    have hfound := List.find?_some hfind
    exact of_decide_eq_true hfound

/-- There is nothing yet where a name is not taken. -/
theorem get?_of_notMem {place : Location} {entries : List (String × FileTree)}
    (h : disk.root.get? place = some (directory entries)) (hfree : name ∉ entries.map (·.1)) :
    disk.root.get? (place ++ [name]) = none := by
  have hlookup : entries.lookup name = none := by
    rw [List.lookup_eq_none_iff]
    intro entry hentry
    have hne : name ≠ entry.1 := by
      rintro rfl
      exact hfree (List.mem_map_of_mem hentry)
    simpa using hne
  rw [get?_append, h, Option.bind_some, get?, hlookup]

/-! ## A disk with a new file -/

/-- A disk that has all of another one, and a new file. -/
structure Holds (disk : Disk) (file : NewFile) (content : ByteArray) (next : Disk) : Prop where
  inside : ∃ parent name, disk.goal file.path = parent ++ [name] ∧ disk.root.DirAt parent
  free : disk.root.get? (disk.goal file.path) = none
  next_eq : next = disk.put (disk.goal file.path) (.file content)

namespace Holds

theorem notDir (h : disk.Holds file content next) :
    ¬disk.root.DirAt (disk.goal file.path) :=
  not_dirAt_of_get? h.free fun _ h => by cases h

theorem grows (h : disk.Holds file content next) : disk.Grows next := by
  have hnot := h.notDir
  obtain ⟨⟨parent, name, hgoal, hdir⟩, -, rfl⟩ := h
  rw [hgoal] at hnot ⊢
  exact ⟨rfl, fun place hplace => hplace.put hdir hnot _⟩

theorem held (h : disk.Holds file content next) : next.held file = .ok content := by
  rw [Disk.held, h.grows.goal]
  obtain ⟨⟨parent, name, hgoal, entries, hentries⟩, -, rfl⟩ := h
  have hself : (disk.put (disk.goal file.path) (.file content)).root.get?
      (disk.goal file.path) = some (.file content) := by
    rw [hgoal]
    exact get?_put_self hentries rfl _
  rw [hself]

/-- A new file can be written. -/
theorem run_fill (h : disk.Holds file before next) (content : ByteArray) :
    ∃ filled, (FileAccess.fill file content : StateM Disk _) next = (.ok (), filled) ∧
      disk.Holds file content filled := by
  refine ⟨disk.put (disk.goal file.path) (.file content), change_of_ok ?_, h.inside, h.free, rfl⟩
  simp only [Disk.fill, h.held, h.grows.goal]
  rw [h.next_eq]
  simp only [Disk.put, put_put]

/-- A disk without the file is the one before. -/
theorem without (h : disk.Holds file content next) :
    { next with root := next.root.remove (next.goal file.path) } = disk := by
  rw [h.grows.goal]
  obtain ⟨⟨parent, name, hgoal, hdir⟩, hfree, rfl⟩ := h
  rw [hgoal] at hfree ⊢
  simp only [Disk.put, remove_put hdir hfree]

/-- A new file can be removed. -/
theorem run_remove (h : disk.Holds file content next) :
    (FileAccess.remove file : StateM Disk _) next = (.ok (), disk) := by
  refine change_of_ok ?_
  simp only [Disk.remove, h.held, h.without]

/-- A new file is moved as if it was put in its place at once. -/
theorem run_move (h : disk.Holds file content next) (path : Path) :
    (FileAccess.move file path : StateM Disk _) next =
      match disk.supplant path content with
      | .ok moved => (.ok (), moved)
      | .error cause => (.error cause, next) := by
  have hmove : next.move file path = disk.supplant path content := by
    simp only [Disk.move, h.held, h.without]
  cases hsupplant : disk.supplant path content with
  | ok moved => exact change_of_ok (hmove.trans hsupplant)
  | error cause => exact change_of_error (hmove.trans hsupplant)

end Holds

/-! ## Making a file -/

/-- A file that was made is a new one. -/
theorem holds_of_create (h : disk.create path content = .ok made) :
    disk.Holds ⟨path⟩ content made := by
  obtain ⟨hputs, hfree, -⟩ := create_eq_ok h
  exact ⟨hputs.inside, hfree, hputs.next_eq⟩

/-- A file that was made and then written is made with what was written. -/
theorem Holds.create (h : disk.Holds ⟨path⟩ content next)
    (hmade : disk.create path .empty = .ok made) : disk.create path content = .ok next := by
  rw [create_eq_map, hmade, h.next_eq]
  rfl

theorem run_create (disk : Disk) (path : Path) :
    (FileAccess.create path : StateM Disk _) disk =
      match disk.create path .empty with
      | .ok made => (.ok ⟨path⟩, made)
      | .error cause => (.error cause, disk) := by
  change changeGiving (fun disk => (disk.create path .empty).map (NewFile.mk path, ·)) disk = _
  rw [changeGiving]
  cases disk.create path .empty <;> rfl

theorem placeIn_of_locate {place : Location} (h : disk.locate dir = .ok place) :
    disk.placeIn dir = .ok place := by
  have htext : dir.text ≠ "" := by
    intro hempty
    simp [locate, refuseText, hempty] at h
  rw [placeIn, if_neg htext, h]

/-- **In a directory a file can be made under a name of its own**, if the path to it is not too
long. -/
theorem run_createTemp (h : disk.kind? dir = some .directory) :
    match refuseTemp dir with
    | .error cause => (FileAccess.createTemp dir : StateM Disk _) disk = (.error cause, disk)
    | .ok () => ∃ name made, (FileAccess.createTemp dir : StateM Disk _) disk =
        (.ok ⟨dir / name⟩, made) ∧ Path.IsName name ∧ disk.Holds ⟨dir / name⟩ .empty made := by
  change match refuseTemp dir with
    | .error cause => changeGiving (·.createTemp dir) disk = (.error cause, disk)
    | .ok () => ∃ name made, changeGiving (·.createTemp dir) disk = (.ok ⟨dir / name⟩, made) ∧
        Path.IsName name ∧ disk.Holds ⟨dir / name⟩ .empty made
  cases hrefuse : refuseTemp dir with
  | error cause => simp only [changeGiving, createTemp, hrefuse]
  | ok value =>
    obtain ⟨hplace, entries, hentries⟩ := kind?_eq_directory_iff.mp h
    obtain ⟨number, hfresh, hfree⟩ := exists_freshName_eq (entries.map (·.1))
    have hname := isName_tempName number
    have hgoal := goal_join disk dir hname
    refine ⟨tempName number, disk.put (disk.goal (dir / tempName number)) (.file .empty), ?_, hname,
      ⟨_, _, hgoal, entries, hentries⟩, ?_, rfl⟩
    · rw [hgoal]
      simp only [changeGiving, createTemp, hrefuse, placeIn_of_locate hplace, hentries, hfresh]
    · rw [hgoal]
      exact get?_of_notMem hentries hfree

end Disk

/-! ## The operations as one -/

namespace Store

open Disk

theorem run_fillAndMove (h : disk.Holds file before next) (path : Path) (content : ByteArray) :
    ∃ filled, disk.Holds file content filled ∧
      next.run (fillAndMove file path content) =
        match disk.supplant path content with
        | .ok moved => (.ok (), moved)
        | .error cause => (.error (.io cause), filled) := by
  obtain ⟨filled, hfill, hholds⟩ := h.run_fill content
  refine ⟨filled, hholds, ?_⟩
  rw [fillAndMove, run_bind, run_attempt, hfill]
  change filled.run (attempt Error.io (FileAccess.move file path)) = _
  rw [run_attempt, hholds.run_move path]
  cases disk.supplant path content <;> rfl

/-- A new file that cannot be completed is taken away. -/
theorem run_completeOrRemove (h : disk.Holds file content filled)
    {completion : Action (StateM Disk) Unit} :
    (∀ last, next.run completion = (.ok (), last) →
      next.run (completeOrRemove file completion) = (.ok (), last)) ∧
    ∀ error, next.run completion = (.error error, filled) →
      next.run (completeOrRemove file completion) = (.error error, disk) := by
  constructor
  · intro last hrun
    rw [completeOrRemove, run_bind, run_settle, hrun]
    rfl
  · intro error hrun
    rw [completeOrRemove, run_bind, run_settle, hrun]
    change filled.run (settle (attempt Error.io (FileAccess.remove file)) >>= _) = _
    rw [run_bind, run_settle, run_attempt, h.run_remove]
    rfl

/-- **A file is replaced by a complete one in one step, or the disk stays as it is.** -/
theorem run_replaceFile (hdir : disk.kind? dir = some .directory) (hparent : path.parent? = some dir)
    (content : ByteArray) :
    disk.run (replaceFile dir path content) =
      match disk.replace path content with
      | .ok next => (.ok (), next)
      | .error cause => (.error (.io cause), disk) := by
  have htemp := run_createTemp hdir
  have hroom : roomBeside path = refuseTemp dir := by rw [roomBeside, hparent]
  rw [replaceFile, run_bind, run_attempt]
  cases hrefuse : refuseTemp dir with
  | error cause =>
    rw [hrefuse] at htemp
    simp only [htemp, replace, hroom, hrefuse]
    rfl
  | ok value =>
    rw [hrefuse] at htemp
    obtain ⟨name, made, hcreate, -, hmade⟩ := htemp
    obtain ⟨filled, hholds, hrun⟩ := run_fillAndMove hmade path content
    simp only [hcreate, replace, hroom, hrefuse]
    change made.run (completeOrRemove ⟨dir / name⟩ (fillAndMove ⟨dir / name⟩ path content)) = _
    cases hsupplant : disk.supplant path content with
    | ok moved =>
      rw [hsupplant] at hrun
      exact (run_completeOrRemove hholds).1 moved hrun
    | error cause =>
      rw [hsupplant] at hrun
      exact (run_completeOrRemove hholds).2 _ hrun

end Store

end DmlOutline
