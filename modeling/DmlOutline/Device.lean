import DmlOutline.Disk

/-!
# Devices that fail

A device is a disk whose operations may fail for reasons that are not on the disk: the medium is
full or worn out, a file may not be opened. What becomes of the next operations is given with the
device; after that they succeed as on the disk. An operation that writes more than one thing leaves
what it has written before it fails. New files are removed in a turn of their own, so that a failure
and the removal that follows it are independent.

* `Fault` — a failure on the way.
* `Device` — a disk, and what becomes of the next operations on it; `Device.reliable` — one that does
  not fail.
* `Device.obey` — an operation that is done as on the disk, or fails.
* An instance of `FileAccess` for computations whose state is a device.
-/

namespace DmlOutline

/-- A failure on the way: how far an operation gets, and what is said. -/
structure Fault where
  reach : Nat
  cause : IoError
  deriving DecidableEq, Repr

/-- A disk whose operations may fail. -/
structure Device where
  disk : Disk
  /-- The failures of the next operations in turn, none for those that do not fail. -/
  faults : List (Option Fault)
  /-- Why the next removals of new files are refused in turn, none for those that are not. -/
  removals : List (Option IoError)

namespace Device

/-- A device that does not fail. -/
def reliable (disk : Disk) : Device := ⟨disk, [], []⟩

variable {α : Type}

/-- An operation whose turn it is. It is done as on the disk, or it fails and leaves the disk as it
is when the operation got so far. -/
def obey (operation : StateM Disk (Except IoError α)) (partway : Nat → Disk → Disk) :
    StateM Device (Except IoError α) :=
  fun device =>
    let after (disk : Disk) : Device := { device with disk := disk, faults := device.faults.tail }
    match device.faults.head?.join with
    | some fault => (.error fault.cause, after (partway fault.reach device.disk))
    | none => ((operation device.disk).1, after (operation device.disk).2)

/-- A disk on which nothing was done. -/
def untouched (_ : Nat) (disk : Disk) : Disk := disk

/-- A disk on which only directories around one were made: all of them, or fewer. -/
def madeAround (path : Path) (missing : Nat) (disk : Disk) : Disk :=
  (disk.makeFirst (path.ancestors.drop (missing + 1))).2

/-- A disk on which only the first bytes of a new file were written. -/
def filledPart (file : NewFile) (content : ByteArray) (count : Nat) (disk : Disk) : Disk :=
  ((FileAccess.fill file (content.extract 0 count) : StateM Disk _) disk).2

/-- A disk on which a file was not opened, or was emptied and only its first bytes were written. -/
def overwrittenPart (path : Path) (content : ByteArray) : Nat → Disk → Disk
  | 0, disk => disk
  | count + 1, disk =>
    ((FileAccess.overwrite path (content.extract 0 count) : StateM Disk _) disk).2

/-- Removes a new file, unless that is refused. -/
def discard (file : NewFile) : StateM Device (Except IoError Unit) :=
  fun device =>
    let after (disk : Disk) : Device :=
      { device with disk := disk, removals := device.removals.tail }
    match device.removals.head?.join with
    | some cause => (.error cause, after device.disk)
    | none =>
      let removed := (FileAccess.remove file : StateM Disk _) device.disk
      (removed.1, after removed.2)

/-- Looks what a path leads to. -/
def look (path : Path) : StateM Device (Except IoError (Option EntryKind)) :=
  obey (fun disk => (.ok (disk.kind? path), disk)) untouched

instance : FileAccess (StateM Device) where
  -- what cannot be looked at is as good as absent
  kind? path := (·.toOption.join) <$> look path
  read path := obey (FileAccess.read path) untouched
  fileNames path := obey (FileAccess.fileNames path) untouched
  makeDirs path := obey (FileAccess.makeDirs path) (madeAround path)
  create path := obey (FileAccess.create path) untouched
  createTemp dir := obey (FileAccess.createTemp dir) untouched
  fill file content := obey (FileAccess.fill file content) (filledPart file content)
  move file path := obey (FileAccess.move file path) untouched
  remove := discard
  overwrite path content :=
    obey (FileAccess.overwrite path content) (overwrittenPart path content)

end Device

end DmlOutline
