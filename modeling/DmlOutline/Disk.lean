import DmlOutline.FileAccess
import DmlOutline.FileTree

/-!
# Disks

A disk is a tree of files with a directory from which relative paths start. Paths are followed step
by step: every step leaves a directory, and no name is longer than a directory can hold. There are
files and directories only: no links, no special files and no permissions. An operation on a disk is
refused only for what is on the disk; see `Device` for operations that fail on the way.

* `Disk.goal` — the place that a path stands for, whatever is there.
* `Disk.locate`, `Disk.find` — the place that a path leads to, and what is there.
* `Disk.target` — the entry that an operation makes or replaces.
* `Disk.read`, `Disk.create`, `Disk.overwrite`, `Disk.makeDir`, `Disk.makeDirs` — the operations on
  paths.
* `Disk.createTemp`, `Disk.fill`, `Disk.move`, `Disk.remove` — those on files that were just made;
  `Disk.replace` — what they come to when an outline is stored.
* An instance of `FileAccess` for computations whose state is a disk.
-/

namespace DmlOutline

/-- A tree of files and the directory from which relative paths start. -/
structure Disk where
  root : FileTree
  here : Location

namespace Disk

/-! ## Following paths -/

/-- How many bytes the name of an entry may have. -/
def maxNameLength : Nat := 255

/-- How many bytes a path may have. -/
def maxPathLength : Nat := 4095

/-- The reason why no path with this text can be followed at all. -/
def refuseText (path : Path) : Except IoError Unit :=
  if '\x00' ∈ path.text.toList then .error .nulInPath
  else if path.text = "" then .error .notFound
  else if maxPathLength < path.text.utf8ByteSize then .error .nameTooLong
  else .ok ()

/-- The place that some steps lead to. Each step leaves a directory; at the end there may be nothing
yet. -/
def walk (root : FileTree) (place : Location) : List Path.Step → Except IoError Location
  | [] => .ok place
  | step :: rest =>
    match root.get? place with
    | none => .error .notFound
    | some (.file _) => .error .notADirectory
    | some (.directory _) =>
      match step with
      | .stay => walk root place rest
      | .up => walk root place.dropLast rest
      | .down name =>
        if maxNameLength < name.utf8ByteSize then .error .nameTooLong
        else walk root (place ++ [name]) rest

/-- Where a path starts. -/
def start (disk : Disk) (path : Path) : Location :=
  if path.isAbsolute then [] else disk.here

/-- The place that some steps lead to, whatever is there. -/
def follow (place : Location) : List Path.Step → Location
  | [] => place
  | .stay :: rest => follow place rest
  | .up :: rest => follow place.dropLast rest
  | .down name :: rest => follow (place ++ [name]) rest

/-- The place that a path stands for, whether anything is there or not. -/
def goal (disk : Disk) (path : Path) : Location :=
  follow (disk.start path) path.steps

/-- The steps of a path. A slash at its end asks for a directory. -/
def allSteps (path : Path) : List Path.Step :=
  if path.endsInSlash then path.steps ++ [.stay] else path.steps

/-- The place that a path leads to; at its end there may be nothing yet. -/
def locate (disk : Disk) (path : Path) : Except IoError Location :=
  match refuseText path with
  | .error cause => .error cause
  | .ok () => walk disk.root (disk.start path) (allSteps path)

/-- What a path leads to. -/
def find (disk : Disk) (path : Path) : Except IoError FileTree :=
  match disk.locate path with
  | .error cause => .error cause
  | .ok place =>
    match disk.root.get? place with
    | none => .error .notFound
    | some found => .ok found

/-- What a path leads to, if it leads to anything. -/
def kind? (disk : Disk) (path : Path) : Option EntryKind :=
  match disk.find path with
  | .error _ => none
  | .ok (.file _) => some .file
  | .ok (.directory _) => some .directory

/-- The place of a directory. The empty path stands for the one from which relative paths start. -/
def placeIn (disk : Disk) (dir : Path) : Except IoError Location :=
  if dir.text = "" then .ok disk.here else disk.locate dir

/-! ## Reading -/

/-- The content of the file that a path leads to. -/
def read (disk : Disk) (path : Path) : Except IoError ByteArray :=
  match disk.find path with
  | .error cause => .error cause
  | .ok (.file content) => .ok content
  | .ok (.directory _) => .error .isADirectory

/-- Whether the entry of a directory can be reached: neither its path nor its name is too long. -/
def isReachable (dir : Path) (name : String) : Bool :=
  (refuseText (dir / name)).toBool && name.utf8ByteSize ≤ maxNameLength

/-- The names of the files in the directory that a path leads to. An entry that cannot be reached is
passed over. -/
def fileNames (disk : Disk) (path : Path) : Except IoError (List String) :=
  match disk.find path with
  | .error cause => .error cause
  | .ok (.file _) => .error .notADirectory
  | .ok (.directory entries) =>
    .ok ((FileTree.directory entries).fileNames.filter (isReachable path))

/-! ## Making entries -/

/-- The place of the entry that a path names, whose directory exists; nothing if the path names no
entry but a directory by dots or the root. -/
def target (disk : Disk) (path : Path) : Except IoError (Option Location) :=
  match refuseText path with
  | .error cause => .error cause
  | .ok () =>
    match path.steps.getLast? with
    | some (.down _) =>
      match walk disk.root (disk.start path) path.steps with
      | .error cause => .error cause
      | .ok place => .ok (some place)
    | _ =>
      match walk disk.root (disk.start path) (path.steps ++ [.stay]) with
      | .error cause => .error cause
      | .ok _ => .ok none

/-- The disk with something else at a place. -/
def put (disk : Disk) (place : Location) (tree : FileTree) : Disk :=
  { disk with root := disk.root.put place tree }

/-- Makes a file that does not exist yet. -/
def create (disk : Disk) (path : Path) (content : ByteArray) : Except IoError Disk :=
  match disk.target path with
  | .error cause => .error cause
  | .ok none => .error .alreadyExists
  | .ok (some place) =>
    if path.endsInSlash then .error .isADirectory
    else
      match disk.root.get? place with
      | some _ => .error .alreadyExists
      | none => .ok (disk.put place (.file content))

/-- Gives a file its content, whether it exists or not. -/
def overwrite (disk : Disk) (path : Path) (content : ByteArray) : Except IoError Disk :=
  match disk.target path with
  | .error cause => .error cause
  | .ok none => .error .isADirectory
  | .ok (some place) =>
    if path.endsInSlash then .error .isADirectory
    else
      match disk.root.get? place with
      | some (.directory _) => .error .isADirectory
      | _ => .ok (disk.put place (.file content))

/-- Puts a file in the place of what a path leads to. -/
def supplant (disk : Disk) (path : Path) (content : ByteArray) : Except IoError Disk :=
  match disk.target path with
  | .error cause => .error cause
  | .ok none => .error .busy
  | .ok (some place) =>
    if path.endsInSlash then .error .notADirectory
    else
      match disk.root.get? place with
      | some (.directory _) => .error .isADirectory
      | _ => .ok (disk.put place (.file content))

/-- Makes a directory whose own directory exists. -/
def makeDir (disk : Disk) (path : Path) : Except IoError Disk :=
  match disk.target path with
  | .error cause => .error cause
  | .ok none => .error .alreadyExists
  | .ok (some place) =>
    match disk.root.get? place with
    | some _ => .error .alreadyExists
    | none => .ok (disk.put place (.directory []))

/-- Makes the first of some directories of which each is in the next, and before it those that are
missing. Where a directory is already there, it stays. -/
def makeFirst (disk : Disk) : List Path → Except IoError Unit × Disk
  | [] => (.ok (), disk)
  | path :: outer =>
    if path.text = "" then (.ok (), disk)
    else
      match disk.makeDir path with
      | .ok made => (.ok (), made)
      | .error .notFound =>
        match makeFirst disk outer with
        | (.error cause, reached) => (.error cause, reached)
        | (.ok (), reached) =>
          match reached.makeDir path with
          | .ok made => (.ok (), made)
          | .error cause =>
            if reached.kind? path = some .directory then (.ok (), reached)
            else (.error cause, reached)
      | .error cause =>
        if disk.kind? path = some .directory then (.ok (), disk) else (.error cause, disk)

/-- Makes a directory with all that are missing on the way to it. -/
def makeDirs (disk : Disk) (path : Path) : Except IoError Unit × Disk :=
  disk.makeFirst path.ancestors

/-! ## Files that were just made -/

/-- A name for a file that needs one, by a number. It has ten bytes as long as the number has no more
than five digits. -/
def tempName (number : Nat) : String :=
  ".tmp" ++ String.ofList (Nat.toDigits 10 (100000 + number))

/-- A name that is not taken. Which one it is does not matter. -/
def freshName (taken : List String) : String :=
  tempName (((List.range (taken.length + 1)).find? fun number => tempName number ∉ taken).getD 0)

/-- What is said of a directory before a file is made in it under a name of its own. The name is
short, but the path to it may be too long. -/
def refuseTemp (dir : Path) : Except IoError Unit :=
  refuseText (dir / tempName 0)

/-- Makes an empty file in a directory, under a name of its own. -/
def createTemp (disk : Disk) (dir : Path) : Except IoError (NewFile × Disk) :=
  match refuseTemp dir with
  | .error cause => .error cause
  | .ok () =>
    match disk.placeIn dir with
    | .error cause => .error cause
    | .ok place =>
      match disk.root.get? place with
      | none => .error .notFound
      | some (.file _) => .error .notADirectory
      | some (.directory entries) =>
        let name := freshName (entries.map (·.1))
        .ok (⟨dir / name⟩, disk.put (place ++ [name]) (.file .empty))

/-- What a file that was just made holds. It is open, so that the way to it need not be gone again. -/
def held (disk : Disk) (file : NewFile) : Except IoError ByteArray :=
  match disk.root.get? (disk.goal file.path) with
  | none => .error .notFound
  | some (.directory _) => .error .isADirectory
  | some (.file content) => .ok content

/-- Writes the content of a file that was just made. -/
def fill (disk : Disk) (file : NewFile) (content : ByteArray) : Except IoError Disk :=
  match disk.held file with
  | .error cause => .error cause
  | .ok _ => .ok (disk.put (disk.goal file.path) (.file content))

/-- Removes a file that was just made. -/
def remove (disk : Disk) (file : NewFile) : Except IoError Disk :=
  match disk.held file with
  | .error cause => .error cause
  | .ok _ => .ok { disk with root := disk.root.remove (disk.goal file.path) }

/-- Moves a file that was just made to the place of what a path leads to. -/
def move (disk : Disk) (file : NewFile) (path : Path) : Except IoError Disk :=
  match disk.held file with
  | .error cause => .error cause
  | .ok content =>
    let rest : Disk := { disk with root := disk.root.remove (disk.goal file.path) }
    rest.supplant path content

/-- What is said of a path before a file is made beside it under a name of its own. -/
def roomBeside (path : Path) : Except IoError Unit :=
  match path.parent? with
  | none => .ok ()
  | some dir => refuseTemp dir

/-- Puts a complete file in the place of what a path leads to, after it was made beside it under a
name of its own. -/
def replace (disk : Disk) (path : Path) (content : ByteArray) : Except IoError Disk :=
  match roomBeside path with
  | .error cause => .error cause
  | .ok () => disk.supplant path content

/-! ## As a state -/

/-- A change of a disk: a refused one leaves it as it is. -/
def change (operation : Disk → Except IoError Disk) : StateM Disk (Except IoError Unit) :=
  fun disk =>
    match operation disk with
    | .ok changed => (.ok (), changed)
    | .error cause => (.error cause, disk)

/-- A change of a disk that gives something: a refused one leaves the disk as it is. -/
def changeGiving {α : Type} (operation : Disk → Except IoError (α × Disk)) :
    StateM Disk (Except IoError α) :=
  fun disk =>
    match operation disk with
    | .ok (value, changed) => (.ok value, changed)
    | .error cause => (.error cause, disk)

instance : FileAccess (StateM Disk) where
  kind? path := fun disk => (disk.kind? path, disk)
  read path := fun disk => (disk.read path, disk)
  fileNames path := fun disk => (disk.fileNames path, disk)
  makeDirs path := fun disk => disk.makeDirs path
  create path := changeGiving fun disk => (disk.create path .empty).map (⟨path⟩, ·)
  createTemp dir := changeGiving (·.createTemp dir)
  fill file content := change (·.fill file content)
  move file path := change (·.move file path)
  remove file := change (·.remove file)
  overwrite path content := change (·.overwrite path content)

end Disk

end DmlOutline
