import DmlOutline.Error

/-!
# Access to files

What the store needs of a file system, in whatever monad it is reached.

* `EntryKind` — a file or a directory; `NewFile` — a file that was just made.
* `FileAccess` — the operations; an operation that is refused gives the reason.
* `Action` — a computation that works on files and may fail.
* `attempt`, `ofResult`, `settle` — from a refusal to a failure, from a result to a computation, and
  from a failure to a value.
* `entryKind`, `isFile`, `isDirectory` — what a path leads to.
-/

namespace DmlOutline

/-- What a path leads to. -/
inductive EntryKind where
  | file
  | directory
  deriving DecidableEq, Repr

/-- A file that was just made, open to be written. -/
structure NewFile where
  path : Path
  deriving DecidableEq, Repr

/-- The operations of a file system. -/
class FileAccess (m : Type → Type) where
  /-- What a path leads to, if it leads to anything. -/
  kind? : Path → m (Option EntryKind)
  /-- The content of a file. -/
  read : Path → m (Except IoError ByteArray)
  /-- The names of the files in a directory, in the order of their bytes. -/
  fileNames : Path → m (Except IoError (List String))
  /-- Makes a directory with all that are missing on the way to it. -/
  makeDirs : Path → m (Except IoError Unit)
  /-- Makes an empty file that does not exist yet. -/
  create : Path → m (Except IoError NewFile)
  /-- Makes an empty file in a directory, under a name that nothing else has. -/
  createTemp : Path → m (Except IoError NewFile)
  /-- Writes the content of a new file, until it is on the medium. A refusal may leave a part of it
  written. -/
  fill : NewFile → ByteArray → m (Except IoError Unit)
  /-- Moves a new file to the place of what a path leads to. -/
  move : NewFile → Path → m (Except IoError Unit)
  /-- Removes a new file. -/
  remove : NewFile → m (Except IoError Unit)
  /-- Gives a file its content, whether it exists or not. A refusal may leave a part of it written. -/
  overwrite : Path → ByteArray → m (Except IoError Unit)

/-- A computation that works on files and may fail. -/
abbrev Action (m : Type → Type) (α : Type) :=
  ExceptT Error m α

variable {m : Type → Type} [Monad m] {ε α : Type}

/-- An operation on files, whose refusal is a failure. -/
def attempt (wrap : IoError → ε) (operation : m (Except IoError α)) : ExceptT ε m α :=
  ExceptT.mk do
    match ← operation with
    | .ok value => pure (.ok value)
    | .error cause => pure (.error (wrap cause))

/-- A result that is already known. -/
def ofResult (result : Except ε α) : ExceptT ε m α :=
  ExceptT.mk (pure result)

/-- A computation whose failure is a value. -/
def settle (action : ExceptT ε m α) : ExceptT ε m (Except ε α) :=
  ExceptT.mk do
    let outcome ← action.run
    pure (.ok outcome)

/-- What a path leads to, if it leads to anything. -/
def entryKind [FileAccess m] (path : Path) : ExceptT ε m (Option EntryKind) :=
  ExceptT.mk do
    let found ← FileAccess.kind? path
    pure (.ok found)

/-- Whether a path leads to a file. -/
def isFile [FileAccess m] (path : Path) : ExceptT ε m Bool := do
  return (← entryKind path) = some .file

/-- Whether a path leads to a directory. -/
def isDirectory [FileAccess m] (path : Path) : ExceptT ε m Bool := do
  return (← entryKind path) = some .directory

end DmlOutline
