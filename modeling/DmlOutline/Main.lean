import DmlOutline.Command.Run

/-!
# The program

The command line on the files of the machine that runs it: file operations as system calls, results
on the standard output and notices on the standard error output. All decisions are made elsewhere.

* Instances of `FileAccess` and `Console` for `IO`.
* `main` — runs the command line and gives its exit code.
-/

namespace DmlOutline

/-! ## Errors of the system -/

/-- The refusal with the number that the system gives it. Some numbers come negated. -/
def IoError.ofCode (code : UInt32) (details : String) : IoError :=
  let number := if code.toNat < UInt32.size / 2 then code.toNat else UInt32.size - code.toNat
  match number with
  | 2 => notFound
  | 16 => busy
  | 17 => alreadyExists
  | 20 => notADirectory
  | 21 => isADirectory
  | 36 => nameTooLong
  | number => other (details.capitalize ++ " (os error " ++ toString number ++ ")")

/-- The refusal that an error of the system is. -/
def IoError.ofSystem : IO.Error → IoError
  | .alreadyExists _ code details => ofCode code details
  | .otherError code details => ofCode code details
  | .resourceBusy code details => ofCode code details
  | .resourceVanished code details => ofCode code details
  | .unsupportedOperation code details => ofCode code details
  | .hardwareFault code details => ofCode code details
  | .unsatisfiedConstraints code details => ofCode code details
  | .illegalOperation code details => ofCode code details
  | .protocolError code details => ofCode code details
  | .timeExpired code details => ofCode code details
  | .interrupted _ code details => ofCode code details
  | .noFileOrDirectory _ code details => ofCode code details
  | .invalidArgument _ code details => ofCode code details
  | .permissionDenied _ code details => ofCode code details
  | .resourceExhausted _ code details => ofCode code details
  | .inappropriateType _ code details => ofCode code details
  | .noSuchThing _ code details => ofCode code details
  | .unexpectedEof => other "unexpected end of file"
  | .userError text => other text

/-- A system call whose error is a value. The system sees neither empty paths nor ones with a NUL. -/
def systemCall {α : Type} (path : Path) (call : IO α) : IO (Except IoError α) := do
  if path.text = "" then return .error .notFound
  if '\x00' ∈ path.text.toList then return .error .nulInPath
  try
    return .ok (← call)
  catch error =>
    return .error (.ofSystem error)

/-! ## Files -/

/-- What a path leads to on the machine, if it leads to anything. -/
def systemKind? (path : Path) : IO (Option EntryKind) := do
  let found ← systemCall path do
    let metadata ← (← IO.FS.realPath path.text).metadata
    return metadata.type
  match found with
  | .ok .file => return some .file
  | .ok .dir => return some .directory
  | _ => return none

/-- The names of the files in a directory of the machine, in order. -/
def systemFileNames (path : Path) : IO (List String) := do
  let entries ← (← IO.FS.realPath path.text).readDir
  let mut names := #[]
  for entry in entries do
    if (← systemKind? (path / entry.fileName)) = some .file then
      names := names.push entry.fileName
  return names.toList.mergeSort (· ≤ ·)

/-- Makes the first of some directories of which each is in the next, and before it those that are
missing. -/
def systemMakeFirst : List Path → IO (Except IoError Unit)
  | [] => return .ok ()
  | path :: outer => do
    if path.text = "" then return .ok ()
    match ← systemCall path (IO.FS.createDir path.text) with
    | .ok () => return .ok ()
    | .error cause =>
      let again ←
        if cause = .notFound then
          match ← systemMakeFirst outer with
          | .ok () => systemCall path (IO.FS.createDir path.text)
          | .error cause => return .error cause
        else pure (.error cause)
      match again with
      | .ok () => return .ok ()
      | .error cause =>
        if (← systemKind? path) = some .directory then return .ok () else return .error cause

/-- Makes an empty file that does not exist yet. -/
def systemCreate (path : Path) : IO (Except IoError NewFile) :=
  systemCall path do
    let handle ← IO.FS.Handle.mk path.text .writeNew
    handle.flush
    return ⟨path⟩

/-- Makes an empty file in a directory, under a name that is drawn. -/
def systemCreateTemp (dir : Path) : IO (Except IoError NewFile) := do
  let number ← IO.rand 100000 999999
  systemCreate (dir / (".tmp" ++ toString number))

/-- Writes the content of a file. -/
def systemWrite (path : Path) (content : ByteArray) : IO (Except IoError Unit) :=
  systemCall path do
    let handle ← IO.FS.Handle.mk path.text .write
    handle.write content
    handle.flush

/-- Moves a file to the place of what a path leads to, unless that is a directory. -/
def systemMove (file : NewFile) (path : Path) : IO (Except IoError Unit) := do
  if (← systemKind? path) = some .directory then return .error .isADirectory
  systemCall path (IO.FS.rename file.path.text path.text)

instance : FileAccess IO where
  kind? := systemKind?
  read path := systemCall path (IO.FS.readBinFile path.text)
  fileNames path := systemCall path (systemFileNames path)
  makeDirs path := systemMakeFirst path.ancestors
  create := systemCreate
  createTemp := systemCreateTemp
  fill file content := systemWrite file.path content
  move := systemMove
  remove file := systemCall file.path (IO.FS.removeFile file.path.text)
  overwrite := systemWrite

/-! ## The console -/

instance : Console IO where
  print := IO.println
  notify := IO.eprintln

/-- What the program finds around it. Colours are for terminals only. -/
def findSurroundings : IO Surroundings := do
  let environment ← IO.getEnv "DOCKER_COMPOSE_CONTEXT"
  let workingDir ← IO.currentDir
  let colored ← (← IO.getStdout).isTty
  return {
    environment
    workingDir := some ⟨workingDir.toString⟩
    theme := if colored then .colored else .plain }

end DmlOutline

/-- Runs a command line and gives its exit code. -/
def main (arguments : List String) : IO UInt32 := do
  let code ← DmlOutline.runArguments (← DmlOutline.findSurroundings) arguments
  return code.toUInt32
