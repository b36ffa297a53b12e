import DmlOutline.Configuration
import DmlOutline.FileAccess
import DmlOutline.Outline.Json
import DmlOutline.Scope
import DmlOutline.SourceRecord

/-!
# The store of a session

Sources are uploaded into the directory of their category and never replaced; outlines are kept
beside them, each under the name of its source.

* `Store` — a configuration and the encodings that its labels name; `Store.outlinePath` and its like
  are the places of files.
* `Store.add` — stores a source; the first upload of a name wins.
* `Store.storeOutline`, `Store.loadOutline` — an outline on the disk.
* `Store.findSource` — a source by its name, first exactly, then without regard to case.
* `Store.declaring` — the sources that declare a program unit.
-/

namespace DmlOutline

/-- A store of sources and their outlines. -/
structure Store where
  config : Configuration
  /-- What the labels of the configuration name: encodings of the library, unless there are others. -/
  [charsets : Charsets]

namespace Store

instance (store : Store) : DecidableEq store.charsets.Charset :=
  store.charsets.decEq

instance (store : Store) : Decodes store.charsets.Charset :=
  store.charsets.decodes

/-- How the files of the store are read as text. -/
def decoder (store : Store) : Decoder store.charsets.Charset :=
  Decoder.naming store.charsets.ofLabel? store.config.encodings

/-! ## Places -/

/-- The directory of a scope. -/
def scopeRoot (store : Store) (scope : Scope) : Path :=
  scope.dir store.config.baseDir

/-- The directory of a category in a scope. -/
def folder (store : Store) (scope : Scope) (category : Category) : Path :=
  store.scopeRoot scope / category.folderName

/-- The directory that a source with a name belongs in; without a name, the one for plain sources. -/
def folderFor (store : Store) (scope : Scope) (name : Option String) : Path :=
  store.folder scope ((name.map Category.ofName).getD .source)

/-- The directory of outlines in a scope. -/
def outlineFolder (store : Store) (scope : Scope) : Path :=
  store.folder scope .outlines

/-- The place of the outline of a source. -/
def outlinePath (store : Store) (scope : Scope) (name : String) : Path :=
  store.outlineFolder scope / (FileName.base name ++ ".json")

variable {m : Type → Type} [Monad m] [FileAccess m]

/-! ## Writing -/

/-- Makes sure that a directory exists. -/
def provideDir (path : Path) : Action m Unit := do
  if ← isDirectory path then return
  attempt (.directoryCreation path) (FileAccess.makeDirs path)

/-- What became of a file that was to be written once. -/
inductive Creation where
  | created
  | alreadyExists
  deriving DecidableEq, Repr

/-- A file that was made, none if its name was taken. -/
def unlessTaken : Except IoError NewFile → Except IoError (Option NewFile)
  | .ok file => .ok (some file)
  | .error .alreadyExists => .ok none
  | .error cause => .error cause

/-- Completes a new file. If that fails, the file is removed again; when even that fails, it stays. -/
def completeOrRemove (file : NewFile) (completion : Action m Unit) : Action m Unit := do
  match ← settle completion with
  | .ok () => return
  | .error error =>
    let _ ← settle (attempt Error.io (FileAccess.remove file))
    throw error

/-- Writes a file unless its name is taken. What is there stays as it is. -/
def createOnce (dir : Path) (name : String) (content : ByteArray) :
    Action m Creation := do
  let name ← ofResult (Segment.ofFileName name)
  match ← attempt .io (unlessTaken <$> FileAccess.create (dir / name.text)) with
  | none => return .alreadyExists
  | some file =>
    completeOrRemove file (attempt .io (FileAccess.fill file content))
    return .created

/-- Writes the content of a new file and moves it to the place of what a path leads to. -/
def fillAndMove (file : NewFile) (path : Path) (content : ByteArray) : Action m Unit := do
  attempt .io (FileAccess.fill file content)
  attempt .io (FileAccess.move file path)

/-- Puts a complete file in the place of what a path leads to, or leaves what is there as it is. The
file is written in a directory under a name of its own before it is moved. -/
def replaceFile (dir path : Path) (content : ByteArray) : Action m Unit := do
  let file ← attempt .io (FileAccess.createTemp dir)
  completeOrRemove file (fillAndMove file path content)

/-- Writes a complete outline, or leaves what is there as it is. -/
def storeOutline (path : Path) (text : String) : Action m Unit := do
  match path.parent? with
  | none => throw (.invalidFileName path.text)
  | some dir =>
    provideDir dir
    replaceFile dir path text.toUTF8

/-! ## Reading -/

/-- The text of a file. -/
def textOf (store : Store) (path : Path) : Action m String := do
  let bytes ← attempt .io (FileAccess.read path)
  match store.decoder.decode? bytes with
  | some text => return text
  | none => throw (.undecodable path)

/-- The record of a file. -/
def recordOf (store : Store) (path : Path) : Action m SourceRecord := do
  let content ← store.textOf path
  return .ofContent (path.fileName?.getD "") content

/-- Whether a source has an outline. -/
def hasOutline (store : Store) (scope : Scope) (name : String) : Action m Bool :=
  isFile (store.outlinePath scope name)

/-- The outline of a source, if it has one. -/
def loadOutline (store : Store) (scope : Scope) (name : String) : Action m (Option Outline) := do
  let path := store.outlinePath scope name
  if ← isFile path then
    let bytes ← attempt .io (FileAccess.read path)
    match String.fromUTF8? bytes with
    | none => throw (.io .notUtf8)
    | some text =>
      match Outline.read? text with
      | none => throw .json
      | some outline => return some outline
  else return none

/-- Stores a source, unless its name is taken, and reports what is stored. -/
def add (store : Store) (scope : Scope) (name : String) (content : ByteArray) :
    Action m SourceRecord := do
  let segment ← ofResult (Segment.ofFileName name)
  let dir := store.folderFor scope (some segment.text)
  provideDir dir
  let _ ← createOnce dir segment.text content
  store.recordOf (dir / segment.text)

/-! ## Searching -/

/-- The names of the files in a directory, none if there is no such directory. -/
def namesOrNone : Except IoError (List String) → Except IoError (List String)
  | .error .notFound => .ok []
  | result => result

/-- The files in a directory, in order. -/
def filesIn (dir : Path) : Action m (List Path) := do
  let names ← attempt .io (namesOrNone <$> FileAccess.fileNames dir)
  return names.map (dir / ·)

/-- Whether the last component of a path satisfies a test. -/
def nameSatisfies (test : String → Bool) (path : Path) : Bool :=
  path.fileName?.any test

/-- The `.sql` files in a directory, in order. -/
def sqlFilesIn (dir : Path) : Action m (List Path) := do
  return (← filesIn dir).filter (nameSatisfies FileName.isSql)

/-- Whether two names are the same without regard to case. -/
def sameName (a b : String) : Bool :=
  Text.lower a.toList = Text.lower b.toList

/-- The first file in a directory with a name, without regard to case. -/
def findAnyCase (dir : Path) (name : String) : Action m (Option Path) := do
  return (← filesIn dir).find? (nameSatisfies (sameName name))

/-- The first of some paths that leads to a file. -/
def firstFile : List Path → Action m (Option Path)
  | [] => return none
  | path :: rest => do
    if ← isFile path then return some path
    firstFile rest

/-- The file with a name in the first of some directories that has one, without regard to case. -/
def firstAnyCase (name : String) : List Path → Action m (Option Path)
  | [] => return none
  | dir :: rest => do
    match ← findAnyCase dir name with
    | some path => return some path
    | none => firstAnyCase name rest

/-- A file in a directory: the one with exactly this name, or else the first that has it in
another case. -/
def findFile (dir : Path) (name : String) : Action m (Option Path) := do
  match ← firstFile [dir / name] with
  | some path => return some path
  | none => findAnyCase dir name

/-- A source: the one with exactly this name in any category, or else the first that has it in
another case. -/
def findSource (store : Store) (scope : Scope) (name : String) : Action m (Option Path) := do
  let segment ← ofResult (Segment.ofFileName name)
  let dirs := Category.sources.map (store.folder scope)
  match ← firstFile (dirs.map (· / segment.text)) with
  | some path => return some path
  | none => firstAnyCase segment.text dirs

/-- The records of some files. -/
def recordsOf (store : Store) : List Path → Action m (List SourceRecord)
  | [] => return []
  | path :: rest => do
    let record ← store.recordOf path
    return record :: (← recordsOf store rest)

/-- The records of the `.sql` files in some directories. -/
def sqlRecords (store : Store) : List Path → Action m (List SourceRecord)
  | [] => return []
  | dir :: rest => do
    let records ← store.recordsOf (← sqlFilesIn dir)
    return records ++ (← sqlRecords store rest)

/-- The sources that declare a unit with a name, without regard to case, in the order of categories
and names. -/
def declaring (store : Store) (scope : Scope) (unitName : String) :
    Action m (List SourceRecord) := do
  let records ← store.sqlRecords (Category.all.map (store.folder scope))
  return records.filter fun record => record.unitName.any (sameName unitName)

end Store

end DmlOutline
