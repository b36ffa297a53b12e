import DmlOutline.FileAccess
import DmlOutline.Configuration
import DmlOutline.Text.Quoted
import DmlOutline.Toml.Parser

/-!
# Configuration files

A configuration is kept in a file with at most two keys, `base_dir` and `encodings`. Other keys are
passed over; encodings nobody knows are refused when the file is read.

* `ConfigError` — why a file cannot be read or written; `ConfigError.message` words it.
* `FileConfig.toText`, `FileConfig.ofText?` — the text of a file and what it says.
* `FileConfig.loadKnowing`, `FileConfig.load` — reads a file; a missing one says nothing.
* `FileConfig.save` — writes a file, but replaces one only by force.
-/

namespace DmlOutline

/-- Why a configuration file cannot be read or written. -/
inductive ConfigError where
  /-- The file system refused. -/
  | io (cause : IoError)
  /-- The text is no configuration. -/
  | invalid (path : Path)
  /-- No encoding has this label. -/
  | unknownEncoding (label : String) (path : Path)
  /-- There is a file already. -/
  | alreadyExists (path : Path)
  deriving DecidableEq, Repr

/-- The text of such a failure. -/
def ConfigError.message : ConfigError → String
  | io cause => cause.message
  | invalid path => "invalid config " ++ path.text
  | unknownEncoding label path =>
    "unknown encoding " ++ Text.quoted label ++ " in " ++ path.text
  | alreadyExists path =>
    "config already exists at " ++ path.text ++ " (use --force to overwrite)"

namespace FileConfig

/-- Where the file is if no path is given. -/
def defaultPath : Path := ⟨"sqlskel.toml"⟩

/-! ## Writing -/

/-- A list of texts: on one line if there is at most one, and else each on a line of its own. -/
def listText : List String → List Char
  | [] => ['[', ']']
  | [label] => '[' :: (Toml.write label.toList ++ [']'])
  | labels =>
    "[\n".toList ++
      labels.flatMap (fun label => "    ".toList ++ Toml.write label.toList ++ ",\n".toList) ++
      [']']

/-- The line of a key and its value. -/
def keyLine (key : String) (value : List Char) : List Char :=
  key.toList ++ " = ".toList ++ value ++ ['\n']

/-- The text of a file that says this. -/
def toText (config : FileConfig) : String :=
  String.ofList
    ((config.baseDir.map fun dir => keyLine "base_dir" (Toml.write dir.toList)).getD [] ++
      (config.encodings.map fun labels => keyLine "encodings" (listText labels)).getD [])

/-! ## Reading -/

/-- The text that a value is. -/
def stringOf? : Toml → Option String
  | .string text => some text
  | _ => none

/-- The list of texts that a value is. -/
def stringsOf? : Toml → Option (List String)
  | .array items => items.mapM stringOf?
  | _ => none

/-- What the entries of a file say. A key may be missing, but its value has one form only. -/
def ofEntries? (entries : Toml.Entries) : Option FileConfig := do
  let baseDir ← match entries.lookup "base_dir" with
    | none => some none
    | some value => (stringOf? value).map some
  let encodings ← match entries.lookup "encodings" with
    | none => some none
    | some value => (stringsOf? value).map some
  some { baseDir, encodings }

/-- What the text of a file says. -/
def ofText? (text : String) : Option FileConfig :=
  (Toml.parse? text).bind ofEntries?

/-- The first label that is not known. -/
def unknownLabel? (known : String → Bool) (config : FileConfig) : Option String :=
  (config.encodings.getD []).find? fun label => !known label

/-- What the content of a file says, if all its labels are known. -/
def ofContent (known : String → Bool) (path : Path) (content : ByteArray) :
    Except ConfigError FileConfig :=
  match String.fromUTF8? content with
  | none => .error (.io .notUtf8)
  | some text =>
    match ofText? text with
    | none => .error (.invalid path)
    | some config =>
      match config.unknownLabel? known with
      | some label => .error (.unknownEncoding label path)
      | none => .ok config

/-! ## Files -/

variable {m : Type → Type} [Monad m] [FileAccess m]

/-- What a file says, if all its labels are known; nothing if there is no such file. -/
def loadKnowing (known : String → Bool) (path : Path) :
    ExceptT ConfigError m (Option FileConfig) := do
  match ← entryKind path with
  | none => return none
  | some _ =>
    let content ← attempt .io (FileAccess.read path)
    return some (← ofResult (ofContent known path content))

/-- What a file says, if each of its labels means an encoding; nothing if there is no such file. -/
def load (path : Path) : ExceptT ConfigError m (Option FileConfig) :=
  loadKnowing (fun label => (Encoding.ofLabel? label).isSome) path

/-- Writes a file. One that exists already is replaced by force only. -/
def save (path : Path) (config : FileConfig) (force : Bool) : ExceptT ConfigError m Unit := do
  if (← entryKind path).isSome && !force then throw (.alreadyExists path)
  attempt .io (FileAccess.overwrite path config.toText.toUTF8)

end FileConfig

end DmlOutline
