import DmlOutline.Decoder
import DmlOutline.Json.Member
import DmlOutline.Path

/-!
# Configurations

What is configured: the directory below which everything is stored, and the encodings that are tried
for files that are not UTF-8. A configuration file may leave out either.

* `FileConfig` — what a configuration file says.
* `Configuration` — what the store works with.
* `Configuration.resolve` — the environment comes before the file, and the file before the default
  directory, which lies beside the working directory.
-/

namespace DmlOutline

/-- What a configuration file says. -/
structure FileConfig where
  baseDir : Option String := none
  encodings : Option (List String) := none
  deriving DecidableEq, Repr

/-- What the store works with. -/
structure Configuration where
  baseDir : Path
  encodings : List String := Decoder.defaultLabels
  deriving DecidableEq, Repr

namespace Configuration

/-- The directory `data` beside a working directory. -/
def defaultBaseDir (workingDir : Option Path) : Path :=
  match workingDir with
  | some dir => (dir.parent?.getD dir) / "data"
  | none => ⟨"data"⟩

/-- The configuration that holds, given the directory that the environment names. An empty name
counts as none. -/
def resolve (environment : Option String) (workingDir : Option Path) (file : FileConfig) :
    Configuration where
  baseDir :=
    match environment.filter (· ≠ "") with
    | some dir => ⟨dir⟩
    | none =>
      match file.baseDir with
      | some dir => ⟨dir⟩
      | none => defaultBaseDir workingDir
  encodings := file.encodings.getD Decoder.defaultLabels

/-- A configuration as a JSON value. -/
def toJson (config : Configuration) : Json :=
  .object
    [("base_dir", .string config.baseDir.text),
      ("encodings", .array (config.encodings.map .string))]

/-- Reads a configuration, whose encodings may be left out. -/
def ofJson? (value : Json) : Option Configuration := do
  match ← Json.members? ["base_dir", "encodings"] value with
  | [baseDir, encodings] =>
    let baseDir ← baseDir.required Json.text?
    let encodings ← encodings.withDefault (Json.list? Json.text?) Decoder.defaultLabels
    some { baseDir := ⟨baseDir⟩, encodings }
  | _ => none

end Configuration

namespace FileConfig

/-- What a file says, as a JSON value. -/
def toJson (config : FileConfig) : Json :=
  .object
    [("base_dir", (config.baseDir.map .string).getD .null),
      ("encodings", (config.encodings.map fun labels => .array (labels.map .string)).getD .null)]

/-- Reads what a file says. -/
def ofJson? (value : Json) : Option FileConfig := do
  match ← Json.members? ["base_dir", "encodings"] value with
  | [baseDir, encodings] =>
    let baseDir ← baseDir.nullable Json.text?
    let encodings ← encodings.nullable (Json.list? Json.text?)
    some { baseDir, encodings }
  | _ => none

end FileConfig

end DmlOutline
