import DmlOutline.FileName
import DmlOutline.ProgramUnit

/-!
# Records of sources

What is reported of a stored source: its name, its text, the unit it declares, its type, and whether
it is outlined, if that is known.

* `SourceRecord` — such a record; `SourceRecord.ofContent` makes it from a name and a text.
* `SourceRecord.toJson`, `SourceRecord.ofJson?` — its form as JSON, which leaves out what is not
  known about its outline.
-/

namespace DmlOutline

/-- What is reported of a stored source. -/
structure SourceRecord where
  fileName : String
  content : String
  unitName : Option String
  sourceType : SourceType
  outlined : Option Bool := none
  deriving DecidableEq, Repr

namespace SourceRecord

/-- The record of a source with a name and a text. -/
def ofContent (fileName content : String) : SourceRecord where
  fileName
  content
  unitName := ProgramUnit.nameOfText? content
  sourceType := SourceType.ofName fileName

/-- A record as a JSON value. -/
def toJson (record : SourceRecord) : Json :=
  .object
    ([("fileName", .string record.fileName), ("fileContent", .string record.content),
      ("objectName", (record.unitName.map .string).getD .null),
      ("fileType", .string record.sourceType.tag)]
      ++ (record.outlined.map fun outlined => ("analysisExists", .bool outlined)).toList)

/-- Reads a record. -/
def ofJson? (value : Json) : Option SourceRecord := do
  let names := ["fileName", "fileContent", "objectName", "fileType", "analysisExists"]
  match ← Json.members? names value with
  | [fileName, content, unitName, sourceType, outlined] =>
    let fileName ← fileName.required Json.text?
    let content ← content.required Json.text?
    let unitName ← unitName.nullable Json.text?
    let sourceType ← sourceType.required (Json.tag? true)
    let sourceType ← SourceType.ofTag? sourceType
    let outlined ← outlined.withDefault (Json.option? Json.flag?) none
    some { fileName, content, unitName, sourceType, outlined }
  | _ => none

end SourceRecord

end DmlOutline
