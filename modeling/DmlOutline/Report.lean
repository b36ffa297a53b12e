import DmlOutline.Outline.Render
import DmlOutline.SourceRecord
import DmlOutline.Table
import DmlOutline.Theme

/-!
# Reports

How the results of commands are shown on a terminal.

* `Report.table` — a table of records; nothing for no records.
* `Report.line` — one record on a line.
* `Report.outlineLines` — an outline under the number of its statements.
* `Report.header`, `Report.success`, `Report.warning` — messages with their signs.
-/

namespace DmlOutline.Report

/-- The word for whether a source is outlined. -/
def outlinedWord : Option Bool → String
  | some true => "yes"
  | some false => "no"
  | none => "-"

/-- The cells of a record. -/
def recordCells (record : SourceRecord) : List String :=
  [record.fileName, record.sourceType.tag, record.unitName.getD "-", outlinedWord record.outlined]

/-- A table of records; the empty text for no records. -/
def table (records : List SourceRecord) : String :=
  match records with
  | [] => ""
  | records => Table.render ⟨["File", "Type", "Object", "Analyzed"], records.map recordCells⟩

/-- The sign for whether a source is outlined. -/
def outlinedSign : Option Bool → String
  | some true => "✅"
  | some false => "❌"
  | none => " "

/-- One record on a line. -/
def line (theme : Theme) (record : SourceRecord) : String :=
  outlinedSign record.outlined ++ " 📄 " ++ record.fileName ++ " ["
    ++ theme.dim.apply record.sourceType.tag ++ "] " ++ record.unitName.getD "-"

/-- An outline under the number of its statements. -/
def outlineLines (theme : Theme) (outline : Outline) : List String :=
  ("🌳 " ++ toString outline.statementCount ++ " statement(s)")
    :: outline.render fun kind text => (theme.kind kind).apply text

/-- The beginning of a longer command. -/
def header (theme : Theme) (text : String) : String :=
  "🚀 " ++ theme.header.apply text

/-- A success. -/
def success (theme : Theme) (text : String) : String :=
  "✅ " ++ theme.success.apply text

/-- A warning. -/
def warning (theme : Theme) (text : String) : String :=
  "⚠️ " ++ theme.warning.apply text

end DmlOutline.Report
