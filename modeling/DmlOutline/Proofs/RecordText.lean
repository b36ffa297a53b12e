import DmlOutline.Command.Run
import DmlOutline.Proofs.JsonRoundTrip

/-!
# Structures are read back

Records, units and configurations are written as objects with a field for each of their members. What
is missing in a member decides how it is written: a unit without a schema has a null for it, and a
record that knows nothing of its outline has no field for that at all. All of them are read back.

* `Json.ReadBack` — what both texts of a value are read as.

Principal results: `SourceRecord.ofJson?_toJson`, `ProgramUnit.ofJson?_toJson`,
`Configuration.ofJson?_toJson`, `FileConfig.ofJson?_toJson`: structures come back from their values;
`Json.structures_read_back`: and from their texts.
-/

namespace DmlOutline

/-! ## Members -/

namespace Json

variable {α : Type} {value : Json} {a : α}

/-- What both texts of a value, the compact one and the indented one, are read as. -/
def ReadBack (read : Json → Option α) (value : Json) (a : α) : Prop :=
  (parse? value.compact).bind read = some a ∧ (parse? value.pretty).bind read = some a

/-- A value with nothing foreign in it comes back from its texts, so what it is read as does. -/
theorem ReadBack.of_plain {read : Json → Option α} (hplain : Plain value)
    (hread : read value = some a) : ReadBack read value a := by
  constructor
  · rw [parse?_compact hplain, Option.bind_some, hread]
  · rw [parse?_pretty hplain, Option.bind_some, hread]

@[simp] theorem text?_string (text : String) : text? (string text) = some text := rfl

@[simp] theorem tag?_string (objects : Bool) (text : String) :
    tag? objects (string text) = some text := rfl

@[simp] theorem plain_string (text : String) : Plain (string text) := trivial

theorem plainItems_map {write : α → Json} (h : ∀ a, Plain (write a)) (items : List α) :
    PlainItems (items.map write) := by
  induction items with
  | nil => trivial
  | cons item rest ih => exact ⟨h item, ih⟩

/-- A list is read back when its items are. -/
theorem list?_map {write : α → Json} {read : Json → Option α}
    (h : ∀ a, read (write a) = some a) (items : List α) :
    list? read (array (items.map write)) = some items := by
  rw [list?]
  induction items with
  | nil => rfl
  | cons item rest ih => simp [h, ih]

theorem plain_strings (texts : List String) : Plain (array (texts.map string)) :=
  plainItems_map plain_string texts

@[simp] theorem list?_strings (texts : List String) :
    list? text? (array (texts.map string)) = some texts :=
  list?_map text?_string texts

/-- A member that may be missing has nothing foreign in it if its value has not. -/
theorem plain_orNull {write : α → Json} (h : ∀ a, Plain (write a)) (member : Option α) :
    Plain ((member.map write).getD null) := by
  cases member with
  | none => trivial
  | some a => exact h a

/-- A member that may be missing is read back if its value is, and if null is no value of it. -/
theorem option?_orNull {write : α → Json} {read : Json → Option α}
    (h : ∀ a, read (write a) = some a) (hnull : ∀ a, write a ≠ null) (member : Option α) :
    option? read ((member.map write).getD null) = some member := by
  cases member with
  | none => rfl
  | some a =>
    rw [Option.map_some, Option.getD_some, option?]
    · rw [h, Option.map_some]
    · exact hnull a

@[simp] theorem option?_string (text : Option String) :
    option? text? ((text.map string).getD null) = some text :=
  option?_orNull text?_string (fun _ h => nomatch h) text

@[simp] theorem option?_strings (texts : Option (List String)) :
    option? (list? text?) ((texts.map fun texts => array (texts.map string)).getD null) =
      some texts :=
  option?_orNull list?_strings (fun _ h => nomatch h) texts

@[simp] theorem option?_bool (flag : Bool) : option? flag? (bool flag) = some (some flag) := rfl

end Json

/-! ## Structures -/

open Json

namespace SourceRecord

theorem plain_toJson (record : SourceRecord) : record.toJson.Plain := by
  obtain ⟨fileName, content, unitName, sourceType, outlined⟩ := record
  have hunit := plain_orNull plain_string unitName
  cases outlined with
  | none => exact ⟨trivial, trivial, hunit, trivial, trivial⟩
  | some outlined => exact ⟨trivial, trivial, hunit, trivial, trivial, trivial⟩

/-- **A record is read back from its value,** with what it does not know of its outline. -/
theorem ofJson?_toJson (record : SourceRecord) : ofJson? record.toJson = some record := by
  obtain ⟨fileName, content, unitName, sourceType, outlined⟩ := record
  cases outlined <;>
    simp [ofJson?, toJson, members?, Member.ofFields?, Member.required, Member.nullable,
      Member.withDefault]

end SourceRecord

namespace ProgramUnit

theorem plain_toJson (object : ProgramUnit) : object.toJson.Plain :=
  ⟨trivial, plain_orNull plain_string object.schema, trivial, trivial⟩

/-- **A unit is read back from its value.** -/
theorem ofJson?_toJson (object : ProgramUnit) : ofJson? object.toJson = some object := by
  simp [ofJson?, toJson, members?, Member.ofFields?, Member.required, Member.nullable]

end ProgramUnit

namespace Configuration

theorem plain_toJson (config : Configuration) : config.toJson.Plain :=
  ⟨trivial, plain_strings config.encodings, trivial⟩

/-- **A configuration is read back from its value.** -/
theorem ofJson?_toJson (config : Configuration) : ofJson? config.toJson = some config := by
  simp [ofJson?, toJson, members?, Member.ofFields?, Member.required, Member.withDefault]

end Configuration

namespace FileConfig

theorem plain_toJson (config : FileConfig) : config.toJson.Plain :=
  ⟨plain_orNull plain_string config.baseDir, plain_orNull plain_strings config.encodings, trivial⟩

/-- **What a configuration file says is read back from its value.** -/
theorem ofJson?_toJson (config : FileConfig) : ofJson? config.toJson = some config := by
  simp [ofJson?, toJson, members?, Member.ofFields?, Member.nullable]

end FileConfig

/-! ## Texts -/

/-- The field of an outline is in a record only if it is known whether there is one. -/
theorem SourceRecord.mem_fields_iff (record : SourceRecord) :
    ∃ fields, record.toJson = object fields ∧
      ("analysisExists" ∈ fields.map Prod.fst ↔ record.outlined.isSome) := by
  refine ⟨_, rfl, ?_⟩
  cases record.outlined <;> simp

/-- What is printed for records as JSON: the indented text of their list, on lines of its own. -/
theorem Command.showRecords_json (records : List SourceRecord) :
    ((Command.showRecords true records : Command.Task (StateM Transcript) Unit).run.run {}) =
      (.ok (), { printed := [(array (records.map SourceRecord.toJson)).pretty] }) :=
  rfl

/-- **Structures come back from their texts:** records, units, configurations and what configuration
files say, each from the compact text and from the indented one. A record that knows nothing of its
outline has no field for it. Records that are printed as JSON come back from what is printed. -/
theorem Json.structures_read_back :
    (∀ record : SourceRecord, ReadBack SourceRecord.ofJson? record.toJson record ∧
      ∃ fields, parse? record.toJson.compact = some (object fields) ∧
        parse? record.toJson.pretty = some (object fields) ∧
        ("analysisExists" ∈ fields.map Prod.fst ↔ record.outlined.isSome)) ∧
    (∀ unit : ProgramUnit, ReadBack ProgramUnit.ofJson? unit.toJson unit) ∧
    (∀ config : Configuration, ReadBack Configuration.ofJson? config.toJson config) ∧
    (∀ config : FileConfig, ReadBack FileConfig.ofJson? config.toJson config) ∧
    ∀ records : List SourceRecord, ∃ shown : Transcript,
      (Command.showRecords true records : Command.Task (StateM Transcript) Unit).run.run {} =
        (.ok (), shown) ∧
      (parse? shown.output).bind (list? SourceRecord.ofJson?) = some records := by
  refine ⟨fun record => ⟨.of_plain record.plain_toJson record.ofJson?_toJson, ?_⟩,
    fun unit => .of_plain unit.plain_toJson unit.ofJson?_toJson,
    fun config => .of_plain config.plain_toJson config.ofJson?_toJson,
    fun config => .of_plain config.plain_toJson config.ofJson?_toJson,
    fun records => ⟨_, Command.showRecords_json records, ?_⟩⟩
  · obtain ⟨fields, hfields, hknown⟩ := record.mem_fields_iff
    refine ⟨fields, ?_, ?_, hknown⟩
    · rw [← hfields, parse?_compact record.plain_toJson]
    · rw [← hfields, parse?_pretty record.plain_toJson]
  · have hplain : Plain (array (records.map SourceRecord.toJson)) :=
      plainItems_map SourceRecord.plain_toJson records
    have houtput : Transcript.output { printed := [(array (records.map SourceRecord.toJson)).pretty] }
        = (array (records.map SourceRecord.toJson)).pretty ++ "\n" := by
      simp [Transcript.output]
    rw [houtput, parse?_pretty_line hplain, Option.bind_some,
      list?_map SourceRecord.ofJson?_toJson]

end DmlOutline
