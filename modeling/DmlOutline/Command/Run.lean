import DmlOutline.Outliner
import DmlOutline.Command.Arguments
import DmlOutline.Console
import DmlOutline.Report

/-!
# Running commands

A command works on files and shows what it did. What was shown before a failure stays shown.

* `Failure` — why a command fails; `Failure.message` words it.
* `Surroundings` — what a command finds in the process that runs it.
* `Invocation.run` — does what an invocation asks for.
* `runArguments` — does what a command line asks for, and gives the exit code.
-/

namespace DmlOutline

/-- Why a command fails. -/
inductive Failure where
  /-- An operation of the library failed. -/
  | operation (error : Error)
  /-- The configuration file cannot be used. -/
  | config (error : ConfigError)
  /-- A file that is to be uploaded cannot be read. -/
  | unreadable (cause : IoError)
  /-- The source has no outline yet. -/
  | notOutlined (fileName : String)
  deriving DecidableEq, Repr

/-- The text of a failure. -/
def Failure.message : Failure → String
  | operation error => error.message
  | config error => error.message
  | unreadable cause => cause.message
  | notOutlined fileName => "No analysis for " ++ fileName ++ " (run `sqlskel analyze` first)"

/-- What a command finds in the process that runs it. -/
structure Surroundings where
  /-- The base directory that the environment names. -/
  environment : Option String := none
  workingDir : Option Path := none
  theme : Theme := Theme.plain

namespace Command

/-- A computation of a command. -/
abbrev Task (m : Type → Type) (α : Type) := ExceptT Failure m α

variable {m : Type → Type} [Monad m] [Console m]

/-- Prints a text. -/
def print (text : String) : Task m Unit :=
  ExceptT.lift (Console.print text)

/-- Gives a warning. -/
def warn (surroundings : Surroundings) (text : String) : Task m Unit :=
  ExceptT.lift (Console.notify (Report.warning surroundings.theme text))

/-- An operation of the library as a part of a command. -/
def operate {α : Type} (action : Action m α) : Task m α :=
  ExceptT.adapt .operation action

/-- Shows records: as JSON or, if there are any, as a table. -/
def showRecords (json : Bool) (records : List SourceRecord) : Task m Unit :=
  if json then print (Json.array (records.map SourceRecord.toJson)).pretty
  else if records.isEmpty then print "∅ No files."
  else print (Report.table records)

variable [FileAccess m]

/-- The configuration that holds. -/
def findConfiguration (surroundings : Surroundings) (config : Path) : Task m Configuration := do
  let file ← ExceptT.adapt Failure.config (FileConfig.load config)
  return .resolve surroundings.environment surroundings.workingDir (file.getD {})

/-- The store with a configuration, and the front end of the commands. -/
def outlinerOf (config : Configuration) : Outliner where
  store := ⟨config⟩
  frontEnd := .dml

/-- The scope with some keys. -/
def makeScope (keys : ScopeKeys) : Task m Scope :=
  operate (ofResult (Scope.make keys.session keys.project))

/-- Stores files in turn and gives their records. A path that names no file is passed over. -/
def uploadEach (surroundings : Surroundings) (json : Bool) (store : Store) (scope : Scope) :
    List Path → Task m (List SourceRecord)
  | [] => return []
  | path :: rest => do
    match path.fileName? with
    | none =>
      warn surroundings ("Skipping " ++ path.text ++ ": not a file name")
      uploadEach surroundings json store scope rest
    | some name =>
      let content ← attempt .unreadable (FileAccess.read path)
      let record ← operate (store.add scope name content)
      unless json do print (Report.line surroundings.theme record)
      return record :: (← uploadEach surroundings json store scope rest)

/-- Shows what became of a source. -/
def showOutcome (surroundings : Surroundings) (json : Bool) (fileName : String)
    (outcome : Outliner.Outcome) : Task m Unit :=
  if json then
    print (Json.object
      [("artifact", .string outcome.path.text), ("cached", .bool outcome.wasKnown),
        ("fileName", .string fileName)]).pretty
  else if outcome.wasKnown then print ("♻️ Already analyzed: " ++ outcome.path.text)
  else
    print (Report.success surroundings.theme
      ("Analyzed " ++ fileName ++ " -> " ++ outcome.path.text))

/-- Shows the outline of a source. -/
def showTree (surroundings : Surroundings) (json : Bool) (outline : Outline) : Task m Unit :=
  if json then print outline.write
  else (Report.outlineLines surroundings.theme outline).forM print

/-- Does what a command asks for. -/
def run (surroundings : Surroundings) (json : Bool) (config : Path) : Command → Task m Unit
  | init baseDir force => do
    let file : FileConfig := { baseDir, encodings := some Decoder.defaultLabels }
    ExceptT.adapt Failure.config (FileConfig.save config file force)
    print (Report.success surroundings.theme ("Wrote " ++ config.text))
  | upload keys files => do
    let outliner := outlinerOf (← findConfiguration surroundings config)
    let scope ← makeScope keys
    let records ← uploadEach surroundings json outliner.store scope files
    if json then showRecords true records
  | analyze keys fileName force => do
    let outliner := outlinerOf (← findConfiguration surroundings config)
    let scope ← makeScope keys
    let outcome ← operate
      (if force then outliner.outlineAnew scope fileName else outliner.outlineOnce scope fileName)
    showOutcome surroundings json fileName outcome
  | batch keys names => do
    let outliner := outlinerOf (← findConfiguration surroundings config)
    let scope ← makeScope keys
    let records ← operate (outliner.outlineBatch scope names)
    if !json && records.length < names.length then
      warn surroundings (toString (names.length - records.length) ++ " of "
        ++ toString names.length ++ " name(s) not found")
    showRecords json records
  | analyzeAll keys => do
    let outliner := outlinerOf (← findConfiguration surroundings config)
    let scope ← makeScope keys
    unless json do
      print (Report.header surroundings.theme
        ("Analyzing all sources in session " ++ scope.label))
    showRecords json (← operate (outliner.outlineAll scope))
  | find keys object => do
    unless json do print ("🔍 Searching for " ++ object ++ "...")
    let outliner := outlinerOf (← findConfiguration surroundings config)
    let scope ← makeScope keys
    let records ← operate (outliner.store.declaring scope object)
    if !json && 1 < records.length then
      warn surroundings (toString records.length ++ " files declare " ++ object)
    showRecords json records
  | showOutline keys fileName => do
    let outliner := outlinerOf (← findConfiguration surroundings config)
    let scope ← makeScope keys
    match ← operate (outliner.store.loadOutline scope fileName) with
    | none => throw (.notOutlined fileName)
    | some outline => showTree surroundings json outline

end Command

variable {m : Type → Type} [Monad m] [Console m] [FileAccess m]

/-- Does what an invocation asks for. -/
def Invocation.run (surroundings : Surroundings) (invocation : Invocation) : Command.Task m Unit :=
  invocation.command.run surroundings invocation.json invocation.config

/-- The name and the version of the program. -/
def versionText : String := "sqlskel 0.0.1"

/-- Does what a command line asks for, and gives the exit code: two for wrong usage, one for a
failure, of which a notice is given. -/
def runArguments (surroundings : Surroundings) (texts : List String) : m Nat := do
  match Request.ofArguments? texts with
  | none => return 2
  | some .version =>
    Console.print versionText
    return 0
  | some (.invocation invocation) =>
    match ← (invocation.run surroundings).run with
    | .ok () => return 0
    | .error failure =>
      Console.notify ("Error: " ++ failure.message)
      return 1

end DmlOutline
