import DmlOutline.Command
import DmlOutline.Command.Switch

/-!
# Reading a command line

A command line is the name of a command with options and operands around it. The options that all
commands share may also stand before the name. After two hyphens alone there are only operands.

* `Arguments.ofList?` — the options and operands after the name of a command.
* `Opening.ofList?` — what stands before it.
* `Command.ofArguments?` — the command with a name and arguments.
* `Request.ofArguments?` — what a whole command line asks for; wrong usage asks for nothing.
-/

namespace DmlOutline

/-! ## Options -/

/-- What an argument is, by its first characters. -/
inductive ArgumentForm where
  | operand
  /-- Two hyphens alone. -/
  | separator
  | letters (text : List Char)
  | long (text : List Char)

/-- The form of an argument. A hyphen alone is an operand. -/
def ArgumentForm.ofText (text : String) : ArgumentForm :=
  match text.toList with
  | ['-', '-'] => separator
  | '-' :: '-' :: rest => long rest
  | '-' :: letter :: rest => letters (letter :: rest)
  | _ => operand

/-- Options with their values. -/
abbrev Settings := List (Switch × String)

/-- Whether an option is among some. -/
def Settings.has (settings : Settings) (switch : Switch) : Bool :=
  (settings.lookup switch).isSome

/-- The options read so far, and the one that waits for its value. -/
structure OptionReader where
  settings : Settings := []
  awaiting : Option Switch := none

namespace OptionReader

/-- Gives a value to an option. No option is given twice. -/
def set? (reader : OptionReader) (switch : Switch) (value : String) : Option OptionReader :=
  if reader.settings.has switch || !switch.accepts value then none
  else some ⟨reader.settings ++ [(switch, value)], none⟩

/-- Takes the options of one argument. -/
def take? (reader : OptionReader) : List Switch.Given → Option OptionReader
  | [] => some reader
  | (switch, none) :: _ => some { reader with awaiting := some switch }
  | (switch, some value) :: rest => (reader.set? switch value).bind (take? · rest)

/-- Takes the options of an argument in one of the two forms. -/
def takeText? (allowed : List Switch) (reader : OptionReader) :
    ArgumentForm → Option OptionReader
  | .letters text => (Switch.ofLetters? allowed text).bind reader.take?
  | .long text => (Switch.ofLong? allowed text).bind fun given => reader.take? [given]
  | _ => none

end OptionReader

/-! ## After the name of a command -/

/-- What stands after the name of a command. -/
structure Arguments where
  settings : Settings
  operands : List String

namespace Arguments

/-- Reads options and operands, some options having been read already. -/
def read? (allowed : List Switch) (reader : OptionReader) : List String → Option Arguments
  | [] => if reader.awaiting.isSome then none else some ⟨reader.settings, []⟩
  | text :: rest =>
    match reader.awaiting, ArgumentForm.ofText text with
    | some switch, .operand =>
      match reader.set? switch text with
      | some reader => read? allowed reader rest
      | none => none
    | some _, _ => none
    | none, .operand =>
      (read? allowed reader rest).map fun arguments =>
        { arguments with operands := text :: arguments.operands }
    | none, .separator => some ⟨reader.settings, rest⟩
    | none, form =>
      match reader.takeText? allowed form with
      | some reader => read? allowed reader rest
      | none => none

/-- The options that may stand before and after the name of a command. -/
def shared : List Switch := [.verbose, .json, .config]

/-- Reads the arguments of a command that has some options of its own. -/
def ofList? (own : List Switch) (texts : List String) : Option Arguments :=
  read? (shared ++ own) {} texts

end Arguments

/-! ## Before the name of a command -/

/-- How a command line begins. -/
inductive Opening where
  /-- With the question for the version. -/
  | version
  /-- With options and the name of a command, which its arguments follow. -/
  | command (settings : Settings) (name : String) (rest : List String)

namespace Opening

/-- Reads the beginning of a command line, some options having been read already. -/
def read? (reader : OptionReader) : List String → Option Opening
  | [] => none
  | text :: rest =>
    match reader.awaiting, ArgumentForm.ofText text with
    | some switch, .operand =>
      match reader.set? switch text with
      | some reader => read? reader rest
      | none => none
    | some _, _ => none
    | none, .operand => some (command reader.settings text rest)
    | none, form =>
      match reader.takeText? (.version :: Arguments.shared) form with
      | some reader => if reader.settings.has .version then some version else read? reader rest
      | none => none

/-- Reads the beginning of a command line. -/
def ofList? (texts : List String) : Option Opening :=
  read? {} texts

end Opening

/-! ## Whole command lines -/

namespace Command

/-- The options of a command by its name, and nothing for a name that no command has. -/
def ownSwitches? : String → Option (List Switch)
  | "init" => some [.baseDir, .force]
  | "analyze" => some [.session, .project, .force]
  | "upload" => some [.session, .project]
  | "batch" => some [.session, .project]
  | "analyze-all" => some [.session, .project]
  | "find" => some [.session, .project]
  | "show" => some [.session, .project]
  | _ => none

/-- The keys of a scope, of which the session's has to be given. -/
def scopeKeys? (settings : Settings) : Option ScopeKeys :=
  (settings.lookup .session).map fun session => ⟨session, settings.lookup .project⟩

/-- The command with a name and arguments. -/
def ofArguments? (name : String) (arguments : Arguments) : Option Command := do
  let settings := arguments.settings
  match name, arguments.operands with
  | "init", [] => some (init (settings.lookup .baseDir) (settings.has .force))
  | "upload", file :: files =>
    if "" ∈ file :: files then none
    else some (upload (← scopeKeys? settings) ((file :: files).map Path.mk))
  | "analyze", [fileName] =>
    some (analyze (← scopeKeys? settings) fileName (settings.has .force))
  | "batch", first :: names => some (batch (← scopeKeys? settings) (first :: names))
  | "analyze-all", [] => some (analyzeAll (← scopeKeys? settings))
  | "find", [object] => some (find (← scopeKeys? settings) object)
  | "show", [fileName] => some (showOutline (← scopeKeys? settings) fileName)
  | _, _ => none

end Command

namespace Request

/-- What a command line asks for. An option given after the name of a command comes before the same
option given before it. -/
def ofArguments? (texts : List String) : Option Request := do
  match ← Opening.ofList? texts with
  | .version => some version
  | .command outer name rest =>
    let arguments ← Arguments.ofList? (← Command.ownSwitches? name) rest
    let command ← Command.ofArguments? name arguments
    let settings : Settings := arguments.settings ++ outer
    some (invocation
      { command
        json := settings.has .json
        config := ((settings.lookup .config).map Path.mk).getD FileConfig.defaultPath })

end Request

end DmlOutline
