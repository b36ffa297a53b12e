import DmlOutline.ConfigFile

/-!
# Commands

What a user can ask for on the command line.

* `Command` — the seven commands with what they are about.
* `Invocation` — a command, how its results are shown, and the configuration file that holds.
* `Request` — an invocation, or the question for the version.
-/

namespace DmlOutline

/-- The keys of a scope, as they were given. -/
structure ScopeKeys where
  session : String
  project : Option String
  deriving DecidableEq, Repr

/-- A command with what it is about. -/
inductive Command where
  /-- Writes a configuration file. -/
  | init (baseDir : Option String) (force : Bool)
  /-- Stores files. -/
  | upload (scope : ScopeKeys) (files : List Path)
  /-- Outlines one stored source. -/
  | analyze (scope : ScopeKeys) (fileName : String) (force : Bool)
  /-- Outlines sources by their names without the extension. -/
  | batch (scope : ScopeKeys) (names : List String)
  /-- Outlines all plain sources. -/
  | analyzeAll (scope : ScopeKeys)
  /-- Finds the sources that declare a unit. -/
  | find (scope : ScopeKeys) (object : String)
  /-- Shows the outline of a source. -/
  | showOutline (scope : ScopeKeys) (fileName : String)
  deriving DecidableEq, Repr

/-- A command and the settings that all commands share. -/
structure Invocation where
  command : Command
  /-- Whether results are shown as JSON. -/
  json : Bool := false
  /-- Where the configuration file is. -/
  config : Path := FileConfig.defaultPath
  deriving DecidableEq, Repr

/-- What a command line asks for. -/
inductive Request where
  | version
  | invocation (invocation : Invocation)
  deriving DecidableEq, Repr

end DmlOutline
