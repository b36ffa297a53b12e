/-!
# Switches

The options of the command line. Each has a long name, most have a letter too; some take a value.

* `Switch` — an option; `Switch.long`, `Switch.letter?` and `Switch.takesValue` describe it.
* `Switch.ofLong?`, `Switch.ofLetters?` — the options in one argument, each with its value unless
  that is still to come.
-/

namespace DmlOutline

/-- An option of the command line. -/
inductive Switch where
  | verbose
  | json
  | config
  | version
  | session
  | project
  | baseDir
  | force
  deriving DecidableEq, Repr

namespace Switch

/-- The long name of an option, which follows two hyphens. -/
def long : Switch → String
  | verbose => "verbose"
  | json => "json"
  | config => "config"
  | version => "version"
  | session => "session"
  | project => "project"
  | baseDir => "base-dir"
  | force => "force"

/-- The letter of an option, which follows one hyphen. -/
def letter? : Switch → Option Char
  | verbose => some 'v'
  | json => none
  | config => some 'c'
  | version => some 'V'
  | session => some 's'
  | project => some 'p'
  | baseDir => some 'b'
  | force => some 'f'

/-- Whether an option takes a value. -/
def takesValue : Switch → Bool
  | config | session | project | baseDir => true
  | verbose | json | version | force => false

/-- Whether an option can have a value; the path of a file is not empty. -/
def accepts (switch : Switch) (value : String) : Bool :=
  switch ≠ config || value ≠ ""

/-- An option as it was given: with its value, which is empty if it takes none, or without it if the
next argument is to be its value. -/
abbrev Given := Switch × Option String

/-- The option in an argument that begins with two hyphens, given what follows these. A value may
follow an equals sign. -/
def ofLong? (allowed : List Switch) (text : List Char) : Option Given :=
  let name := text.takeWhile (· ≠ '=')
  match allowed.find? fun switch => switch.long.toList = name with
  | none => none
  | some switch =>
    match switch.takesValue, text.drop name.length with
    | true, [] => some (switch, none)
    | true, _ :: value => some (switch, some (String.ofList value))
    | false, [] => some (switch, some "")
    | false, _ :: _ => none

/-- The value that follows a letter in the same argument, possibly after an equals sign. -/
def attached : List Char → Option String
  | [] => none
  | '=' :: value => some (String.ofList value)
  | value => some (String.ofList value)

/-- The options in an argument that begins with one hyphen, given what follows it. The first that
takes a value, or asks for the version, is the last. -/
def ofLetters? (allowed : List Switch) : List Char → Option (List Given)
  | [] => some []
  | letter :: rest =>
    match allowed.find? fun switch => switch.letter? = some letter with
    | none => none
    | some switch =>
      if switch = version then some [(switch, some "")]
      else if switch.takesValue then some [(switch, attached rest)]
      else (ofLetters? allowed rest).map ((switch, some "") :: ·)

end Switch

end DmlOutline
