import DmlOutline.Path
import DmlOutline.Statement

/-!
# Errors

Every way in which an operation can fail, by its cause, and the wording of each.

* `IoError` — what the file system refuses.
* `ParseFault` — what is wrong with a source text.
* `Imbalance` — what is wrong with a list of events.
* `Error` — all failures of the library; `Error.message` is the text that is shown.
-/

namespace DmlOutline

/-- A refusal of the file system. -/
inductive IoError where
  | notFound
  | alreadyExists
  | notADirectory
  | isADirectory
  | busy
  | nameTooLong
  /-- The path contains a NUL character. -/
  | nulInPath
  /-- A file that is read as text is not UTF-8. -/
  | notUtf8
  /-- Any other refusal, with its own text. -/
  | other (text : String)
  deriving DecidableEq, Repr

/-- The text of a refusal. -/
def IoError.message : IoError → String
  | notFound => "No such file or directory (os error 2)"
  | alreadyExists => "File exists (os error 17)"
  | notADirectory => "Not a directory (os error 20)"
  | isADirectory => "Is a directory (os error 21)"
  | busy => "Device or resource busy (os error 16)"
  | nameTooLong => "File name too long (os error 36)"
  | nulInPath => "file name contained an unexpected NUL byte"
  | notUtf8 => "stream did not contain valid UTF-8"
  | other text => text

/-- What is wrong with a source text. -/
inductive ParseFault where
  /-- A quoted text without its closing quote. -/
  | unclosedString
  /-- A text with escapes that is not closed or has a bad escape. -/
  | badEscapedString
  /-- A text with numbered characters without its closing quote. -/
  | unclosedUnicodeString
  /-- The input ends inside the number of a character. -/
  | numberCutShort
  /-- A character that is no hexadecimal digit inside the number of a character. -/
  | badHexDigit (digit : Char)
  /-- A number that is no character. -/
  | badCharacter (code : Nat)
  /-- A quoted identifier without its closing quote. -/
  | unclosedIdentifier (quote : Char)
  /-- A dot before an underscore that does not follow an identifier. -/
  | strayUnderscore
  /-- A comment that is not closed. -/
  | unclosedComment
  /-- A text between double dollars that is not closed. -/
  | unclosedDollar
  /-- A text between dollar tags that is not closed. -/
  | unclosedDollarTag
  /-- A closing parenthesis without an opening one. -/
  | unbalancedParenthesis
  /-- A fault that a front end words itself. -/
  | reported (text : String)
  deriving DecidableEq, Repr

/-- The hexadecimal digits of a number, without leading zeros. -/
def hexText (n : Nat) : String :=
  String.ofList (Nat.toDigits 16 n)

/-- The text of a fault. -/
def ParseFault.message : ParseFault → String
  | unclosedString => "Unterminated string literal"
  | badEscapedString => "Unterminated encoded string literal"
  | unclosedUnicodeString => "Unterminated unicode encoded string literal"
  | numberCutShort => "Unexpected EOF while parsing hex digit in escaped unicode string."
  | badHexDigit digit =>
    "Invalid hex digit in escaped unicode string: " ++ String.singleton digit
  | badCharacter code => "Invalid unicode character: " ++ hexText code
  | unclosedIdentifier quote =>
    "Expected close delimiter '" ++ String.singleton quote ++ "' before EOF."
  | strayUnderscore => "Unexpected character '_'"
  | unclosedComment => "Unexpected EOF while in a multi-line comment"
  | unclosedDollar => "Unterminated dollar-quoted string"
  | unclosedDollarTag => "Unterminated dollar-quoted, expected $"
  | unbalancedParenthesis => "unbalanced ')'"
  | reported text => text

/-- What is wrong with an event, given the statements that are open. -/
inductive Imbalance where
  /-- The root is entered. -/
  | rootEntered
  /-- A statement is left while none is open. -/
  | nothingOpen (kind : StatementKind)
  /-- A statement is left while one of another kind is open. -/
  | otherOpen (kind opened : StatementKind)
  /-- A statement is left on a line before its first. -/
  | endsEarly (kind : StatementKind) (start : Nat)
  deriving DecidableEq, Repr

/-- The text of an imbalance. -/
def Imbalance.message : Imbalance → String
  | rootEntered => "ROOT cannot be entered"
  | nothingOpen kind => "exit " ++ kind.tag ++ " without a matching enter"
  | otherOpen kind opened => "exit " ++ kind.tag ++ " while " ++ opened.tag ++ " is open"
  | endsEarly kind start =>
    kind.tag ++ " ends before it starts (line " ++ toString start ++ ")"

/-- A failure of an operation. -/
inductive Error where
  /-- The file system refused. -/
  | io (cause : IoError)
  /-- A text is not the JSON that was expected. -/
  | json
  /-- A directory could not be made. -/
  | directoryCreation (path : Path) (cause : IoError)
  /-- No stored source has this name. -/
  | sourceNotFound (name : String)
  /-- The scope has no directory of sources. -/
  | sourceDirectoryMissing (path : Path)
  /-- The directory of sources holds nothing to analyze. -/
  | noSources (path : Path)
  /-- No encoding reads this file. -/
  | undecodable (path : Path)
  /-- A source text has a fault. -/
  | parse (line : Nat) (fault : ParseFault)
  /-- An event does not fit the statements that are open. -/
  | unbalanced (line : Nat) (cause : Imbalance)
  /-- The events end while statements are open. -/
  | unclosed (count : Nat)
  /-- A name that is no entry of a directory. -/
  | invalidFileName (name : String)
  /-- A session or project key that is no entry of a directory. -/
  | invalidScope (key : String)
  /-- A text that names no kind of statement. -/
  | invalidKind (text : String)
  deriving DecidableEq, Repr

/-- The text of a failure. -/
def Error.message : Error → String
  | io cause => "IO error: " ++ cause.message
  | json => "Serialization error"
  | directoryCreation path cause =>
    "Failed to create directory " ++ path.text ++ ": " ++ cause.message
  | sourceNotFound name => "Source file not found: " ++ name
  | sourceDirectoryMissing path => "Source directory not found: " ++ path.text
  | noSources path => "No .sql files in " ++ path.text
  | undecodable path => "Could not decode " ++ path.text ++ " with any configured encoding"
  | parse line fault => "Parse error at line " ++ toString line ++ ": " ++ fault.message
  | unbalanced line cause => "Unbalanced event at line " ++ toString line ++ ": " ++ cause.message
  | unclosed count => toString count ++ " statement(s) still open when the tree was finished"
  | invalidFileName name => "Invalid file name: " ++ name
  | invalidScope key => "Invalid session or project key: " ++ key
  | invalidKind text => "Unknown statement kind: " ++ text

end DmlOutline
