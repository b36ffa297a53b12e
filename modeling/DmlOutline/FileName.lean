import DmlOutline.Error
import DmlOutline.Text.LowerCase
import DmlOutline.Text.UpperCase

/-!
# File names

What the store reads off the name of a file: whether it is a name at all, what is left without
its extension, and which type of source it announces.

* `Segment` — a text that names one entry of a directory; `Segment.ofFileName` checks a name.
* `FileName.base` — a name without its last extension.
* `FileName.isSql` — whether a name ends in `.sql`, in any case.
* `SourceType` — the type of a source, by the letters in its name.
-/

namespace DmlOutline

/-! ## Names of entries -/

/-- Whether a text names one entry of a directory: it is not empty, not one dot or two, and contains
no slash, backslash or NUL. -/
def isSegment (text : String) : Bool :=
  text ≠ "" && text ≠ "." && text ≠ ".." &&
    text.toList.all fun c => c != '/' && c != '\\' && c != '\x00'

/-- A text that names one entry of a directory. -/
def Segment := { text : String // isSegment text = true }

namespace Segment

instance : DecidableEq Segment :=
  inferInstanceAs (DecidableEq { text : String // isSegment text = true })

/-- The text of a name. -/
def text (segment : Segment) : String :=
  segment.1

/-- The name that a text is, if it is one. -/
def ofText? (text : String) : Option Segment :=
  if h : isSegment text = true then some ⟨text, h⟩ else none

/-- The name of a file, which must be one entry of a directory. -/
def ofFileName (name : String) : Except Error Segment :=
  match ofText? name with
  | some segment => .ok segment
  | none => .error (.invalidFileName name)

/-- The key of a session or a project, which must be one entry of a directory. -/
def ofScopeKey (key : String) : Except Error Segment :=
  match ofText? key with
  | some segment => .ok segment
  | none => .error (.invalidScope key)

/-- What a text is read as has that text. -/
theorem text_of_ofText? {text : String} {segment : Segment} (h : ofText? text = some segment) :
    segment.text = text := by
  unfold ofText? at h
  split at h
  · cases h
    rfl
  · cases h

end Segment

/-! ## Extensions -/

namespace FileName

/-- The reversed name from before its last dot on, with the dot. -/
def fromLastDot (name : String) : List Char :=
  name.toList.reverse.dropWhile (· ≠ '.')

/-- A name without its last extension. A dot at the very beginning begins no extension. -/
def base (name : String) : String :=
  match fromLastDot name with
  | [] => name
  | [_] => name
  | _ :: front => String.ofList front.reverse

/-- Whether a name ends in `.sql`, in any case. -/
def isSql (name : String) : Bool :=
  ".sql".toList.isSuffixOf (Text.lower name.toList)

end FileName

/-! ## Types -/

/-- The type of a source. -/
inductive SourceType where
  | plsql
  | ddl
  | sequence
  deriving DecidableEq, Repr

namespace SourceType

/-- All types. -/
def all : List SourceType :=
  [plsql, ddl, sequence]

/-- The word that a type is written as. -/
def tag : SourceType → String
  | plsql => "PLSQL"
  | ddl => "DDL"
  | sequence => "SEQ"

/-- The type with exactly this tag. -/
def ofTag? (text : String) : Option SourceType :=
  all.find? (·.tag = text)

/-- A tag is read as its own type. -/
@[simp] theorem ofTag?_tag (type : SourceType) : ofTag? type.tag = some type := by
  cases type <;> rfl

/-- Whether a text contains another. -/
def occurs (part : List Char) : List Char → Bool
  | [] => part.isEmpty
  | c :: rest => part.isPrefixOf (c :: rest) || occurs part rest

/-- The type that the letters of a name announce. A sequence comes before a definition. -/
def ofName (name : String) : SourceType :=
  let upper := Text.upper name.toList
  if occurs "SEQ".toList upper then sequence
  else if occurs "DDL".toList upper then ddl
  else plsql

end SourceType

end DmlOutline
