import DmlOutline.Json.Member
import DmlOutline.ProgramUnit.Header
import DmlOutline.Text.Split
import DmlOutline.Text.UpperCase

/-!
# Program units

A source text may declare a program unit that is stored in a database: a package, its body, a
procedure, a function or a trigger.

* `UnitKind` — the five kinds, with the tag each is stored as and the label it is shown as.
* `ProgramUnit` — a unit: its kind, its schema, if one is named, and its name.
* `ProgramUnit.ofText?` — the first unit that a text declares.
-/

namespace DmlOutline

/-- A kind of program unit. -/
inductive UnitKind where
  | package
  | packageBody
  | procedure
  | function
  | trigger
  deriving DecidableEq, Repr

namespace UnitKind

/-- All kinds. -/
def all : List UnitKind :=
  [package, packageBody, procedure, function, trigger]

/-- The word that a kind is stored as. -/
def tag : UnitKind → String
  | package => "PACKAGE"
  | packageBody => "PACKAGE_BODY"
  | procedure => "PROCEDURE"
  | function => "FUNCTION"
  | trigger => "TRIGGER"

/-- The words that a kind is shown as. -/
def label : UnitKind → String
  | package => "PACKAGE"
  | packageBody => "PACKAGE BODY"
  | procedure => "PROCEDURE"
  | function => "FUNCTION"
  | trigger => "TRIGGER"

/-- The kind with exactly this tag. -/
def ofTag? (text : String) : Option UnitKind :=
  all.find? (·.tag = text)

/-- A tag is read as its own kind. -/
@[simp] theorem ofTag?_tag (kind : UnitKind) : ofTag? kind.tag = some kind := by
  cases kind <;> rfl

/-- The kind that the words of a header name; what no other kind is called is a trigger. -/
def ofWords (words : List Char) : UnitKind :=
  let upper := Text.upper words
  if "PACKAGE".toList.isPrefixOf upper && "BODY".toList.isSuffixOf upper then packageBody
  else if upper = "PACKAGE".toList then package
  else if upper = "PROCEDURE".toList then procedure
  else if upper = "FUNCTION".toList then function
  else trigger

end UnitKind

/-- A program unit that a text declares. -/
structure ProgramUnit where
  kind : UnitKind
  schema : Option String
  name : String
  deriving DecidableEq, Repr

namespace ProgramUnit

/-! ## From the header to the unit -/

/-- A text without the white space at its end. -/
def trimEnd (text : List Char) : List Char :=
  (text.reverse.dropWhile Text.isSpace).reverse

/-- A text without the white space at its beginning. -/
def trimStart (text : List Char) : List Char :=
  text.dropWhile Text.isSpace

/-- Parts that stood between dots, without the white space at the dots; the first part has none
before it, and the last none after it. -/
def trimAtDots : List (List Char) → List (List Char)
  | [] => []
  | [only] => [only]
  | first :: rest => trimEnd first :: trimRest rest
where
  /-- Parts that a dot stands before. -/
  trimRest : List (List Char) → List (List Char)
    | [] => []
    | [last] => [trimStart last]
    | part :: rest => trimEnd (trimStart part) :: trimRest rest

/-- The schema and the name in a declared name: all before the last dot, and all after it. Quotes do
not count, and neither does white space around a dot. -/
def qualified (declared : List Char) : Option String × String :=
  let parts := trimAtDots (Text.split '.' (declared.filter (· ≠ '"')))
  let name := String.ofList (parts.getLast?.getD [])
  match parts.dropLast with
  | [] => (none, name)
  | schema => (some (String.ofList (Text.joinWith '.' schema)), name)

/-- The first unit that a text declares. -/
def ofText? (text : String) : Option ProgramUnit :=
  (Header.find? none text.toList).map fun header =>
    let (schema, name) := qualified header.declared
    ⟨UnitKind.ofWords header.words, schema, name⟩

/-- The name of the first unit that a text declares. -/
def nameOfText? (text : String) : Option String :=
  (ofText? text).map (·.name)

/-! ## As JSON -/

/-- A unit as a JSON value. -/
def toJson (object : ProgramUnit) : Json :=
  .object
    [("kind", .string object.kind.tag), ("schema", (object.schema.map .string).getD .null),
      ("name", .string object.name)]

/-- Reads a unit. -/
def ofJson? (value : Json) : Option ProgramUnit := do
  match ← Json.members? ["kind", "schema", "name"] value with
  | [kind, schema, name] =>
    let kind ← kind.required (Json.tag? true)
    let kind ← UnitKind.ofTag? kind
    let schema ← schema.nullable Json.text?
    let name ← name.required Json.text?
    some ⟨kind, schema, name⟩
  | _ => none

end ProgramUnit

end DmlOutline
