import DmlOutline.Json.Member
import DmlOutline.Json.Parser
import DmlOutline.Json.Printer
import DmlOutline.Outline

/-!
# Outlines as JSON

An outline is stored as an object with its kind, its lines and the list of its parts.

* `Outline.toJson`, `Outline.write` — the JSON value and the text that is stored.
* `Outline.ofJson?`, `Outline.read?` — reading them back. A text may nest arrays and objects
  only so far, which bounds the height of the outlines that can be read.
-/

namespace DmlOutline.Outline

mutual

/-- An outline as a JSON value. -/
def toJson : Outline → Json
  | node kind firstLine lastLine parts =>
    .object
      [("type", .string kind.tag), ("startLine", .nat firstLine), ("endLine", .nat lastLine),
        ("children", .array (partsToJson parts))]

/-- Outlines as JSON values. -/
def partsToJson : List Outline → List Json
  | [] => []
  | part :: rest => toJson part :: partsToJson rest

end

/-- The text that stores an outline. -/
def write (outline : Outline) : String :=
  outline.toJson.pretty

/-- The names of the members of an outline. -/
def memberNames : List String :=
  ["type", "startLine", "endLine", "children"]

/-- Reads the members of an outline, given how its kind may be written and how its parts are read.
An outline without parts may leave them out. -/
def ofMembers? (kindObjects : Bool) (readParts : Json → Option (List Outline)) :
    List Json.Member → Option Outline
  | [kind, firstLine, lastLine, parts] => do
    let kind ← kind.required (Json.tag? kindObjects)
    let kind ← StatementKind.ofTag? kind
    let firstLine ← firstLine.required Json.line?
    let lastLine ← lastLine.required Json.line?
    let parts ← parts.withDefault readParts []
    some (node kind firstLine lastLine parts)
  | _ => none

/-- Reads an outline that may nest this many arrays and objects. An outline is one, and the list of
its parts another. -/
def ofJson? : Nat → Json → Option Outline
  | 0, _ => none
  | 1, value => do
    ofMembers? false (fun _ => none) (← Json.members? memberNames value)
  | budget + 2, value => do
    ofMembers? true (Json.list? (ofJson? budget)) (← Json.members? memberNames value)

/-- How many arrays and objects a text may nest. -/
def maxNesting : Nat := 127

/-- Reads the text of an outline. -/
def read? (text : String) : Option Outline :=
  (Json.parse? text).bind (ofJson? maxNesting)

end DmlOutline.Outline
