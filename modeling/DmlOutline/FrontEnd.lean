import DmlOutline.Scan
import DmlOutline.Token.Lexer
import DmlOutline.Tree.Draft

/-!
# Front ends

A front end turns a source text into the events of a walk through its statements. Outlines can be
taken with any; the library has one of its own.

* `FrontEnd` — a name and the events of a text.
* `FrontEnd.parse` — the tree of a text.
* `FrontEnd.dml` — the front end that scans for statements that query or change data.
-/

namespace DmlOutline

/-- A way to read source texts. -/
structure FrontEnd where
  name : String
  events : String → Except Error (List Event)

namespace FrontEnd

/-- The tree of a text. -/
def parse (frontEnd : FrontEnd) (text : String) : Except Error Tree :=
  match frontEnd.events text with
  | .error error => .error error
  | .ok events => Tree.ofEvents events

/-- The front end that scans the tokens of a text for statements. -/
def dml : FrontEnd where
  name := "dml-scanner"
  events text :=
    match Token.ofText text with
    | .error error => .error error
    | .ok tokens => Event.ofTokens tokens

end FrontEnd

end DmlOutline
