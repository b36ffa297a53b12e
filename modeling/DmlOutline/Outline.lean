import DmlOutline.Statement

/-!
# Outlines

The outline of a text is a tree of statements with their lines. It is what is stored of a text and
shown.

* `Outline` — a statement, its first and last line, and the statements inside it.
* `Outline.statementCount` — how many statements are below the top.
* `Outline.height` — how many levels of statements are below the top.
-/

namespace DmlOutline

/-- A statement with its lines and the statements inside it, in the order of the text. -/
inductive Outline where
  | node (kind : StatementKind) (firstLine lastLine : Nat) (parts : List Outline)
  deriving Repr, Inhabited

namespace Outline

/-- The kind of the top statement. -/
def kind : Outline → StatementKind
  | node kind _ _ _ => kind

/-- The line on which the top statement begins. -/
def firstLine : Outline → Nat
  | node _ firstLine _ _ => firstLine

/-- The line on which the top statement ends. -/
def lastLine : Outline → Nat
  | node _ _ lastLine _ => lastLine

/-- The statements right inside the top one. -/
def parts : Outline → List Outline
  | node _ _ _ parts => parts

mutual

/-- How many statements are below the top. -/
def statementCount : Outline → Nat
  | node _ _ _ parts => partsCount parts

/-- How many statements a list of outlines holds, their tops included. -/
def partsCount : List Outline → Nat
  | [] => 0
  | part :: rest => 1 + statementCount part + partsCount rest

end

mutual

/-- How many levels of statements are below the top. -/
def height : Outline → Nat
  | node _ _ _ parts => partsHeight parts

/-- How many levels of statements a list of outlines has. -/
def partsHeight : List Outline → Nat
  | [] => 0
  | part :: rest => max (1 + height part) (partsHeight rest)

end

end Outline

end DmlOutline
