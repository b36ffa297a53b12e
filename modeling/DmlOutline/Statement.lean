import DmlOutline.Text.UpperCase

/-!
# Statement kinds

The statements that an outline keeps: queries, the four kinds of data change, and the root that
stands above all of them.

* `StatementKind` — the six kinds; `StatementKind.tag` is the word each is written as.
* `StatementKind.ofTag?` — reads a tag exactly as it is written.
* `StatementKind.ofKeyword?` — reads an upper-case keyword that begins a statement.
* `StatementKind.ofText?` — reads a tag in any case.
* `StatementKind.ofTag?_tag`, `StatementKind.ofKeyword?_tag` — reading gives back what is written.
-/

namespace DmlOutline

/-- A kind of statement; `root` is the node above all statements of a text. -/
inductive StatementKind where
  | root
  | select
  | insert
  | update
  | delete
  | merge
  deriving DecidableEq, Repr, Inhabited

namespace StatementKind

/-- All kinds, the root first. -/
def all : List StatementKind :=
  [root, select, insert, update, delete, merge]

/-- The word that a kind is written as. -/
def tag : StatementKind → String
  | root => "ROOT"
  | select => "SELECT"
  | insert => "INSERT"
  | update => "UPDATE"
  | delete => "DELETE"
  | merge => "MERGE"

/-- The kind with exactly this tag. -/
def ofTag? (text : String) : Option StatementKind :=
  all.find? (·.tag = text)

/-- The kind of the statements that begin with this upper-case keyword. -/
def ofKeyword? (word : String) : Option StatementKind :=
  all.tail.find? (·.tag = word)

/-- The kind whose tag is the upper case of a text. -/
def ofText? (text : String) : Option StatementKind :=
  ofTag? (String.ofList (Text.upper text.toList))

/-- A tag is read as its own kind. -/
@[simp] theorem ofTag?_tag (kind : StatementKind) : ofTag? kind.tag = some kind := by
  cases kind <;> rfl

/-- Different kinds have different tags. -/
theorem tag_injective {a b : StatementKind} (h : a.tag = b.tag) : a = b := by
  have := ofTag?_tag a
  rw [h, ofTag?_tag] at this
  exact (Option.some.inj this).symm

/-- Every tag but the root's is a keyword that begins a statement of its kind. -/
theorem ofKeyword?_tag {kind : StatementKind} (h : kind ≠ root) :
    ofKeyword? kind.tag = some kind := by
  cases kind <;> first | exact absurd rfl h | rfl

/-- No keyword begins a root. -/
theorem ofKeyword?_ne_root (word : String) : ofKeyword? word ≠ some root := by
  intro h
  have := List.mem_of_find?_eq_some h
  simp [all] at this

end StatementKind

end DmlOutline
