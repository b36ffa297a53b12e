import DmlOutline.Statement

/-!
# Events

A walk through the statements of a text, outer statements before the ones inside them, is told
as a list of events: a statement is entered on one line and left on another.

* `Event` — one step of the walk.
* `Event.kind`, `Event.line` — what every event has.
-/

namespace DmlOutline

/-- One step of a walk through nested statements. -/
inductive Event where
  /-- A statement begins on a line. -/
  | enter (kind : StatementKind) (line : Nat)
  /-- The innermost open statement ends on a line. -/
  | exit (kind : StatementKind) (line : Nat)
  deriving DecidableEq, Repr

namespace Event

/-- The kind of the statement that is entered or left. -/
def kind : Event → StatementKind
  | enter kind _ => kind
  | exit kind _ => kind

/-- The line that the event is on. -/
def line : Event → Nat
  | enter _ line => line
  | exit _ line => line

end Event

end DmlOutline
