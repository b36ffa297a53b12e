import DmlOutline.Error
import DmlOutline.Event
import DmlOutline.Token

/-!
# Statements among tokens

The scan walks over tokens and tells where statements begin and end. It needs no grammar of SQL:
keywords, parentheses, line breaks and terminators are enough.

* A keyword opens a statement, unless it stands in a clause.
* A closing parenthesis closes the statements inside it; a semicolon those of its own depth; a
  slash alone on its line all of them.
* A keyword that leads its line closes a statement that was left without a terminator.

`Scan.State` holds the statements that are open. `Scan.step` reads one token, with the one before
and those after it in sight, and tells the events it causes; `Scan.run` reads many, and
`Event.ofTokens` a whole text.
-/

namespace DmlOutline

namespace Scan

/-! ## Words that keep a keyword in its clause -/

/-- Words after which a keyword belongs to a clause: the events of a trigger, the actions of a
reference and the lists of privileges. -/
def clauseWords : List String :=
  ["BEFORE", "AFTER", "OR", "OF", "ON", "INSTEAD", "GRANT", "REVOKE", "AUDIT", "NOAUDIT"]

/-- Words after which the open statement goes on, even on a new line. -/
def continuationWords : List String :=
  ["UNION", "ALL", "INTERSECT", "MINUS", "EXCEPT", "FOR", "THEN"]

/-- Whether a keyword after this token belongs to a clause. -/
def endsInClause (token : Token) : Bool :=
  clauseWords.any token.isWord || token.isSymbol "." || token.isSymbol ","

/-- Whether a statement goes on after this token. -/
def continues (token : Token) : Bool :=
  endsInClause token || continuationWords.any token.isWord

/-- Whether the tokens after a `WITH` make it the beginning of a query: a name with `AS` or an
opening parenthesis after it, or `RECURSIVE`. -/
def startsQuery : List Token → Bool
  | [] => false
  | name :: rest =>
    name.isWord "RECURSIVE" ||
      ((name.kind = .word || name.kind = .quotedIdent) &&
        rest.head?.any fun next => next.isWord "AS" || next.kind = .openParen)

/-- Whether a token is a slash alone on its line. -/
def isLoneSlash (before : Option Token) (token : Token) (after : List Token) : Bool :=
  token.isSymbol "/" && before.all (·.line < token.line) && after.head?.all (token.line < ·.line)

/-! ## Open statements -/

/-- A statement that is open. -/
structure Frame where
  kind : StatementKind
  /-- The number of parentheses around it. -/
  depth : Nat
  /-- It begins right after an opening parenthesis, so it ends with the closing one. -/
  parenthesized : Bool
  /-- It began with `WITH`, and its own query is still to come. -/
  awaitsQuery : Bool
  deriving DecidableEq, Repr

/-- What the scan knows at a place: the open statements, the innermost first, the number of open
parentheses, and the line of the token before. -/
structure State where
  statements : List Frame := []
  depth : Nat := 0
  lastLine : Nat := 0
  deriving DecidableEq, Repr

namespace State

/-- The statement that is open at the present depth. -/
def current (state : State) : Option Frame :=
  state.statements.head?.filter (·.depth = state.depth)

/-- Opens a statement. -/
def enter (state : State) (kind : StatementKind) (parenthesized awaitsQuery : Bool) : State :=
  { state with statements := ⟨kind, state.depth, parenthesized, awaitsQuery⟩ :: state.statements }

/-- The event of closing a statement: on the line of the closing parenthesis if it ends with it,
else on the line of the last token. -/
def exitEvent (state : State) (closing : Option Nat) (frame : Frame) : Event :=
  .exit frame.kind (if frame.parenthesized then closing.getD state.lastLine else state.lastLine)

/-- Closes the statements of at least some depth. -/
def closeDownTo (state : State) (depth : Nat) (closing : Option Nat) : State × List Event :=
  let inner := state.statements.takeWhile (depth ≤ ·.depth)
  ({ state with statements := state.statements.drop inner.length },
    inner.map (state.exitEvent closing))

end State

/-! ## Keywords -/

/-- What a keyword means at its place. -/
inductive Role where
  /-- It opens a statement inside those that are open. -/
  | opens
  /-- It closes the statement of its depth and opens the next one. -/
  | restarts
  /-- It is the query that a `WITH` announced. -/
  | withBody
  /-- It belongs to a clause or to the open statement. -/
  | clause
  deriving DecidableEq, Repr

/-- What a keyword of a kind means on its line, after the token before it. -/
def role (state : State) (kind : StatementKind) (line : Nat) (before : Option Token) :
    Role :=
  match state.current with
  | none => if before.any endsInClause then .clause else .opens
  | some frame =>
    if frame.awaitsQuery && kind = .select then .withBody
    else if frame.kind = .insert && kind = .select then .opens
    else if before.any (·.line < line) && !before.any continues && !frame.awaitsQuery &&
        frame.kind ≠ .merge then
      .restarts
    else .clause

/-- Opens a statement with a keyword: on the line of an opening parenthesis right before it, else
on its own line. -/
def opening (state : State) (kind : StatementKind) (line : Nat) (before : Option Token)
    (awaitsQuery : Bool) : State × List Event :=
  match before.filter (·.kind = .openParen) with
  | some paren => (state.enter kind true awaitsQuery, [.enter kind paren.line])
  | none => (state.enter kind false awaitsQuery, [.enter kind line])

/-- The `WITH` of the innermost open statement has found its query. -/
def State.foundQuery (state : State) : State :=
  match state.statements with
  | [] => state
  | frame :: outer => { state with statements := { frame with awaitsQuery := false } :: outer }

/-- Reads a keyword of a kind; `awaitsQuery` tells that it is a `WITH`. -/
def keyword (state : State) (kind : StatementKind) (line : Nat) (before : Option Token)
    (awaitsQuery : Bool) : State × List Event :=
  match role state kind line before with
  | .clause => (state, [])
  | .withBody => (state.foundQuery, [])
  | .opens => opening state kind line before awaitsQuery
  | .restarts =>
    let (closed, exits) := state.closeDownTo state.depth none
    let (opened, enters) := opening closed kind line before awaitsQuery
    (opened, exits ++ enters)

/-- The kind of the statement that a word begins, and whether it does so as a `WITH`. -/
def keywordKind? (token : Token) (after : List Token) : Option (StatementKind × Bool) :=
  match StatementKind.ofKeyword? token.keyword with
  | some kind => some (kind, false)
  | none => if token.isWord "WITH" && startsQuery after then some (.select, true) else none

/-! ## Tokens -/

/-- What a token does to the open statements, before its line is noted. -/
def act (state : State) (before : Option Token) (token : Token) (after : List Token) :
    Except Error (State × List Event) :=
  match token.kind with
  | .openParen => .ok ({ state with depth := state.depth + 1 }, [])
  | .closeParen =>
    if state.depth = 0 then .error (.parse token.line .unbalancedParenthesis)
    else
      let (closed, exits) := state.closeDownTo state.depth (some token.line)
      .ok ({ closed with depth := state.depth - 1 }, exits)
  | .semicolon => .ok (state.closeDownTo state.depth none)
  | .symbol =>
    if isLoneSlash before token after then
      let (closed, exits) := state.closeDownTo 0 none
      .ok ({ closed with depth := 0 }, exits)
    else .ok (state, [])
  | .word =>
    match keywordKind? token after with
    | some (kind, awaitsQuery) => .ok (keyword state kind token.line before awaitsQuery)
    | none => .ok (state, [])
  | _ => .ok (state, [])

/-- Reads one token. -/
def step (state : State) (before : Option Token) (token : Token) (after : List Token) :
    Except Error (State × List Event) :=
  (act state before token after).map fun (next, events) =>
    ({ next with lastLine := token.line }, events)

/-- Reads tokens, given the one before them. -/
def run (state : State) (before : Option Token) : List Token → Except Error (State × List Event)
  | [] => .ok (state, [])
  | token :: rest =>
    match step state before token rest with
    | .error error => .error error
    | .ok (next, events) =>
      match run next (some token) rest with
      | .error error => .error error
      | .ok (final, more) => .ok (final, events ++ more)

end Scan

/-- The events of a list of tokens; the statements that are open at its end are closed. -/
def Event.ofTokens (tokens : List Token) : Except Error (List Event) :=
  (Scan.run {} none tokens).map fun (final, events) => events ++ (final.closeDownTo 0 none).2

end DmlOutline
