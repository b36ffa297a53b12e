import DmlOutline.Error
import DmlOutline.Event
import DmlOutline.Tree

/-!
# Building trees from events

A draft takes the events of a walk one by one, in place, and keeps the nodes so far and the ids of
the statements that are open. An event that does not fit is refused, and the draft can be used
further.

* `Tree.Draft` — the nodes and the open statements; `Draft.empty` holds the root alone.
* `Draft.Change` — a change in place; `Change.take` is one event, `Draft.feed` many, whatever is
  refused.
* `Draft.accept`, `Draft.acceptAll` — the draft after events none of which is refused.
* `Draft.toTree` — the tree, if no statement is open.
* `Tree.ofEvents` — a whole list of events.
-/

namespace DmlOutline.Tree

/-- The nodes entered so far, and the ids of the open statements, the innermost first. The root,
which is always open, is not among them. -/
structure Draft where
  nodes : List Node
  pending : List Nat
  deriving DecidableEq, Repr

namespace Draft

/-- The draft that holds the root alone. -/
def empty : Draft :=
  ⟨[{ kind := .root, firstLine := 0, lastLine := 0 }], []⟩

/-- The number of open statements. -/
def openCount (draft : Draft) : Nat :=
  draft.pending.length

/-- The id of the innermost open node. -/
def innermost (draft : Draft) : Nat :=
  draft.pending.head?.getD 0

/-! ## Changes in place -/

/-- A change of a draft in place. Where it is refused, what was changed before stays changed. -/
abbrev Change :=
  ExceptT Error (StateM Draft)

/-- Adds a node at the end. -/
def addNode (draft : Draft) (node : Node) : Draft :=
  { draft with nodes := draft.nodes ++ [node] }

/-- Changes the node with an id. -/
def changeNode (draft : Draft) (id : Nat) (change : Node → Node) : Draft :=
  { draft with nodes := draft.nodes.modify id change }

/-- Enters a statement: a new node, the last child of the innermost open one. -/
def Change.enter (kind : StatementKind) (line : Nat) : Change Unit := do
  if kind = .root then throw (.unbalanced line .rootEntered)
  let parent := (← get).innermost
  let id := (← get).nodes.length
  modify (·.changeNode parent fun node => { node with children := node.children ++ [id] })
  modify (·.addNode { kind, firstLine := line, lastLine := line, parent := some parent })
  modify fun draft => { draft with pending := id :: draft.pending }

/-- Closes the innermost open statement, which must be of this kind and begin no later. -/
def Change.close (id : Nat) (node : Node) (kind : StatementKind) (line : Nat) : Change Unit := do
  if node.kind ≠ kind then throw (.unbalanced line (.otherOpen kind node.kind))
  if line < node.firstLine then throw (.unbalanced line (.endsEarly kind node.firstLine))
  modify (·.changeNode id ({ · with lastLine := line }))
  modify fun draft => { draft with pending := draft.pending.tail }

/-- Leaves the innermost open statement, if there is one. -/
def Change.exit (kind : StatementKind) (line : Nat) : Change Unit := do
  match (← get).pending with
  | [] => throw (.unbalanced line (.nothingOpen kind))
  | id :: _ =>
    match (← get).nodes[id]? with
    | none => throw (.unbalanced line (.nothingOpen kind))
    | some node => Change.close id node kind line

/-- Takes one event. -/
def Change.take : Event → Change Unit
  | .enter kind line => Change.enter kind line
  | .exit kind line => Change.exit kind line

/-- Takes events in turn, whatever is refused, and tells what came of each. -/
def feed : List Event → StateM Draft (List (Except Error Unit))
  | [] => return []
  | event :: rest => do
    let answer ← (Change.take event).run
    return answer :: (← feed rest)

/-! ## Whole lists of events -/

/-- The draft after one event that is not refused. -/
def accept (draft : Draft) (event : Event) : Except Error Draft :=
  match (Change.take event).run draft with
  | (.ok (), next) => .ok next
  | (.error error, _) => .error error

/-- Takes events in turn, up to the first that does not fit. -/
def acceptAll (draft : Draft) : List Event → Except Error Draft
  | [] => .ok draft
  | event :: rest =>
    match draft.accept event with
    | .error error => .error error
    | .ok next => acceptAll next rest

/-- The last line of any node. -/
def lastLine (draft : Draft) : Nat :=
  (draft.nodes.map Node.lastLine).foldl max 0

/-- The finished tree, whose root ends on the last line of all. No statement may be open. -/
def toTree (draft : Draft) : Except Error Tree :=
  if draft.openCount > 0 then .error (.unclosed draft.openCount)
  else .ok ⟨draft.nodes.modify 0 ({ · with lastLine := draft.lastLine })⟩

end Draft

/-- The tree of a complete list of events. -/
def ofEvents (events : List Event) : Except Error Tree :=
  match Draft.empty.acceptAll events with
  | .error error => .error error
  | .ok draft => draft.toTree

end DmlOutline.Tree
