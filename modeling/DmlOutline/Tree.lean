import DmlOutline.Outline

/-!
# Statement trees

A finished tree of statements keeps its nodes in the order in which they were entered, and nodes
refer to each other by their place in that order. Node zero is the root. Places are numbers without
bound; they are the ids of 32 bits as long as fewer than 2³² statements are entered.

* `Tree.Node`, `Tree` — a node with the ids of its parent and children, and all nodes.
* `Tree.depthFirst` — the ids in the order of a walk that visits a node before its children.
* `Tree.outline` — the tree without its ids.
-/

namespace DmlOutline

/-- A statement of a tree. -/
structure Tree.Node where
  kind : StatementKind
  firstLine : Nat
  lastLine : Nat
  parent : Option Nat := none
  /-- The ids of the statements right inside it, in the order of the text. -/
  children : List Nat := []
  deriving DecidableEq, Repr

/-- A finished tree of statements. -/
structure Tree where
  nodes : List Tree.Node
  deriving DecidableEq, Repr

namespace Tree

/-- The node with an id. -/
def node? (tree : Tree) (id : Nat) : Option Node :=
  tree.nodes[id]?

/-- The ids of the children of a node; an id of no node has none. -/
def children (tree : Tree) (id : Nat) : List Nat :=
  ((tree.node? id).map Node.children).getD []

/-- The id of the parent of a node; the root has none. -/
def parent? (tree : Tree) (id : Nat) : Option Nat :=
  (tree.node? id).bind Node.parent

/-- The number of nodes, the root included. -/
def size (tree : Tree) : Nat :=
  tree.nodes.length

/-- Whether the tree is nothing but its root. -/
def isEmpty (tree : Tree) : Bool :=
  tree.size = 1

/-- The ids that a walk visits, starting from pending ones, in at most `fuel` visits. -/
def visit (tree : Tree) : Nat → List Nat → List Nat
  | 0, _ => []
  | _ + 1, [] => []
  | fuel + 1, id :: pending => id :: visit tree fuel (tree.children id ++ pending)

/-- The ids in the order of a walk from the root that visits a node before its children. Every
node is visited once, so the number of nodes bounds the walk. -/
def depthFirst (tree : Tree) : List Nat :=
  tree.visit tree.size [0]

/-- The outline of a node, whose descendants are at most `fuel` levels deep. -/
def outlineAt (tree : Tree) : Nat → Nat → Option Outline
  | 0, _ => none
  | fuel + 1, id =>
    (tree.node? id).map fun node =>
      .node node.kind node.firstLine node.lastLine (node.children.filterMap (tree.outlineAt fuel))

/-- The tree without its ids. No path is longer than the number of nodes. -/
def outline (tree : Tree) : Outline :=
  (tree.outlineAt tree.size 0).getD (.node .root 0 0 [])

end Tree

end DmlOutline
