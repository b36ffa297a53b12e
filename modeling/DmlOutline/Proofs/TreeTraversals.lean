import DmlOutline.Outline.Render
import DmlOutline.Proofs.TreeOfEvents
import Mathlib.Data.List.Forall2

/-!
# All ways through a tree

The ids of a tree were given in the order in which its statements were entered. The walk from the
root meets them in that order, and so do the outline of the tree and the lines that it is shown
with. Ids are numbers without bound, which stand for ids of 32 bits where fewer than 2³² statements
are entered.

* `Tree.Visits` — what a walk visits that comes to an end; the walk itself only has so many visits.
* `Tree.Level` — how many nodes are above a node.
* `Tree.Node.label`, `Outline.label` — what is said of a statement.

Principal results: `Tree.visits_ofParts`, `Tree.labels_ofParts`, `Tree.shows_ofParts`: the walk, the
outline and the lines of a laid out tree; `Tree.traversals_agree`.
-/

namespace DmlOutline

/-! ## Nodes and what is said of them -/

/-- The kind of the top statement, and its lines. -/
def Outline.label (outline : Outline) : StatementKind × Nat × Nat :=
  (outline.kind, outline.firstLine, outline.lastLine)

namespace Tree

open Outline

/-- The kind of a statement, and its lines. -/
def Node.label (node : Node) : StatementKind × Nat × Nat :=
  (node.kind, node.firstLine, node.lastLine)

/-- The line that a node on a level is shown with. -/
def Node.line (style : StatementKind → String → String) (level : Nat) (node : Node) : String :=
  String.ofList (List.replicate (2 * level) ' ') ++ style node.kind node.kind.tag ++ " "
    ++ toString node.firstLine ++ "-" ++ toString node.lastLine

/-- The number of nodes above a node, each the parent of the one before. -/
inductive Level (tree : Tree) : Nat → Nat → Prop
  | root {id : Nat} (h : tree.parent? id = none) : Level tree id 0
  | step {id parent level : Nat} (h : tree.parent? id = some parent)
    (hparent : Level tree parent level) : Level tree id (level + 1)

/-- A walk from pending ids, which visits every node before its children, comes to an end when it
has visited these ids in this order. -/
inductive Visits (tree : Tree) : List Nat → List Nat → Prop
  | done : Visits tree [] []
  | visit {id : Nat} {pending order : List Nat}
    (hrest : Visits tree (tree.children id ++ pending) order) :
    Visits tree (id :: pending) (id :: order)

variable {tree : Tree}

/-- A walk that comes to an end needs no more visits than there are ids. -/
theorem Visits.visit_eq {pending order : List Nat} (h : tree.Visits pending order) {fuel : Nat}
    (hfuel : order.length ≤ fuel) : tree.visit fuel pending = order := by
  induction h generalizing fuel with
  | done => cases fuel <;> rfl
  | visit hrest ih =>
    cases fuel with
    | zero => exact absurd hfuel (Nat.not_succ_le_zero _)
    | succ fuel => rw [Tree.visit, ih (Nat.le_of_succ_le_succ hfuel)]

/-! ## The walk -/

/-- The ids of outlines in a row are those of the first one, and after them those of the others. -/
theorem range'_partsCount (id : Nat) (part : Outline) (rest : List Outline) :
    List.range' id (partsCount (part :: rest)) = List.range' id (part.statementCount + 1) ++
      List.range' (id + 1 + part.statementCount) (partsCount rest) := by
  rw [partsCount, Nat.add_comm 1, ← List.range'_append_1, Nat.add_assoc, Nat.add_comm 1]

mutual

theorem visits_of_nodesAt {parent id : Nat} {pending order : List Nat}
    (hpending : tree.Visits pending order) : (outline : Outline) →
      tree.NodesAt id (nodesFrom parent id outline) →
      tree.Visits (id :: pending) (List.range' id (outline.statementCount + 1) ++ order)
  | .node kind firstLine lastLine parts, h => by
    have hchildren : tree.children id = partIds (id + 1) parts := by
      rw [children, h.node?_eq]
      rfl
    rw [statementCount, List.range'_succ, List.cons_append]
    refine .visit ?_
    rw [hchildren]
    exact visits_of_partNodesAt hpending parts h.tail

theorem visits_of_partNodesAt {parent id : Nat} {pending order : List Nat}
    (hpending : tree.Visits pending order) : (parts : List Outline) →
      tree.NodesAt id (partNodes parent id parts) →
      tree.Visits (partIds id parts ++ pending) (List.range' id (partsCount parts) ++ order)
  | [], _ => hpending
  | part :: rest, h => by
    have hrest := visits_of_partNodesAt hpending rest h.rest
    have hpart := visits_of_nodesAt hrest part h.part
    rw [range'_partsCount, List.append_assoc]
    exact hpart

end

/-- **The walk through a laid out tree ends, and visits the ids in their order.** -/
theorem visits_ofParts (parts : List Outline) :
    (ofParts parts).Visits [0] (List.range (ofParts parts).size) := by
  have hparts : (ofParts parts).Visits (partIds 1 parts ++ [])
      (List.range' 1 (partsCount parts) ++ []) :=
    visits_of_partNodesAt .done parts (nodesAt_ofParts parts)
  rw [size_ofParts, List.range_eq_range', List.range'_succ]
  refine .visit ?_
  rwa [List.append_nil (List.range' _ _)] at hparts

/-! ## The outline -/

mutual

theorem map_label_nodesFrom (parent id : Nat) : (outline : Outline) →
    (nodesFrom parent id outline).map Node.label = outline.within.map label
  | .node kind firstLine lastLine parts => by
    rw [nodesFrom, within, List.map_cons, List.map_cons, map_label_partNodes]
    rfl

theorem map_label_partNodes (parent id : Nat) : (parts : List Outline) →
    (partNodes parent id parts).map Node.label = (partsWithin parts).map label
  | [] => rfl
  | part :: rest => by
    rw [partNodes, partsWithin, List.map_append, List.map_append, map_label_nodesFrom,
      map_label_partNodes]

end

/-- The nodes of a laid out tree are its statements, in the order of the outline. -/
theorem labels_ofParts (parts : List Outline) :
    (ofParts parts).nodes.map Node.label = (ofParts parts).outline.within.map label := by
  rw [outline_ofParts, within, ofParts, List.map_cons, List.map_cons, map_label_partNodes]
  rfl

/-- The root holds the outline of a laid out tree. -/
theorem holds_outline_ofParts (parts : List Outline) :
    (ofParts parts).Holds 0 (ofParts parts).outline := by
  rw [outline_ofParts]
  exact ⟨_, node?_zero_ofParts parts, rfl, rfl, rfl, holdsAll_ofParts parts⟩

/-- The nodes with the ids in their order are all nodes. -/
theorem map_node?_range (tree : Tree) :
    (List.range tree.size).map tree.node? = tree.nodes.map some := by
  refine List.ext_getElem (by simp [size]) fun i hi hi' => ?_
  have hlt : i < tree.nodes.length := by simpa using hi'
  simp [node?, hlt]

/-! ## The lines -/

/-- The line that the node with an id is shown with, indented by its level. -/
def Shows (tree : Tree) (style : StatementKind → String → String) (id : Nat) (line : String) :
    Prop :=
  ∃ node level, tree.node? id = some node ∧ tree.Level id level ∧ line = node.line style level

variable {style : StatementKind → String → String}

mutual

theorem shows_of_nodesAt {parent id level : Nat} (hlevel : tree.Level parent level) :
    (outline : Outline) → tree.NodesAt id (nodesFrom parent id outline) →
      List.Forall₂ (tree.Shows style) (List.range' id (outline.statementCount + 1))
        (renderAt style (level + 1) outline)
  | .node kind firstLine lastLine parts, h => by
    have hnode := h.node?_eq
    have hown : tree.Level id (level + 1) := .step (by rw [parent?, hnode]; rfl) hlevel
    rw [statementCount, List.range'_succ, renderAt]
    exact .cons ⟨_, level + 1, hnode, hown, rfl⟩ (shows_of_partNodesAt hown parts h.tail)

theorem shows_of_partNodesAt {parent id level : Nat} (hlevel : tree.Level parent level) :
    (parts : List Outline) → tree.NodesAt id (partNodes parent id parts) →
      List.Forall₂ (tree.Shows style) (List.range' id (partsCount parts))
        (renderParts style (level + 1) parts)
  | [], _ => .nil
  | part :: rest, h => by
    have hpart := shows_of_nodesAt hlevel part h.part
    have hrest := shows_of_partNodesAt hlevel rest h.rest
    rw [range'_partsCount, renderParts]
    exact List.rel_append hpart hrest

end

/-- **Each node of a laid out tree is shown on a line, in the order of the ids.** -/
theorem shows_ofParts (parts : List Outline) :
    List.Forall₂ ((ofParts parts).Shows style) (List.range (ofParts parts).size)
      ((ofParts parts).outline.render style) := by
  have hroot : (ofParts parts).Level 0 0 := .root (by rw [parent?, node?_zero_ofParts]; rfl)
  have hparts : List.Forall₂ ((ofParts parts).Shows style) (List.range' 1 (partsCount parts))
      (renderParts style 1 parts) :=
    shows_of_partNodesAt hroot parts (nodesAt_ofParts parts)
  rw [outline_ofParts, size_ofParts, List.range_eq_range', List.range'_succ, render, renderAt]
  exact .cons ⟨_, 0, node?_zero_ofParts parts, hroot, rfl⟩ hparts

/-! ## Trees of drafts -/

/-- **All ways through a finished tree agree.** -/
theorem traversals_agree {events : List Event}
    (h : (Draft.empty.after events).toTree = .ok tree) :
    (tree.Visits [0] tree.depthFirst ∧ tree.depthFirst = List.range tree.size) ∧
      (tree.Holds 0 tree.outline ∧ tree.outline.within.map (fun part => some part.label) =
        tree.depthFirst.map fun id => (tree.node? id).map Node.label) ∧
      (∀ style, List.Forall₂ (fun id line => ∃ node level, tree.node? id = some node ∧
        tree.Level id level ∧ line = node.line style level) tree.depthFirst
        (tree.outline.render style)) ∧
      tree.outline.statementCount + 1 = tree.size := by
  rw [← Draft.ofEvents_taken] at h
  obtain ⟨parts, -, -, rfl⟩ := ofEvents_eq_ok_iff.mp h
  have hvisits := visits_ofParts parts
  have hwalk : (ofParts parts).depthFirst = List.range (ofParts parts).size :=
    hvisits.visit_eq (Nat.le_of_eq List.length_range)
  refine ⟨⟨by rw [hwalk]; exact hvisits, hwalk⟩, ⟨holds_outline_ofParts parts, ?_⟩, ?_, ?_⟩
  · have hnodes := congrArg (List.map (Option.map Node.label)) (map_node?_range (ofParts parts))
    have hlabels := congrArg (List.map some) (labels_ofParts parts)
    rw [List.map_map, List.map_map] at hnodes hlabels
    rw [hwalk]
    exact hlabels.symm.trans hnodes.symm
  · intro style
    rw [hwalk]
    exact shows_ofParts parts
  · rw [outline_ofParts, Outline.statementCount, size_ofParts]

/-- A statement with a query inside, an exit that is refused, and another statement. -/
def strayExit : List Event :=
  [.enter .update 1, .enter .select 2, .exit .delete 2, .exit .select 2, .exit .update 3,
    .enter .delete 3, .exit .delete 4]

/-- The tree of these events without the refused one. -/
def strayExitTree : Tree :=
  ⟨[⟨.root, 0, 4, none, [1, 3]⟩, ⟨.update, 1, 3, some 0, [2]⟩, ⟨.select, 2, 2, some 1, []⟩,
    ⟨.delete, 3, 4, some 0, []⟩]⟩

theorem traversals_agree_stray_exit :
    (Draft.empty.after strayExit).toTree = .ok strayExitTree ∧
      strayExitTree.depthFirst = [0, 1, 2, 3] ∧
      strayExitTree.outline.within.map (fun part => some part.label) =
        [some (.root, 0, 4), some (.update, 1, 3), some (.select, 2, 2), some (.delete, 3, 4)] ∧
      (strayExitTree.outline.render fun _ tag => tag) =
        ["ROOT 0-4", "  UPDATE 1-3", "    SELECT 2-2", "  DELETE 3-4"] ∧
      (∃ node level, strayExitTree.node? 2 = some node ∧ strayExitTree.Level 2 level ∧
        "    SELECT 2-2" = node.line (fun _ tag => tag) level) ∧
      strayExitTree.outline.statementCount + 1 = 4 := by
  have htree : (Draft.empty.after strayExit).toTree = .ok strayExitTree := rfl
  have hshown : (strayExitTree.outline.render fun _ tag => tag) =
      ["ROOT 0-4", "  UPDATE 1-3", "    SELECT 2-2", "  DELETE 3-4"] := by decide +kernel
  obtain ⟨⟨-, hwalk⟩, ⟨-, hlabels⟩, hlines, hcount⟩ := traversals_agree htree
  have hline := hlines fun _ tag => tag
  rw [hshown, hwalk] at hline
  refine ⟨htree, hwalk, ?_, hshown, ?_, hcount⟩
  · rw [hlabels, hwalk]
    rfl
  · obtain _ | ⟨-, _ | ⟨-, _ | ⟨hselect, -⟩⟩⟩ := hline
    exact hselect

end Tree

end DmlOutline
