import DmlOutline.Proofs.WellNested
import DmlOutline.Tree

/-!
# Trees laid out in the order of a walk

A tree that keeps its nodes in the order in which they are entered is fixed by the outlines below
its root: the ids of an outline and of all that is inside it are one run of numbers, and the top has
the least of them.

* `Outline.nodesFrom`, `Outline.partNodes`, `Outline.partIds` — the nodes of outlines in a row, and
  the ids of their tops.
* `Tree.ofParts` — the tree with these outlines below its root.
* `Tree.NodesAt` — some nodes of the tree in a row, and the id of the first one.
* `Tree.Holds` — the node with an id has the lines of an outline, and its children its parts.
* `Tree.walk` — the walk through a tree.

Principal results: `Tree.outline_ofParts`, `Tree.walk_ofParts`, and `Tree.holds_of_mem`: every node
but the root is the top of an outline below it.
-/

namespace DmlOutline

namespace Outline

/-! ## Nodes in a row -/

/-- The ids of the tops of outlines whose nodes begin with an id. -/
def partIds (id : Nat) : List Outline → List Nat
  | [] => []
  | part :: rest => id :: partIds (id + 1 + part.statementCount) rest

mutual

/-- The nodes of an outline, in the order of their ids, which begin with `id`. -/
def nodesFrom (parent id : Nat) : Outline → List Tree.Node
  | node kind firstLine lastLine parts =>
    { kind, firstLine, lastLine, parent := some parent, children := partIds (id + 1) parts }
      :: partNodes id (id + 1) parts

/-- The nodes of outlines with one parent, in the order of their ids, which begin with `id`. -/
def partNodes (parent id : Nat) : List Outline → List Tree.Node
  | [] => []
  | part :: rest => nodesFrom parent id part ++ partNodes parent (id + 1 + part.statementCount) rest

end

mutual

@[simp] theorem length_nodesFrom (parent id : Nat) : (outline : Outline) →
    (nodesFrom parent id outline).length = 1 + outline.statementCount
  | node _ _ _ parts => by
    rw [nodesFrom, List.length_cons, length_partNodes, statementCount, Nat.add_comm]

@[simp] theorem length_partNodes (parent id : Nat) : (parts : List Outline) →
    (partNodes parent id parts).length = partsCount parts
  | [] => rfl
  | part :: rest => by
    rw [partNodes, List.length_append, length_nodesFrom, length_partNodes, partsCount]

end

mutual

/-- Levels are no more than statements. -/
theorem height_le_statementCount : (outline : Outline) → outline.height ≤ outline.statementCount
  | node _ _ _ parts => by
    rw [height, statementCount]
    exact partsHeight_le_partsCount parts

theorem partsHeight_le_partsCount : (parts : List Outline) → partsHeight parts ≤ partsCount parts
  | [] => Nat.le_refl 0
  | part :: rest => by
    have htop := height_le_statementCount part
    have hrest := partsHeight_le_partsCount rest
    rw [partsHeight, partsCount]
    omega

end

mutual

/-- An outline and all that is inside it. -/
def within : Outline → List Outline
  | node kind firstLine lastLine parts => node kind firstLine lastLine parts :: partsWithin parts

/-- Outlines and all that is inside them. -/
def partsWithin : List Outline → List Outline
  | [] => []
  | part :: rest => within part ++ partsWithin rest

end

mutual

/-- What is inside a proper outline is proper, too. -/
theorem Proper.of_mem_within {inner : Outline} : {outline : Outline} → outline.Proper →
    inner ∈ outline.within → inner.Proper
  | node _ _ _ _, h, hmem => by
    rcases List.mem_cons.mp hmem with rfl | hmem
    · exact h
    · exact h.2.2.of_mem_partsWithin hmem

theorem PartsProper.of_mem_partsWithin {inner : Outline} : {parts : List Outline} →
    PartsProper parts → inner ∈ partsWithin parts → inner.Proper
  | _ :: _, ⟨hpart, hrest⟩, hmem => by
    rcases List.mem_append.mp hmem with hmem | hmem
    · exact hpart.of_mem_within hmem
    · exact hrest.of_mem_partsWithin hmem

end

end Outline

namespace Tree

open Outline

/-- The tree with these outlines below its root, its nodes in the order of a walk. -/
def ofParts (parts : List Outline) : Tree :=
  let below := partNodes 0 1 parts
  let lastLine := (below.map Node.lastLine).foldl max 0
  ⟨{ kind := .root, firstLine := 0, lastLine, children := partIds 1 parts } :: below⟩

@[simp] theorem size_ofParts (parts : List Outline) :
    (ofParts parts).size = partsCount parts + 1 := by
  rw [size, ofParts, List.length_cons, length_partNodes]

/-! ## Runs of nodes -/

/-- The tree has these nodes in a row, whose ids begin with `id`. -/
def NodesAt (tree : Tree) (id : Nat) (nodes : List Node) : Prop :=
  nodes <+: tree.nodes.drop id

theorem nodesAt_ofParts (parts : List Outline) :
    (ofParts parts).NodesAt 1 (partNodes 0 1 parts) := List.prefix_refl _

variable {tree : Tree}

theorem NodesAt.node?_eq {id : Nat} {node : Node} {nodes : List Node}
    (h : tree.NodesAt id (node :: nodes)) : tree.node? id = some node := by
  obtain ⟨back, hback⟩ := h
  have hdrop : (tree.nodes.drop id)[0]? = tree.nodes[id]? := List.getElem?_drop
  rw [node?, ← hdrop, ← hback]
  rfl

theorem NodesAt.after {id : Nat} {front nodes : List Node} (h : tree.NodesAt id (front ++ nodes)) :
    tree.NodesAt (id + front.length) nodes := by
  obtain ⟨back, hback⟩ := h
  refine ⟨back, ?_⟩
  rw [← List.drop_drop, ← hback, List.append_assoc, List.drop_left]

theorem NodesAt.tail {id : Nat} {node : Node} {nodes : List Node}
    (h : tree.NodesAt id (node :: nodes)) : tree.NodesAt (id + 1) nodes :=
  @NodesAt.after _ _ [node] _ h

/-- The nodes of the first outline in a row. -/
theorem NodesAt.part {parent id : Nat} {part : Outline} {rest : List Outline}
    (h : tree.NodesAt id (partNodes parent id (part :: rest))) :
    tree.NodesAt id (nodesFrom parent id part) :=
  (List.prefix_append _ _).trans h

/-- The nodes of the other outlines follow those of the first one. -/
theorem NodesAt.rest {parent id : Nat} {part : Outline} {rest : List Outline}
    (h : tree.NodesAt id (partNodes parent id (part :: rest))) :
    tree.NodesAt (id + 1 + part.statementCount)
      (partNodes parent (id + 1 + part.statementCount) rest) := by
  have hafter := NodesAt.after h
  rwa [length_nodesFrom, ← Nat.add_assoc] at hafter

/-! ## Nodes that hold outlines -/

mutual

/-- The node with an id has the kind and the lines of an outline, and its children hold the
parts. -/
def Holds (tree : Tree) (id : Nat) : Outline → Prop
  | .node kind firstLine lastLine parts =>
    ∃ found, tree.node? id = some found ∧ found.kind = kind ∧ found.firstLine = firstLine ∧
      found.lastLine = lastLine ∧ HoldsAll tree found.children parts

/-- The nodes with some ids hold some outlines, one each. -/
def HoldsAll (tree : Tree) : List Nat → List Outline → Prop
  | [], [] => True
  | id :: ids, part :: rest => Holds tree id part ∧ HoldsAll tree ids rest
  | _, _ => False

end

mutual

theorem holds_of_nodesAt {parent id : Nat} : (outline : Outline) →
    tree.NodesAt id (nodesFrom parent id outline) → tree.Holds id outline
  | .node _ _ _ parts, h =>
    ⟨_, h.node?_eq, rfl, rfl, rfl, holdsAll_of_nodesAt parts h.tail⟩

theorem holdsAll_of_nodesAt {parent id : Nat} : (parts : List Outline) →
    tree.NodesAt id (partNodes parent id parts) → tree.HoldsAll (partIds id parts) parts
  | [], _ => trivial
  | part :: rest, h => ⟨holds_of_nodesAt part h.part, holdsAll_of_nodesAt rest h.rest⟩

end

mutual

/-- Every id in the run of an outline belongs to something inside it. -/
theorem holds_within_of_nodesAt {parent id i : Nat} (hi : id ≤ i) : (outline : Outline) →
    tree.NodesAt id (nodesFrom parent id outline) → i < id + 1 + outline.statementCount →
      ∃ part ∈ outline.within, tree.Holds i part
  | .node kind firstLine lastLine parts, h, hlt => by
    rcases Nat.eq_or_lt_of_le hi with rfl | hi
    · exact ⟨_, List.mem_cons_self, holds_of_nodesAt _ h⟩
    · rw [statementCount] at hlt
      obtain ⟨part, hmem, hpart⟩ := holds_partsWithin_of_nodesAt hi parts h.tail hlt
      exact ⟨part, List.mem_cons_of_mem _ hmem, hpart⟩

theorem holds_partsWithin_of_nodesAt {parent id i : Nat} (hi : id ≤ i) : (parts : List Outline) →
    tree.NodesAt id (partNodes parent id parts) → i < id + partsCount parts →
      ∃ part ∈ partsWithin parts, tree.Holds i part
  | [], _, hlt => by
    rw [partsCount] at hlt
    omega
  | part :: rest, h, hlt => by
    rw [partsCount] at hlt
    by_cases hpart : i < id + 1 + part.statementCount
    · obtain ⟨inner, hmem, hholds⟩ := holds_within_of_nodesAt hi part h.part hpart
      exact ⟨inner, List.mem_append_left _ hmem, hholds⟩
    · obtain ⟨inner, hmem, hholds⟩ :=
        holds_partsWithin_of_nodesAt (Nat.le_of_not_lt hpart) rest h.rest (by omega)
      exact ⟨inner, List.mem_append_right _ hmem, hholds⟩

end

/-- The root of a laid out tree. -/
theorem node?_zero_ofParts (parts : List Outline) :
    (ofParts parts).node? 0 = some
      { kind := .root, firstLine := 0, children := partIds 1 parts,
        lastLine := ((partNodes 0 1 parts).map Node.lastLine).foldl max 0 } := rfl

/-- The children of the root hold the outlines that the tree was made of. -/
theorem holdsAll_ofParts (parts : List Outline) :
    (ofParts parts).HoldsAll ((ofParts parts).children 0) parts :=
  holdsAll_of_nodesAt parts (nodesAt_ofParts parts)

/-- **Every node but the root is the top of an outline below it.** -/
theorem holds_of_mem {parts : List Outline} {id : Nat} {found : Node} (hid : id ≠ 0)
    (h : (ofParts parts).node? id = some found) :
    ∃ part ∈ partsWithin parts, (ofParts parts).Holds id part := by
  have hlt : id < (ofParts parts).nodes.length := (List.getElem?_eq_some_iff.mp h).1
  change id < (ofParts parts).size at hlt
  rw [size_ofParts] at hlt
  exact holds_partsWithin_of_nodesAt (by omega) parts (nodesAt_ofParts parts) (by omega)

/-! ## Reading a tree -/

/-- The walk through the node with an id and what is below it, whose descendants are at most `fuel`
levels deep. -/
def walkFrom (tree : Tree) : Nat → Nat → List Event
  | 0, _ => []
  | fuel + 1, id =>
    match tree.node? id with
    | none => []
    | some found =>
      .enter found.kind found.firstLine :: found.children.flatMap (tree.walkFrom fuel)
        ++ [.exit found.kind found.lastLine]

/-- The walk through a tree, whose root is neither entered nor left. No path is longer than the
number of nodes. -/
def walk (tree : Tree) : List Event :=
  (tree.children 0).flatMap (tree.walkFrom tree.size)

mutual

theorem Holds.walkFrom {id fuel : Nat} : {outline : Outline} → tree.Holds id outline →
    outline.height < fuel → tree.walkFrom fuel id = outline.walk
  | .node _ _ _ parts, h, hfuel => by
    obtain ⟨found, hfound, rfl, rfl, rfl, hparts⟩ := h
    cases fuel with
    | zero => omega
    | succ fuel =>
      rw [height] at hfuel
      simp only [Tree.walkFrom, hfound, hparts.flatMap_walkFrom (Nat.le_of_lt_succ hfuel),
        Outline.walk]

theorem HoldsAll.flatMap_walkFrom {fuel : Nat} : {ids : List Nat} → {parts : List Outline} →
    tree.HoldsAll ids parts → partsHeight parts ≤ fuel →
      ids.flatMap (tree.walkFrom fuel) = partsWalk parts
  | [], [], _, _ => rfl
  | id :: ids, part :: rest, ⟨hpart, hrest⟩, hfuel => by
    rw [partsHeight] at hfuel
    rw [List.flatMap_cons, hpart.walkFrom (by omega), hrest.flatMap_walkFrom (by omega), partsWalk]

end

mutual

theorem Holds.outlineAt {id fuel : Nat} : {outline : Outline} → tree.Holds id outline →
    outline.height < fuel → tree.outlineAt fuel id = some outline
  | .node _ _ _ parts, h, hfuel => by
    obtain ⟨found, hfound, rfl, rfl, rfl, hparts⟩ := h
    cases fuel with
    | zero => omega
    | succ fuel =>
      rw [height] at hfuel
      simp only [Tree.outlineAt, hfound, Option.map_some,
        hparts.filterMap_outlineAt (Nat.le_of_lt_succ hfuel)]

theorem HoldsAll.filterMap_outlineAt {fuel : Nat} : {ids : List Nat} → {parts : List Outline} →
    tree.HoldsAll ids parts → partsHeight parts ≤ fuel →
      ids.filterMap (tree.outlineAt fuel) = parts
  | [], [], _, _ => rfl
  | id :: ids, part :: rest, ⟨hpart, hrest⟩, hfuel => by
    rw [partsHeight] at hfuel
    rw [List.filterMap_cons_some (hpart.outlineAt (by omega)),
      hrest.filterMap_outlineAt (by omega)]

end

/-- The walk through a laid out tree is the walk through the outlines it was made of. -/
theorem walk_ofParts (parts : List Outline) : (ofParts parts).walk = partsWalk parts := by
  have hheight := partsHeight_le_partsCount parts
  exact (holdsAll_ofParts parts).flatMap_walkFrom (by rw [size_ofParts]; omega)

/-- The outline of a laid out tree has the outlines it was made of below a root. -/
theorem outline_ofParts (parts : List Outline) :
    (ofParts parts).outline =
      .node .root 0 (((partNodes 0 1 parts).map Node.lastLine).foldl max 0) parts := by
  have hheight := partsHeight_le_partsCount parts
  have hroot : (ofParts parts).Holds 0
      (.node .root 0 (((partNodes 0 1 parts).map Node.lastLine).foldl max 0) parts) :=
    ⟨_, node?_zero_ofParts parts, rfl, rfl, rfl, holdsAll_ofParts parts⟩
  rw [Tree.outline, hroot.outlineAt (by rw [height, size_ofParts]; omega), Option.getD_some]

end Tree

end DmlOutline
