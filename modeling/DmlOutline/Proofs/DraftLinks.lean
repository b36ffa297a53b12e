import DmlOutline.Proofs.TreeOfEvents
import Mathlib.Data.List.Chain

/-!
# The links of a draft

A draft tells its shape three times: by the parents of its nodes, by their children and by the nodes
that are open. Whatever is fed to it, and whatever of that it refuses, the three agree. Ids are
numbers without bound here; `Draft.id_lt_size` tells for which events they fit into 32 bits.

* `Draft.openNodes` — the open nodes, the root among them.
* `Draft.Linked` — how parents, children and open nodes agree.

Principal results: `Draft.Linked.enter`, `Draft.Linked.exit`: what an event keeps;
`Draft.linked_after`: how the nodes of any draft are linked.
-/

namespace DmlOutline.Tree.Draft

variable {draft next : Draft} {kind : StatementKind} {line id : Nat} {node : Node}

/-! ## Links -/

/-- The open nodes, the innermost first and the root last. -/
def openNodes (draft : Draft) : List Nat :=
  draft.pending ++ [0]

/-- A node is the last child of another one. -/
def LastChild (nodes : List Node) (inner outer : Nat) : Prop :=
  ∃ node, nodes[outer]? = some node ∧ node.children.getLast? = some inner

/-- How the parents, the children and the open nodes of a draft agree. -/
structure Linked (draft : Draft) : Prop where
  /-- Node zero is the root, which has no parent. -/
  root : ∃ node, draft.nodes[0]? = some node ∧ node.kind = .root ∧ node.parent = none
  /-- No other node is a root. -/
  notRoot : ∀ id (node : Node), draft.nodes[id]? = some node → id ≠ 0 → node.kind ≠ .root
  /-- Among the children of all nodes, every id but that of the root is once. -/
  once : ∀ id, (draft.nodes.flatMap Node.children).count id =
    if 0 < id ∧ id < draft.nodes.length then 1 else 0
  /-- It is among the children of its parent. -/
  adopted : ∀ id (node : Node), draft.nodes[id]? = some node → id ≠ 0 →
    ∃ outer parent, node.parent = some outer ∧ draft.nodes[outer]? = some parent ∧
      id ∈ parent.children
  /-- Children come after their parent and one after the other. -/
  increasing : ∀ id (node : Node), draft.nodes[id]? = some node → (id :: node.children).Pairwise (· < ·)
  /-- Each open node but the root is the last child of the next outer one. -/
  opened : draft.openNodes.IsChain (LastChild draft.nodes)
  /-- A node that is not open ends no earlier than it begins, and none of its children is open. -/
  closed : ∀ id (node : Node), draft.nodes[id]? = some node → id ∉ draft.openNodes →
    node.firstLine ≤ node.lastLine ∧ ∀ child ∈ node.children, child ∉ draft.openNodes

theorem eq_zero_of_getElem?_empty (h : empty.nodes[id]? = some node) : id = 0 :=
  Nat.lt_one_iff.mp (List.getElem?_eq_some_iff.mp h).1

theorem linked_empty : empty.Linked where
  root := ⟨_, rfl, rfl, rfl⟩
  notRoot id node hnode hne := absurd (eq_zero_of_getElem?_empty hnode) hne
  once id := by
    rw [if_neg fun hid => Nat.not_lt_zero _ (Nat.lt_of_lt_of_le hid.1 (Nat.le_of_lt_succ hid.2))]
    rfl
  adopted id node hnode hne := absurd (eq_zero_of_getElem?_empty hnode) hne
  increasing id node hnode := by
    obtain rfl := eq_zero_of_getElem?_empty hnode
    cases hnode
    exact List.pairwise_singleton _ _
  opened := .singleton 0
  closed id node hnode hclosed := by
    obtain rfl := eq_zero_of_getElem?_empty hnode
    exact absurd (List.mem_singleton_self 0) hclosed

theorem openNodes_eq (draft : Draft) :
    draft.openNodes = draft.innermost :: draft.openNodes.tail := by
  unfold openNodes innermost
  cases draft.pending <;> rfl

theorem innermost_mem_openNodes (draft : Draft) : draft.innermost ∈ draft.openNodes := by
  rw [openNodes_eq]
  exact List.mem_cons_self

namespace Linked

/-- Children are nodes, and not the root. -/
theorem child_lt (h : draft.Linked) (hnode : draft.nodes[id]? = some node) {child : Nat}
    (hchild : child ∈ node.children) : 0 < child ∧ child < draft.nodes.length := by
  have hmem : child ∈ draft.nodes.flatMap Node.children :=
    List.mem_flatMap.mpr ⟨node, List.mem_of_getElem? hnode, hchild⟩
  have hcount := List.count_pos_iff.mpr hmem
  rw [h.once] at hcount
  split at hcount
  · assumption
  · cases hcount

theorem lt_child (h : draft.Linked) (hnode : draft.nodes[id]? = some node) {child : Nat}
    (hchild : child ∈ node.children) : id < child :=
  List.rel_of_pairwise_cons (h.increasing id node hnode) hchild

/-- **Inner open nodes come after outer ones.** -/
theorem sorted_openNodes (h : draft.Linked) : draft.openNodes.Pairwise (· > ·) := by
  have hchain : draft.openNodes.IsChain (· > ·) := h.opened.imp fun inner outer hlast => by
    obtain ⟨node, hnode, hlast⟩ := hlast
    exact h.lt_child hnode (List.mem_of_getLast? hlast)
  exact hchain.pairwise

/-- The innermost open node exists. -/
theorem hasRoom (h : draft.Linked) : draft.HasRoom := by
  unfold HasRoom innermost
  have hopened := h.opened
  unfold openNodes at hopened
  cases hpending : draft.pending with
  | nil =>
    obtain ⟨node, hnode, -⟩ := h.root
    exact (List.getElem?_eq_some_iff.mp hnode).1
  | cons id outer =>
    rw [hpending, List.cons_append] at hopened
    obtain ⟨other, hother⟩ : ∃ other, other ∈ (outer ++ [0]).head? := by cases outer <;> simp
    obtain ⟨node, hnode, hlast⟩ := (List.isChain_cons.mp hopened).1 other hother
    exact (h.child_lt hnode (List.mem_of_getLast? hlast)).2

end Linked

/-! ## Entering a statement -/

/-- The children that a node gains when a statement is entered. -/
def gained (draft : Draft) (id : Nat) : List Nat :=
  if draft.innermost = id then [draft.nodes.length] else []

theorem adopt_gained (hne : draft.innermost ≠ id) (node : Node) :
    node.adopt (draft.gained id) = node := by
  simp [Node.adopt, gained, hne]

theorem getElem?_enter_of_lt (hid : id < draft.nodes.length) (kind : StatementKind) (line : Nat) :
    (draft.enter kind line).nodes[id]? = draft.nodes[id]?.map (Node.adopt (draft.gained id)) := by
  change (draft.nodes.modify draft.innermost (Node.adopt [draft.nodes.length]) ++ _)[id]? = _
  rw [List.getElem?_append_left (by rwa [List.length_modify]), List.getElem?_modify, gained]
  cases draft.nodes[id]? with
  | none => rfl
  | some node => split <;> simp [Node.adopt]

/-- **The nodes after a statement is entered:** those that were there, and the new one. -/
theorem getElem?_enter (h : (draft.enter kind line).nodes[id]? = some node) :
    (id = draft.nodes.length ∧
      node = { kind, firstLine := line, lastLine := line, parent := some draft.innermost }) ∨
    ∃ old, draft.nodes[id]? = some old ∧ node = old.adopt (draft.gained id) := by
  have hlen : (draft.nodes.modify draft.innermost (Node.adopt [draft.nodes.length])).length =
      draft.nodes.length := List.length_modify ..
  have hid := (List.getElem?_eq_some_iff.mp h).1
  rw [length_nodes_enter] at hid
  rcases Nat.lt_succ_iff_lt_or_eq.mp hid with hlt | rfl
  · rw [getElem?_enter_of_lt hlt, Option.map_eq_some_iff] at h
    obtain ⟨old, hold, rfl⟩ := h
    exact .inr ⟨old, hold, rfl⟩
  · change (draft.nodes.modify draft.innermost (Node.adopt [draft.nodes.length]) ++ _)[_]? = _ at h
    rw [List.getElem?_append_right (Nat.le_of_eq hlen), hlen, Nat.sub_self] at h
    exact .inl ⟨rfl, (Option.some.inj h).symm⟩

/-- The innermost open node gains the new one. -/
theorem Linked.getElem?_enter_innermost (h : draft.Linked) (kind : StatementKind) (line : Nat) :
    ∃ node : Node, (draft.enter kind line).nodes[draft.innermost]? =
      some (node.adopt [draft.nodes.length]) := by
  have hnew := getElem?_enter_of_lt h.hasRoom kind line
  rw [List.getElem?_eq_getElem h.hasRoom, Option.map_some, gained, if_pos rfl] at hnew
  exact ⟨_, hnew⟩

theorem count_children_enter (hroom : draft.HasRoom) (kind : StatementKind) (line id : Nat) :
    ((draft.enter kind line).nodes.flatMap Node.children).count id =
      (draft.nodes.flatMap Node.children).count id + [draft.nodes.length].count id := by
  have hsplit := List.modify_eq_take_cons_drop hroom (f := Node.adopt [draft.nodes.length])
  have hnodes := List.take_append_drop draft.innermost draft.nodes
  rw [List.drop_eq_getElem_cons hroom] at hnodes
  have hcount := congrArg (fun nodes => (nodes.flatMap Node.children).count id) hnodes
  change ((draft.nodes.modify draft.innermost (Node.adopt [draft.nodes.length]) ++ _).flatMap
    Node.children).count id = _
  rw [hsplit]
  simp only [List.flatMap_append, List.flatMap_cons, List.count_append, Node.adopt,
    List.flatMap_nil, List.count_nil] at hcount ⊢
  omega

theorem Linked.enter (h : draft.Linked) (notRoot : kind ≠ .root) (line : Nat) :
    (draft.enter kind line).Linked where
  root := by
    obtain ⟨node, hnode, hkind, hparent⟩ := h.root
    refine ⟨node.adopt (draft.gained 0), ?_, hkind, hparent⟩
    rw [getElem?_enter_of_lt (List.getElem?_eq_some_iff.mp hnode).1, hnode, Option.map_some]
  notRoot id node hnode hne := by
    rcases getElem?_enter hnode with ⟨-, rfl⟩ | ⟨old, hold, rfl⟩
    · exact notRoot
    · exact h.notRoot id old hold hne
  once id := by
    have hroom : draft.innermost < draft.nodes.length := h.hasRoom
    rw [count_children_enter hroom, h.once, length_nodes_enter, List.count_singleton]
    simp only [beq_iff_eq]
    split_ifs <;> omega
  adopted id node hnode hne := by
    rcases getElem?_enter hnode with ⟨rfl, rfl⟩ | ⟨old, hold, rfl⟩
    · obtain ⟨parent, hparent⟩ := h.getElem?_enter_innermost kind line
      exact ⟨_, _, rfl, hparent, List.mem_append_right _ (List.mem_singleton_self _)⟩
    · obtain ⟨outer, parent, hparent, houter, hmem⟩ := h.adopted id old hold hne
      have hgrown := getElem?_enter_of_lt (List.getElem?_eq_some_iff.mp houter).1 kind line
      rw [houter, Option.map_some] at hgrown
      exact ⟨outer, _, hparent, hgrown, List.mem_append_left _ hmem⟩
  increasing id node hnode := by
    rcases getElem?_enter hnode with ⟨-, rfl⟩ | ⟨old, hold, rfl⟩
    · exact List.pairwise_singleton _ _
    · have hold' := h.increasing id old hold
      unfold Node.adopt gained
      split
      · refine List.pairwise_append.mpr ⟨hold', List.pairwise_singleton _ _, ?_⟩
        intro a ha b hb
        cases List.mem_singleton.mp hb
        rcases List.mem_cons.mp ha with rfl | hchild
        · exact (List.getElem?_eq_some_iff.mp hold).1
        · exact (h.child_lt hold hchild).2
      · simpa using hold'
  opened := by
    have hsorted := h.sorted_openNodes
    have hopened := h.opened
    rw [openNodes_eq] at hsorted hopened
    have hkept : (draft.innermost :: draft.openNodes.tail).IsChain
        (LastChild (draft.enter kind line).nodes) := by
      refine hopened.imp_of_mem_tail_imp fun inner outer _ houter ⟨node, hnode, hlast⟩ => ?_
      -- an outer open node comes before the innermost one, so it gains no child
      have hlt : draft.innermost > outer := List.rel_of_pairwise_cons hsorted houter
      refine ⟨node, ?_, hlast⟩
      rw [getElem?_enter_of_lt (List.getElem?_eq_some_iff.mp hnode).1, hnode, Option.map_some,
        adopt_gained (Nat.ne_of_gt hlt)]
    have hopen : (draft.enter kind line).openNodes =
        draft.nodes.length :: draft.innermost :: draft.openNodes.tail := by
      rw [← openNodes_eq]
      rfl
    rw [hopen]
    obtain ⟨parent, hparent⟩ := h.getElem?_enter_innermost kind line
    exact List.isChain_cons_cons.mpr ⟨⟨_, hparent, List.getLast?_concat⟩, hkept⟩
  closed id node hnode hclosed := by
    have hopen : (draft.enter kind line).openNodes = draft.nodes.length :: draft.openNodes := rfl
    rw [hopen, List.mem_cons, not_or] at hclosed
    rcases getElem?_enter hnode with ⟨rfl, -⟩ | ⟨old, hold, rfl⟩
    · exact absurd rfl hclosed.1
    · have hne : draft.innermost ≠ id := fun heq =>
        hclosed.2 (heq ▸ draft.innermost_mem_openNodes)
      obtain ⟨hlines, hchildren⟩ := h.closed id old hold hclosed.2
      rw [adopt_gained hne]
      refine ⟨hlines, fun child hchild => ?_⟩
      rw [hopen, List.mem_cons, not_or]
      exact ⟨Nat.ne_of_lt (h.child_lt hold hchild).2, hchildren child hchild⟩

/-! ## Leaving a statement -/

/-- **The nodes after a statement is left:** the last line of one of them is another one. -/
theorem getElem?_close_eq_some {nodes : List Node} {i : Nat} :
    (nodes.modify id ({ · with lastLine := line }))[i]? = some node ↔
      ∃ old, nodes[i]? = some old ∧
        { old with lastLine := if id = i then line else old.lastLine } = node := by
  rw [List.getElem?_modify]
  cases nodes[i]? with
  | none => simp
  | some old => split <;> simp

theorem flatMap_children_close (nodes : List Node) (id line : Nat) :
    (nodes.modify id ({ · with lastLine := line })).flatMap Node.children =
      nodes.flatMap Node.children := by
  have hmap : (nodes.modify id ({ · with lastLine := line })).map Node.children =
      nodes.map Node.children := by
    refine List.ext_getElem? fun i => ?_
    rw [List.getElem?_map, List.getElem?_map, List.getElem?_modify]
    cases nodes[i]? with
    | none => rfl
    | some node => split <;> rfl
  rw [List.flatMap_def, List.flatMap_def, hmap]

theorem Linked.exit (h : draft.Linked) (hexit : draft.exit kind line = .ok next) :
    next.Linked := by
  obtain ⟨id, outer, node, hpending, hnode, -, hline, rfl⟩ := exit_eq_ok hexit
  have hopen : draft.openNodes = id :: (outer ++ [0]) := by
    rw [openNodes, hpending, List.cons_append]
  have hsorted := h.sorted_openNodes
  have hopened := h.opened
  rw [hopen] at hsorted hopened
  constructor
  case root =>
    obtain ⟨node, hnode, hkind, hparent⟩ := h.root
    exact ⟨_, getElem?_close_eq_some.mpr ⟨node, hnode, rfl⟩, hkind, hparent⟩
  case notRoot =>
    intro i other hother hne
    obtain ⟨old, hold, rfl⟩ := getElem?_close_eq_some.mp hother
    exact h.notRoot i old hold hne
  case once =>
    intro i
    rw [flatMap_children_close, List.length_modify]
    exact h.once i
  case adopted =>
    intro i other hother hne
    obtain ⟨old, hold, rfl⟩ := getElem?_close_eq_some.mp hother
    obtain ⟨outer, parent, hparent, houter, hmem⟩ := h.adopted i old hold hne
    exact ⟨outer, _, hparent, getElem?_close_eq_some.mpr ⟨parent, houter, rfl⟩, hmem⟩
  case increasing =>
    intro i other hother
    obtain ⟨old, hold, rfl⟩ := getElem?_close_eq_some.mp hother
    exact h.increasing i old hold
  case opened =>
    refine hopened.of_cons.imp fun inner outer ⟨parent, hparent, hlast⟩ => ?_
    exact ⟨_, getElem?_close_eq_some.mpr ⟨parent, hparent, rfl⟩, hlast⟩
  case closed =>
    intro i other hother hclosed
    obtain ⟨old, hold, rfl⟩ := getElem?_close_eq_some.mp hother
    by_cases hi : id = i
    · -- all that stays open comes before the node that was left, and its children after it
      subst hi
      rw [hnode] at hold
      cases hold
      refine ⟨by rw [if_pos rfl]; exact hline, fun child hchild hmem => ?_⟩
      have hlt := h.lt_child hnode hchild
      have hgt : id > child := List.rel_of_pairwise_cons hsorted hmem
      omega
    · have hnotOpen : i ∉ draft.openNodes := by
        rw [hopen, List.mem_cons, not_or]
        exact ⟨fun heq => hi heq.symm, hclosed⟩
      obtain ⟨hlines, hchildren⟩ := h.closed i old hold hnotOpen
      refine ⟨by rw [if_neg hi]; exact hlines, fun child hchild hmem => ?_⟩
      exact hchildren child hchild (by rw [hopen]; exact List.mem_cons_of_mem _ hmem)

/-! ## Events in turn -/

theorem Linked.accept (h : draft.Linked) {event : Event} (haccept : draft.accept event = .ok next) :
    next.Linked := by
  rcases accept_eq_ok haccept with ⟨kind, line, rfl, notRoot, rfl⟩ | ⟨kind, line, rfl, hexit⟩
  · exact h.enter notRoot line
  · exact h.exit hexit

/-- **Whatever is fed to a draft, its links go on to agree.** -/
theorem Linked.after (h : draft.Linked) (events : List Event) : (draft.after events).Linked := by
  induction events generalizing draft with
  | nil => exact h
  | cons event rest ih =>
    cases haccept : draft.accept event with
    | ok next =>
      rw [after_cons_of_ok haccept]
      exact ih (h.accept haccept)
    | error error =>
      rw [after_cons_of_error haccept]
      exact ih h

/-- No more nodes are made than statements are entered. -/
theorem length_nodes_after_le (draft : Draft) (events : List Event) :
    (draft.after events).nodes.length ≤ draft.nodes.length + Event.enters events := by
  induction events generalizing draft with
  | nil => exact Nat.le_refl _
  | cons event rest ih =>
    have henters : Event.enters (event :: rest) = Event.enters [event] + Event.enters rest :=
      Event.enters_append [event] rest
    cases haccept : draft.accept event with
    | ok next =>
      have hrest := ih next
      rw [after_cons_of_ok haccept]
      rcases accept_eq_ok haccept with ⟨kind, line, rfl, -, rfl⟩ | ⟨kind, line, rfl, hexit⟩
      · have hone : Event.enters [.enter kind line] = 1 := rfl
        rw [length_nodes_enter] at hrest
        omega
      · obtain ⟨id, outer, node, -, -, -, -, rfl⟩ := exit_eq_ok hexit
        rw [List.length_modify] at hrest
        omega
    | error error =>
      have hrest := ih draft
      rw [after_cons_of_error haccept]
      omega

/-- **Ids have 32 bits** as long as fewer than 2³² statements are entered. -/
theorem id_lt_size {events : List Event} (henters : Event.enters events < UInt32.size)
    (hnode : (empty.after events).nodes[id]? = some node) : id < UInt32.size := by
  have hid := (List.getElem?_eq_some_iff.mp hnode).1
  have hlength := length_nodes_after_le empty events
  have hone : empty.nodes.length = 1 := rfl
  omega

/-- **The nodes of a draft are linked,** whatever was fed to it and whatever of that it refused. -/
theorem linked_after (events : List Event) : (empty.after events).Linked :=
  linked_empty.after events

end DmlOutline.Tree.Draft
