import DmlOutline.Proofs.Layout
import DmlOutline.Proofs.RefusedEvents

/-!
# Trees of complete walks

A draft refuses a list of events unless it is a complete walk, and of a complete walk it makes the
tree whose own walk it is.

* `Draft.grow` — a draft after the walk through some outlines.
* `Draft.opened` — the openings of a draft; an event that is taken changes them as it should.

Principal results: `ofEvents_eq_ok_iff`, `ofEvents_wellNested`.
-/

namespace DmlOutline

namespace Tree

open Outline

/-- A node with more children at its end. -/
def Node.adopt (ids : List Nat) (parent : Node) : Node :=
  { parent with children := parent.children ++ ids }

namespace Draft

/-! ## A change inside a list that grew -/

theorem modify_append_of_lt {α : Type} {front : List α} {i : Nat} (h : i < front.length)
    (f : α → α) (back : List α) : (front ++ back).modify i f = front.modify i f ++ back := by
  rw [List.modify_eq_take_cons_drop h,
    List.modify_eq_take_cons_drop (by rw [List.length_append]; omega),
    List.take_append_of_le_length (Nat.le_of_lt h), List.getElem_append_left h,
    List.drop_append_of_le_length h, List.append_assoc, List.cons_append]

theorem modify_append_length {α : Type} (front : List α) (a : α) (f : α → α) (back : List α) :
    (front ++ a :: back).modify front.length f = front ++ f a :: back := by
  rw [List.modify_eq_take_cons_drop (by simp)]
  simp

/-! ## A draft takes complete walks -/

/-- A draft after the walk through some outlines: they become children of its innermost open
node. -/
def grow (draft : Draft) (parts : List Outline) : Draft :=
  ⟨draft.nodes.modify draft.innermost (Node.adopt (partIds draft.nodes.length parts))
    ++ partNodes draft.innermost draft.nodes.length parts, draft.pending⟩

/-- The innermost open node exists. -/
def HasRoom (draft : Draft) : Prop :=
  draft.innermost < draft.nodes.length

variable {draft next : Draft} {kind : StatementKind} {first last : Nat}

@[simp] theorem innermost_grow (draft : Draft) (parts : List Outline) :
    (draft.grow parts).innermost = draft.innermost := rfl

@[simp] theorem length_nodes_grow (draft : Draft) (parts : List Outline) :
    (draft.grow parts).nodes.length = draft.nodes.length + partsCount parts := by
  simp [grow]

@[simp] theorem innermost_enter (draft : Draft) (kind : StatementKind) (line : Nat) :
    (draft.enter kind line).innermost = draft.nodes.length := rfl

@[simp] theorem length_nodes_enter (draft : Draft) (kind : StatementKind) (line : Nat) :
    (draft.enter kind line).nodes.length = draft.nodes.length + 1 := by
  simp [enter]

theorem HasRoom.grow (hroom : draft.HasRoom) (parts : List Outline) :
    (draft.grow parts).HasRoom := by
  unfold HasRoom at *
  rw [innermost_grow, length_nodes_grow]
  omega

theorem hasRoom_enter (draft : Draft) (kind : StatementKind) (line : Nat) :
    (draft.enter kind line).HasRoom := by
  unfold HasRoom
  rw [innermost_enter, length_nodes_enter]
  omega

theorem grow_nil (draft : Draft) : draft.grow [] = draft := by
  have hadopt : Node.adopt [] = id := funext fun parent => by simp [Node.adopt]
  simp [Draft.grow, partIds, partNodes, hadopt]

/-- Outlines may be walked one after the other. -/
theorem grow_cons (hroom : draft.HasRoom) (part : Outline) (rest : List Outline) :
    (draft.grow [part]).grow rest = draft.grow (part :: rest) := by
  have hlen : (draft.grow [part]).nodes.length = draft.nodes.length + 1 + part.statementCount := by
    rw [length_nodes_grow, partsCount, partsCount, Nat.add_zero, Nat.add_assoc]
  have hadopt : Node.adopt (partIds (draft.nodes.length + 1 + part.statementCount) rest) ∘
      Node.adopt (partIds draft.nodes.length [part]) =
      Node.adopt (partIds draft.nodes.length (part :: rest)) := by
    funext parent
    simp [Node.adopt, partIds]
  rw [Draft.grow, hlen, innermost_grow]
  simp only [Draft.grow, partNodes, List.append_nil]
  rw [modify_append_of_lt (by rwa [List.length_modify]), List.modify_modify_eq, hadopt,
    List.append_assoc]

/-- What is walked right after a statement is entered becomes its parts. -/
theorem grow_enter (draft : Draft) (kind : StatementKind) (first : Nat) (parts : List Outline) :
    (draft.enter kind first).grow parts =
      ⟨draft.nodes.modify draft.innermost (Node.adopt [draft.nodes.length])
        ++ nodesFrom draft.innermost draft.nodes.length (.node kind first first parts),
        draft.nodes.length :: draft.pending⟩ := by
  have hlen : (draft.nodes.modify draft.innermost (Node.adopt [draft.nodes.length])).length =
      draft.nodes.length := List.length_modify ..
  have hmodify := modify_append_length
    (draft.nodes.modify draft.innermost (Node.adopt [draft.nodes.length]))
    { kind, firstLine := first, lastLine := first, parent := some draft.innermost }
    (Node.adopt (partIds (draft.nodes.length + 1) parts)) []
  rw [hlen] at hmodify
  rw [Draft.grow, length_nodes_enter, innermost_enter, nodesFrom]
  simp only [enter]
  change Draft.mk
    (((draft.nodes.modify draft.innermost (Node.adopt [draft.nodes.length])) ++ _).modify _ _ ++ _)
    _ = _
  rw [hmodify, List.append_assoc, List.singleton_append]
  rfl

/-- Leaving the statement that was entered last gives it its last line. -/
theorem accept_exit_grow (inOrder : first ≤ last) (draft : Draft) (kind : StatementKind)
    (parts : List Outline) :
    ((draft.enter kind first).grow parts).accept (.exit kind last) =
      .ok (draft.grow [.node kind first last parts]) := by
  have hlen : (draft.nodes.modify draft.innermost (Node.adopt [draft.nodes.length])).length =
      draft.nodes.length := List.length_modify ..
  have htop : ((draft.enter kind first).grow parts).nodes[draft.nodes.length]? = some
      { kind, firstLine := first, lastLine := first, parent := some draft.innermost,
        children := partIds (draft.nodes.length + 1) parts } := by
    rw [grow_enter, nodesFrom, List.getElem?_append_right (Nat.le_of_eq hlen), hlen, Nat.sub_self,
      List.getElem?_cons_zero]
  have hpending : ((draft.enter kind first).grow parts).pending =
      draft.nodes.length :: draft.pending := rfl
  rw [accept_exit, exit, hpending]
  simp only [htop, ne_eq, not_true_eq_false, if_false, if_neg (Nat.not_lt.mpr inOrder),
    Except.mapError]
  rw [grow_enter, nodesFrom]
  have hmodify := modify_append_length
    (draft.nodes.modify draft.innermost (Node.adopt [draft.nodes.length]))
    { kind, firstLine := first, lastLine := first, parent := some draft.innermost,
      children := partIds (draft.nodes.length + 1) parts }
    ({ · with lastLine := last }) (partNodes draft.nodes.length (draft.nodes.length + 1) parts)
  rw [hlen] at hmodify
  rw [hmodify, Draft.grow, partNodes, partNodes, List.append_nil, nodesFrom]
  rfl

mutual

theorem acceptAll_walk : (draft : Draft) → draft.HasRoom → (rest : List Event) →
    (part : Outline) → part.Proper →
      draft.acceptAll (part.walk ++ rest) = (draft.grow [part]).acceptAll rest
  | draft, _, rest, .node kind first last parts, ⟨notRoot, inOrder, hparts⟩ => by
    have hinside := acceptAll_partsWalk (draft.enter kind first) (hasRoom_enter draft kind first)
      (.exit kind last :: rest) parts hparts
    rw [Outline.walk, List.append_assoc, List.cons_append, acceptAll, accept_enter notRoot,
      List.singleton_append]
    simp only [hinside]
    rw [acceptAll, accept_exit_grow inOrder]

/-- **A draft takes the walk through outlines and grows by them.** -/
theorem acceptAll_partsWalk : (draft : Draft) → draft.HasRoom → (rest : List Event) →
    (parts : List Outline) → PartsProper parts →
      draft.acceptAll (partsWalk parts ++ rest) = (draft.grow parts).acceptAll rest
  | draft, _, rest, [], _ => by
    rw [grow_nil, partsWalk, List.nil_append]
  | draft, hroom, rest, part :: parts, ⟨hpart, hparts⟩ => by
    rw [partsWalk, List.append_assoc, acceptAll_walk draft hroom _ part hpart,
      acceptAll_partsWalk _ (hroom.grow [part]) rest parts hparts, grow_cons hroom]

end

/-! ## What a draft takes is a complete walk -/

/-- The opening of a node. -/
def opening (node : Node) : Event.Opening :=
  ⟨node.kind, node.firstLine⟩

/-- The opening of the node with an id. -/
def openingAt (nodes : List Node) (id : Nat) : Option Event.Opening :=
  nodes[id]?.map opening

theorem openingAt_eq {nodes : List Node} {id : Nat} {node : Node} (h : nodes[id]? = some node) :
    openingAt nodes id = some (opening node) := by
  rw [openingAt, h, Option.map_some]

/-- The statements that a draft has open, the innermost first. -/
def opened (draft : Draft) : List Event.Opening :=
  draft.pending.filterMap (openingAt draft.nodes)

/-- The open statements are nodes of the draft. -/
def PendingInside (draft : Draft) : Prop :=
  ∀ id ∈ draft.pending, id < draft.nodes.length

/-- A change that keeps openings, and more nodes at the end, keep what is open. -/
theorem filterMap_openingAt {ids : List Nat} {nodes : List Node}
    (hids : ∀ id ∈ ids, id < nodes.length) {f : Node → Node}
    (hf : ∀ node, opening (f node) = opening node) (i : Nat) (more : List Node) :
    ids.filterMap (openingAt (nodes.modify i f ++ more)) = ids.filterMap (openingAt nodes) := by
  refine List.filterMap_congr ?_
  intro id hid
  unfold openingAt
  rw [List.getElem?_append_left (by rw [List.length_modify]; exact hids id hid),
    List.getElem?_modify]
  cases nodes[id]? with
  | none => rfl
  | some node => by_cases h : i = id <;> simp [h, hf]

theorem PendingInside.enter (hin : draft.PendingInside) (kind : StatementKind) (line : Nat) :
    (draft.enter kind line).PendingInside := by
  intro id hid
  rw [length_nodes_enter]
  rcases List.mem_cons.mp hid with rfl | hid
  · exact Nat.lt_succ_self _
  · exact Nat.lt_succ_of_lt (hin id hid)

theorem opened_enter (hin : draft.PendingInside) (kind : StatementKind) (line : Nat) :
    (draft.enter kind line).opened = ⟨kind, line⟩ :: draft.opened := by
  have htop : openingAt (draft.enter kind line).nodes draft.nodes.length = some ⟨kind, line⟩ := by
    simp [Draft.enter, openingAt, opening]
  have hpending : (draft.enter kind line).pending = draft.nodes.length :: draft.pending := rfl
  rw [opened, hpending, List.filterMap_cons_some htop]
  exact congrArg _
    (filterMap_openingAt hin (f := Node.adopt [draft.nodes.length]) (fun _ => rfl) _ _)

/-- **An event that a draft takes fits its openings and changes them as it should.** -/
theorem accept_track {event : Event} (hin : draft.PendingInside)
    (h : draft.accept event = .ok next) :
    next.PendingInside ∧ event.track draft.opened = some next.opened := by
  rcases accept_eq_ok h with ⟨kind, line, rfl, notRoot, rfl⟩ | ⟨kind, line, rfl, hexit⟩
  · exact ⟨hin.enter kind line, by rw [Event.track_enter notRoot, opened_enter hin]⟩
  · obtain ⟨id, outer, node, hpending, hnode, rfl, hline, rfl⟩ := exit_eq_ok hexit
    have houter : ∀ other ∈ outer, other < draft.nodes.length := fun other hmem =>
      hin other (by rw [hpending]; exact List.mem_cons_of_mem _ hmem)
    refine ⟨fun other hmem => by rw [List.length_modify]; exact houter other hmem, ?_⟩
    have hopened : draft.opened = opening node :: outer.filterMap (openingAt draft.nodes) := by
      rw [opened, hpending, List.filterMap_cons_some (openingAt_eq hnode)]
    have hkeep := filterMap_openingAt houter (f := ({ · with lastLine := line })) (fun _ => rfl)
      id []
    rw [List.append_nil] at hkeep
    rw [hopened, opened, hkeep]
    exact @Event.track_exit (opening node) line hline _

theorem acceptAll_trackAll {events : List Event} (hin : draft.PendingInside)
    (h : draft.acceptAll events = .ok next) :
    Event.trackAll draft.opened events = some next.opened := by
  induction events generalizing draft with
  | nil =>
    cases h
    rfl
  | cons event rest ih =>
    obtain ⟨middle, haccept, h⟩ := acceptAll_cons_eq_ok h
    obtain ⟨hinside, htrack⟩ := accept_track hin haccept
    rw [Event.trackAll, htrack, Option.bind_some]
    exact ih hinside h

/-- **An event that fits the openings of a draft is taken.** -/
theorem exists_accept {event : Event} {opened : List Event.Opening} (hin : draft.PendingInside)
    (h : event.track draft.opened = some opened) :
    ∃ next, draft.accept event = .ok next ∧ next.PendingInside ∧ next.opened = opened := by
  have haccept : ∃ next, draft.accept event = .ok next := by
    rcases Event.track_eq_some_iff.mp h with
      ⟨kind, line, rfl, notRoot, -⟩ | ⟨opening, line, rfl, hopened, hline⟩
    · exact ⟨_, accept_enter notRoot draft line⟩
    · cases hpending : draft.pending with
      | nil =>
        rw [Draft.opened, hpending] at hopened
        cases hopened
      | cons id outer =>
        have hid : id < draft.nodes.length := hin id (by rw [hpending]; exact List.mem_cons_self)
        have hnode := List.getElem?_eq_getElem hid
        rw [Draft.opened, hpending, List.filterMap_cons_some (openingAt_eq hnode)] at hopened
        obtain ⟨rfl, -⟩ := List.cons.inj hopened
        have hline : draft.nodes[id].firstLine ≤ line := hline
        refine ⟨⟨draft.nodes.modify id ({ · with lastLine := line }), outer⟩, ?_⟩
        rw [accept_exit, exit, hpending]
        simp only [hnode, Draft.opening, ne_eq, not_true_eq_false, if_false,
          if_neg (Nat.not_lt.mpr hline), Except.mapError]
  obtain ⟨next, haccept⟩ := haccept
  obtain ⟨hinside, htrack⟩ := accept_track hin haccept
  rw [h] at htrack
  exact ⟨next, haccept, hinside, (Option.some.inj htrack).symm⟩

theorem exists_acceptAll {events : List Event} {opened : List Event.Opening}
    (hin : draft.PendingInside) (h : Event.trackAll draft.opened events = some opened) :
    ∃ next, draft.acceptAll events = .ok next ∧ next.PendingInside ∧ next.opened = opened := by
  induction events generalizing draft with
  | nil => exact ⟨draft, rfl, hin, Option.some.inj h⟩
  | cons event rest ih =>
    obtain ⟨middle, hmiddle, hrest⟩ := Option.bind_eq_some_iff.mp h
    obtain ⟨next, haccept, hinside, rfl⟩ := exists_accept hin hmiddle
    rw [acceptAll_cons_of_ok haccept]
    exact ih hinside hrest

/-- A draft becomes a tree when nothing is open. -/
theorem pending_of_toTree {tree : Tree} (h : draft.toTree = .ok tree) : draft.pending = [] := by
  unfold toTree at h
  split at h
  · cases h
  · rename_i hopen
    exact List.length_eq_zero_iff.mp (Nat.eq_zero_of_not_pos hopen)

/-- The tree that comes of growing from nothing. -/
theorem toTree_grow_empty (parts : List Outline) :
    (empty.grow parts).toTree = .ok (ofParts parts) := by
  have hlast : (empty.grow parts).lastLine =
      ((partNodes 0 1 parts).map Node.lastLine).foldl max 0 := by
    simp [lastLine, grow, empty, innermost, Node.adopt]
  have hopen : (empty.grow parts).openCount = 0 := rfl
  unfold toTree
  rw [hopen, if_neg (Nat.lt_irrefl 0), hlast]
  simp [grow, empty, innermost, Node.adopt, ofParts]

end Draft

/-! ## Trees of lists of events -/

variable {events : List Event} {tree : Tree}

/-- The walk through proper outlines makes the tree with these outlines below its root. -/
theorem ofEvents_partsWalk {parts : List Outline} (h : PartsProper parts) :
    ofEvents (partsWalk parts) = .ok (ofParts parts) := by
  have haccept := Draft.acceptAll_partsWalk .empty Nat.zero_lt_one [] parts h
  rw [List.append_nil, Draft.acceptAll] at haccept
  rw [ofEvents, haccept]
  exact Draft.toTree_grow_empty parts

/-- Events that make a tree are a complete walk. -/
theorem wellNested_of_ofEvents (h : ofEvents events = .ok tree) : WellNested events := by
  unfold ofEvents at h
  split at h
  · cases h
  · rename_i final haccept
    have hempty : Draft.empty.PendingInside := fun _ hid => absurd hid List.not_mem_nil
    have htrack := Draft.acceptAll_trackAll hempty haccept
    have hfinal : final.opened = [] := by
      rw [Draft.opened, Draft.pending_of_toTree h, List.filterMap_nil]
    rw [hfinal] at htrack
    exact wellNested_iff_trackAll.mpr htrack

/-- **The trees of lists of events are the trees of proper outlines.** -/
theorem ofEvents_eq_ok_iff :
    ofEvents events = .ok tree ↔
      ∃ parts, PartsProper parts ∧ partsWalk parts = events ∧ ofParts parts = tree := by
  constructor
  · intro h
    obtain ⟨parts, hparts, rfl⟩ := wellNested_iff_partsWalk.mp (wellNested_of_ofEvents h)
    rw [ofEvents_partsWalk hparts] at h
    exact ⟨parts, hparts, rfl, Except.ok.inj h⟩
  · rintro ⟨parts, hparts, rfl, rfl⟩
    exact ofEvents_partsWalk hparts

/-- Every complete walk makes a tree. -/
theorem exists_ofEvents (h : WellNested events) : ∃ tree, ofEvents events = .ok tree := by
  obtain ⟨parts, hparts, rfl⟩ := wellNested_iff_partsWalk.mp h
  exact ⟨ofParts parts, ofEvents_partsWalk hparts⟩

/-- **A list of events makes a tree exactly when it is a complete walk.** The walk through the tree
is then the list itself, and every node but the root was entered and left by it. -/
theorem ofEvents_wellNested (events : List Event) :
    ((∃ tree, ofEvents events = .ok tree) ↔ WellNested events) ∧
      ∀ tree, ofEvents events = .ok tree →
        tree.walk = events ∧ 2 * tree.size = events.length + 2 := by
  refine ⟨⟨fun ⟨tree, h⟩ => wellNested_of_ofEvents h, exists_ofEvents⟩, ?_⟩
  intro tree h
  obtain ⟨parts, -, rfl, rfl⟩ := ofEvents_eq_ok_iff.mp h
  exact ⟨walk_ofParts parts, by rw [size_ofParts, length_partsWalk, Nat.mul_add]⟩

/-- A statement with a query inside, and another one after it. -/
theorem ofEvents_wellNested_query_inside :
    ∃ tree, ofEvents [.enter .update 1, .enter .select 2, .exit .select 2, .exit .update 3,
        .enter .delete 3, .exit .delete 4] = .ok tree ∧
      tree.walk = [.enter .update 1, .enter .select 2, .exit .select 2, .exit .update 3,
        .enter .delete 3, .exit .delete 4] ∧ tree.size = 4 :=
  ⟨_, rfl, ((ofEvents_wellNested _).2 _ rfl).1, rfl⟩

end Tree

end DmlOutline
