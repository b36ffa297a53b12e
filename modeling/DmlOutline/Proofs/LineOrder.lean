import DmlOutline.Proofs.TreeOfEvents

/-!
# Lines in order

A walk whose lines never go back gives a tree whose statements lie in one another and one after the
other. The lines of the events are all that this needs.

* `Event.Between` — events in the order of their lines, between two lines.
* `Outline.PartsOrdered` — outlines one after the other, each with its parts inside.
* `Tree.Ordered` — the lines of all nodes of a tree.

Principal result: `Tree.Ordered.of_events`.
-/

namespace DmlOutline

/-! ## Events -/

/-- Events in the order of their lines, none before the first line or after the last. -/
structure Event.Between (first last : Nat) (events : List Event) : Prop where
  inOrder : events.Pairwise (·.line ≤ ·.line)
  first_le : ∀ event ∈ events, first ≤ event.line
  le_last : ∀ event ∈ events, event.line ≤ last

namespace Event.Between

variable {first middle last : Nat} {front back events : List Event}

theorem nil (first last : Nat) : Between first last [] where
  inOrder := .nil
  first_le _ h := by cases h
  le_last _ h := by cases h

theorem single {event : Event} (hfirst : first ≤ event.line) (hlast : event.line ≤ last) :
    Between first last [event] where
  inOrder := List.pairwise_singleton _ _
  first_le _ h := by cases List.mem_singleton.mp h; exact hfirst
  le_last _ h := by cases List.mem_singleton.mp h; exact hlast

theorem append (hf : Between first middle front) (hb : Between middle last back)
    (hfirst : first ≤ middle) (hlast : middle ≤ last) : Between first last (front ++ back) where
  inOrder := by
    refine List.pairwise_append.mpr ⟨hf.inOrder, hb.inOrder, ?_⟩
    intro earlier hearlier later hlater
    have hbefore := hf.le_last earlier hearlier
    have hafter := hb.first_le later hlater
    omega
  first_le event h := by
    rcases List.mem_append.mp h with h | h
    · exact hf.first_le event h
    · have hafter := hb.first_le event h
      omega
  le_last event h := by
    rcases List.mem_append.mp h with h | h
    · have hbefore := hf.le_last event h
      omega
    · exact hb.le_last event h

/-- Events after one of the events begin on its line. -/
theorem back_of_mem (h : Between first last (front ++ back)) {event : Event}
    (hmem : event ∈ front) : Between event.line last back where
  inOrder := (List.pairwise_append.mp h.inOrder).2.1
  first_le other hother := (List.pairwise_append.mp h.inOrder).2.2 event hmem other hother
  le_last other hother := h.le_last other (List.mem_append_right front hother)

/-- Events before one of the events end on its line. -/
theorem front_of_mem (h : Between first last (front ++ back)) {event : Event}
    (hmem : event ∈ back) : Between first event.line front where
  inOrder := (List.pairwise_append.mp h.inOrder).1
  first_le other hother := h.first_le other (List.mem_append_left back hother)
  le_last other hother := (List.pairwise_append.mp h.inOrder).2.2 other hother event hmem

theorem of_append (h : Between first last (front ++ back)) : Between first last front where
  inOrder := (List.pairwise_append.mp h.inOrder).1
  first_le other hother := h.first_le other (List.mem_append_left back hother)
  le_last other hother := h.le_last other (List.mem_append_left back hother)

end Event.Between

/-! ## Outlines -/

namespace Outline

mutual

/-- An outline between two lines, its parts inside it. -/
def Ordered (first last : Nat) : Outline → Prop
  | node _ firstLine lastLine parts =>
    first ≤ firstLine ∧ firstLine ≤ lastLine ∧ lastLine ≤ last ∧
      PartsOrdered firstLine lastLine parts

/-- Outlines between two lines, one after the other. -/
def PartsOrdered (first last : Nat) : List Outline → Prop
  | [] => True
  | part :: rest => Ordered first last part ∧ PartsOrdered part.lastLine last rest

end

mutual

theorem ordered_of_walk {first last : Nat} : (outline : Outline) →
    Event.Between first last outline.walk → outline.Ordered first last
  | node kind firstLine lastLine parts, h => by
    have henter : Event.enter kind firstLine ∈ Event.enter kind firstLine :: partsWalk parts :=
      List.mem_cons_self
    have hexit := List.mem_singleton_self (Event.exit kind lastLine)
    have hinner : Event.Between first lastLine ([.enter kind firstLine] ++ partsWalk parts) :=
      h.front_of_mem hexit
    have hparts : Event.Between firstLine lastLine (partsWalk parts) :=
      hinner.back_of_mem (List.mem_singleton_self _)
    refine ⟨h.first_le _ (List.mem_append_left _ henter), ?_,
      h.le_last _ (List.mem_append_right _ hexit), partsOrdered_of_partsWalk parts hparts⟩
    exact hinner.le_last _ henter

theorem partsOrdered_of_partsWalk {first last : Nat} : (parts : List Outline) →
    Event.Between first last (partsWalk parts) → PartsOrdered first last parts
  | [], _ => trivial
  | .node kind firstLine lastLine parts :: rest, h => by
    have hexit : Event.exit kind lastLine ∈ walk (.node kind firstLine lastLine parts) :=
      List.mem_append_right _ (List.mem_singleton_self _)
    exact ⟨ordered_of_walk _ h.of_append, partsOrdered_of_partsWalk rest (h.back_of_mem hexit)⟩

end

theorem Ordered.first_le {first last : Nat} : {outline : Outline} → outline.Ordered first last →
    first ≤ outline.firstLine
  | node _ _ _ _, h => h.1

theorem Ordered.firstLine_le {first last : Nat} : {outline : Outline} →
    outline.Ordered first last → outline.firstLine ≤ outline.lastLine
  | node _ _ _ _, h => h.2.1

theorem Ordered.le_last {first last : Nat} : {outline : Outline} → outline.Ordered first last →
    outline.lastLine ≤ last
  | node _ _ _ _, h => h.2.2.1

theorem Ordered.parts {first last : Nat} : {outline : Outline} → outline.Ordered first last →
    PartsOrdered outline.firstLine outline.lastLine outline.parts
  | node _ _ _ _, h => h.2.2.2

theorem Ordered.widen {first last lower upper : Nat} (hfirst : lower ≤ first)
    (hlast : last ≤ upper) : {outline : Outline} → outline.Ordered first last →
      outline.Ordered lower upper
  | node _ _ _ _, ⟨hf, hin, hl, hparts⟩ =>
    ⟨Nat.le_trans hfirst hf, hin, Nat.le_trans hl hlast, hparts⟩

/-- Ordered outlines end where the last of them does. -/
theorem PartsOrdered.restrict {first last lower upper : Nat} (hfirst : lower ≤ first) :
    {parts : List Outline} → PartsOrdered first last parts →
      (∀ part ∈ parts, part.lastLine ≤ upper) → PartsOrdered lower upper parts
  | [], _, _ => trivial
  | node _ _ _ _ :: _, ⟨⟨hf, hin, _, hparts⟩, hrest⟩, hupper =>
    ⟨⟨Nat.le_trans hfirst hf, hin, hupper _ List.mem_cons_self, hparts⟩,
      hrest.restrict (Nat.le_refl _) fun part hmem => hupper part (List.mem_cons_of_mem _ hmem)⟩

mutual

/-- What is inside ordered outlines is ordered, too. -/
theorem Ordered.of_mem_within {first last : Nat} {inner : Outline} : {outline : Outline} →
    outline.Ordered first last → inner ∈ outline.within → inner.Ordered first last
  | node _ _ _ _, h, hmem => by
    rcases List.mem_cons.mp hmem with rfl | hmem
    · exact h
    · exact (h.parts.of_mem_partsWithin hmem).widen h.first_le h.le_last

theorem PartsOrdered.of_mem_partsWithin {first last : Nat} {inner : Outline} :
    {parts : List Outline} → PartsOrdered first last parts → inner ∈ partsWithin parts →
      inner.Ordered first last
  | _ :: _, ⟨hpart, hrest⟩, hmem => by
    rcases List.mem_append.mp hmem with hmem | hmem
    · exact hpart.of_mem_within hmem
    · have hfirst := hpart.first_le
      have hlast := hpart.firstLine_le
      exact (hrest.of_mem_partsWithin hmem).widen (by omega) (Nat.le_refl _)

end

end Outline

/-! ## Trees -/

namespace Tree

open Outline

/-- The lines of all nodes of a tree of statements, none of which ends after a line. -/
structure Ordered (tree : Tree) (last : Nat) : Prop where
  /-- The root, and no other node, is of the kind that is never entered. -/
  root_iff : ∀ id node, tree.node? id = some node → (node.kind = .root ↔ id = 0)
  firstLine_root : ∃ root, tree.node? 0 = some root ∧ root.firstLine = 0
  firstLine_le : ∀ id node, tree.node? id = some node → node.firstLine ≤ node.lastLine
  /-- Statements begin on the first line at the earliest. -/
  lines : ∀ id node, tree.node? id = some node → id ≠ 0 → 1 ≤ node.firstLine ∧ node.lastLine ≤ last
  /-- Children lie inside their parent. -/
  inside : ∀ id node, tree.node? id = some node → ∀ child ∈ node.children,
    ∃ inner, tree.node? child = some inner ∧ node.firstLine ≤ inner.firstLine ∧
      inner.lastLine ≤ node.lastLine
  /-- Children lie one after the other. -/
  inTurn : ∀ id node, tree.node? id = some node →
    node.children.Pairwise fun earlier later => ∀ before after,
      tree.node? earlier = some before → tree.node? later = some after →
        before.lastLine ≤ after.firstLine
  /-- The root ends on the greatest line of all. -/
  lastLine_root : ∀ root, tree.node? 0 = some root →
    (∀ id node, tree.node? id = some node → node.lastLine ≤ root.lastLine) ∧
      if tree.isEmpty then root.lastLine = 0
      else ∃ id node, id ≠ 0 ∧ tree.node? id = some node ∧ node.lastLine = root.lastLine

variable {tree : Tree} {last : Nat}

theorem HoldsAll.exists_of_mem : {first : Nat} → {ids : List Nat} → {parts : List Outline} →
    tree.HoldsAll ids parts → PartsOrdered first last parts → ∀ child ∈ ids,
      ∃ inner, tree.node? child = some inner ∧ first ≤ inner.firstLine ∧ inner.lastLine ≤ last
  | _, id :: ids, .node _ _ _ _ :: rest, ⟨hpart, hrest⟩, ⟨hordered, hafter⟩, child, hmem => by
    rcases List.mem_cons.mp hmem with rfl | hmem
    · obtain ⟨inner, hinner, -, rfl, rfl, -⟩ := hpart
      exact ⟨inner, hinner, hordered.first_le, hordered.le_last⟩
    · obtain ⟨inner, hinner, hlower, hupper⟩ := hrest.exists_of_mem hafter child hmem
      have := hordered.first_le
      have := hordered.firstLine_le
      exact ⟨inner, hinner, by omega, hupper⟩

theorem HoldsAll.inTurn : {first : Nat} → {ids : List Nat} → {parts : List Outline} →
    tree.HoldsAll ids parts → PartsOrdered first last parts →
      ids.Pairwise fun earlier later => ∀ before after,
        tree.node? earlier = some before → tree.node? later = some after →
          before.lastLine ≤ after.firstLine
  | _, [], [], _, _ => .nil
  | _, id :: ids, .node _ _ _ _ :: rest, ⟨hpart, hrest⟩, ⟨_, hafter⟩ => by
    refine List.pairwise_cons.mpr ⟨fun later hlater before after hbefore hafterId => ?_,
      hrest.inTurn hafter⟩
    obtain ⟨top, htop, -, -, hline, -⟩ := hpart
    obtain ⟨inner, hinner, hlower, -⟩ := hrest.exists_of_mem hafter later hlater
    rw [hbefore] at htop
    rw [hafterId] at hinner
    cases htop
    cases hinner
    rw [hline]
    exact hlower

/-- The last of the lines of nodes is a line of one of them. -/
theorem foldl_max_greatest (lines : List Nat) :
    (∀ line ∈ lines, line ≤ lines.foldl max 0) ∧ (lines ≠ [] → lines.foldl max 0 ∈ lines) := by
  rw [List.foldl_max, Nat.zero_max]
  cases hmax : lines.max? with
  | none =>
    obtain rfl := List.max?_eq_none_iff.mp hmax
    exact ⟨fun line h => (List.not_mem_nil h).elim, fun h => absurd rfl h⟩
  | some greatest =>
    obtain ⟨hmem, hle⟩ := List.max?_eq_some_iff.mp hmax
    exact ⟨hle, fun _ => hmem⟩

theorem lastLine_mem_partNodes {parent id : Nat} {part : Outline} : {parts : List Outline} →
    part ∈ parts → part.lastLine ∈ (partNodes parent id parts).map Node.lastLine
  | .node _ _ _ _ :: _, hmem => by
    rw [partNodes, List.map_append]
    rcases List.mem_cons.mp hmem with rfl | hmem
    · exact List.mem_append_left _ List.mem_cons_self
    · exact List.mem_append_right _ (lastLine_mem_partNodes hmem)

variable {parts : List Outline} {id : Nat} {node : Node}

/-- What is known of a node below the root. -/
theorem ordered_of_node? (hproper : PartsProper parts) (hordered : PartsOrdered 1 last parts)
    (hid : id ≠ 0) (h : (ofParts parts).node? id = some node) :
    node.kind ≠ .root ∧ ∃ inner, (ofParts parts).HoldsAll node.children inner ∧
      Outline.Ordered 1 last (.node node.kind node.firstLine node.lastLine inner) := by
  obtain ⟨part, hmem, hpart⟩ := holds_of_mem hid h
  have hin := hordered.of_mem_partsWithin hmem
  have hkind := hproper.of_mem_partsWithin hmem
  cases part with
  | node kind firstLine lastLine inner =>
    obtain ⟨found, hfound, rfl, rfl, rfl, hinner⟩ := hpart
    rw [h] at hfound
    cases hfound
    exact ⟨hkind.1, inner, hinner, hin⟩

/-- No node ends after the root, and one of those below it ends with it. -/
theorem lastLine_root_ofParts {root : Node} (hroot : (ofParts parts).node? 0 = some root) :
    (∀ id node, (ofParts parts).node? id = some node → node.lastLine ≤ root.lastLine) ∧
      if (ofParts parts).isEmpty then root.lastLine = 0
      else ∃ id node, id ≠ 0 ∧ (ofParts parts).node? id = some node ∧
        node.lastLine = root.lastLine := by
  obtain ⟨hle, hgreatest⟩ := foldl_max_greatest ((partNodes 0 1 parts).map Node.lastLine)
  cases hroot
  constructor
  · intro id node hnode
    cases id with
    | zero => cases hnode; exact Nat.le_refl _
    | succ i => exact hle _ (List.mem_map_of_mem (List.mem_of_getElem? hnode))
  · split
    · rename_i hempty
      have hnil : partNodes 0 1 parts = [] := by
        refine List.length_eq_zero_iff.mp ?_
        rw [length_partNodes]
        simpa [isEmpty] using hempty
      rw [hnil]
      rfl
    · rename_i hfull
      have hsome : (partNodes 0 1 parts).map Node.lastLine ≠ [] := by
        intro hnil
        have hlen := congrArg List.length hnil
        rw [List.length_map, length_partNodes, List.length_nil] at hlen
        simp [isEmpty, hlen] at hfull
      obtain ⟨node, hnode, hline⟩ := List.mem_map.mp (hgreatest hsome)
      obtain ⟨i, hi⟩ := List.mem_iff_getElem?.mp hnode
      exact ⟨i + 1, node, Nat.succ_ne_zero i, hi, hline⟩

/-- The children of any node, the root included, hold ordered outlines between its lines. -/
theorem children_of_node? (hproper : PartsProper parts) (hordered : PartsOrdered 1 last parts)
    (h : (ofParts parts).node? id = some node) :
    node.firstLine ≤ node.lastLine ∧ ∃ inner, (ofParts parts).HoldsAll node.children inner ∧
      PartsOrdered node.firstLine node.lastLine inner := by
  by_cases hid : id = 0
  · subst hid
    cases h
    refine ⟨Nat.zero_le _, parts, holdsAll_ofParts parts, ?_⟩
    refine hordered.restrict (Nat.zero_le 1) ?_
    intro part hmem
    exact (foldl_max_greatest _).1 _ (lastLine_mem_partNodes hmem)
  · obtain ⟨-, inner, hinner, hin⟩ := ordered_of_node? hproper hordered hid h
    exact ⟨hin.firstLine_le, inner, hinner, hin.parts⟩

/-- Outlines in order are laid out as a tree whose lines are in order. -/
theorem ordered_ofParts (hproper : PartsProper parts) (hordered : PartsOrdered 1 last parts) :
    (ofParts parts).Ordered last where
  root_iff id node h := by
    by_cases hid : id = 0
    · subst hid
      cases h
      exact ⟨fun _ => rfl, fun _ => rfl⟩
    · have hkind := (ordered_of_node? hproper hordered hid h).1
      exact ⟨fun hroot => absurd hroot hkind, fun hzero => absurd hzero hid⟩
  firstLine_root := ⟨_, node?_zero_ofParts parts, rfl⟩
  firstLine_le id node h := (children_of_node? hproper hordered h).1
  lines id node h hid := by
    obtain ⟨-, inner, -, hin⟩ := ordered_of_node? hproper hordered hid h
    exact ⟨hin.first_le, hin.le_last⟩
  inside id node h := by
    obtain ⟨-, inner, hinner, hin⟩ := children_of_node? hproper hordered h
    exact hinner.exists_of_mem hin
  inTurn id node h := by
    obtain ⟨-, inner, hinner, hin⟩ := children_of_node? hproper hordered h
    exact hinner.inTurn hin
  lastLine_root root := lastLine_root_ofParts

/-- **Events on lines in order make a tree whose lines are in order.** -/
theorem Ordered.of_events {events : List Event} (hevents : Event.Between 1 last events)
    (h : ofEvents events = .ok tree) : tree.Ordered last := by
  obtain ⟨parts, hproper, rfl, rfl⟩ := ofEvents_eq_ok_iff.mp h
  exact ordered_ofParts hproper (partsOrdered_of_partsWalk parts hevents)

end Tree

end DmlOutline
