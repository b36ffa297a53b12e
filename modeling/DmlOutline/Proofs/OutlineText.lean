import DmlOutline.Outline.Json
import DmlOutline.Proofs.JsonRoundTrip
import DmlOutline.Proofs.LineOrder

/-!
# Outlines are read back

The text of an outline is the text of its JSON value, and that is read back. What a reader of
outlines makes of the value depends on how far it may nest: every level of statements takes an
object and an array.

* `Outline.maxHeight` — how many levels of statements can be read.

Principal results: `Outline.ofJson?_toJson`, `Outline.read?_write`; `Tree.read?_write_outline`: the
outline of a list of events.
-/

namespace DmlOutline

namespace Outline

/-! ## Outlines as values -/

mutual

/-- There is nothing foreign in the value of an outline. -/
theorem plain_toJson : (outline : Outline) → outline.toJson.Plain
  | node _ _ _ parts => ⟨trivial, trivial, trivial, plainItems_partsToJson parts, trivial⟩

theorem plainItems_partsToJson : (parts : List Outline) → Json.PlainItems (partsToJson parts)
  | [] => trivial
  | part :: rest => ⟨plain_toJson part, plainItems_partsToJson rest⟩

end

/-- The members that an outline is written with. -/
theorem members?_toJson (kind : StatementKind) (firstLine lastLine : Nat) (parts : List Outline) :
    Json.members? memberNames (toJson (.node kind firstLine lastLine parts)) =
      some [.given (.string kind.tag), .given (.nat firstLine), .given (.nat lastLine),
        .given (.array (partsToJson parts))] := by
  simp [Json.members?, memberNames, toJson, Json.Member.ofFields?]

theorem line?_nat {line : Nat} (h : line < UInt32.size) : Json.line? (.nat line) = some line :=
  if_pos h

/-- The members of an outline are read back when its parts are. -/
theorem ofMembers?_given (kind : StatementKind) {firstLine lastLine : Nat} (objects : Bool)
    (hfirst : firstLine < UInt32.size) (hlast : lastLine < UInt32.size)
    (readParts : Json → Option (List Outline)) (parts : Json) :
    ofMembers? objects readParts [.given (.string kind.tag), .given (.nat firstLine),
      .given (.nat lastLine), .given parts] =
        (readParts parts).map (.node kind firstLine lastLine) := by
  simp only [ofMembers?, Json.Member.required, Json.Member.withDefault, Json.tag?, line?_nat hfirst,
    line?_nat hlast, StatementKind.ofTag?_tag, Option.bind_eq_bind, Option.bind_some]
  exact Option.map_eq_bind.symm

mutual

/-- **An outline is read back as far as the reader may nest.** -/
theorem ofJson?_toJson : (budget : Nat) → (outline : Outline) →
    (∀ event ∈ outline.walk, event.line < UInt32.size) →
      ofJson? budget outline.toJson =
        if 2 * (outline.height + 1) ≤ budget then some outline else none
  | 0, outline, _ => by
    rw [if_neg (by omega)]
    rfl
  | 1, .node kind firstLine lastLine parts, h => by
    have hfirst : firstLine < UInt32.size := h (.enter kind firstLine) (by simp [walk])
    have hlast : lastLine < UInt32.size := h (.exit kind lastLine) (by simp [walk])
    rw [ofJson?, members?_toJson]
    simp only [Option.bind_eq_bind, Option.bind_some, ofMembers?_given kind false hfirst hlast]
    rw [if_neg (by omega)]
    rfl
  | budget + 2, .node kind firstLine lastLine parts, h => by
    have hfirst : firstLine < UInt32.size := h (.enter kind firstLine) (by simp [walk])
    have hlast : lastLine < UInt32.size := h (.exit kind lastLine) (by simp [walk])
    have hparts := mapM_ofJson? budget parts fun event hevent => h event (by simp [walk, hevent])
    rw [ofJson?, members?_toJson]
    simp only [Option.bind_eq_bind, Option.bind_some, ofMembers?_given kind true hfirst hlast,
      Json.list?, hparts]
    have htop : height (.node kind firstLine lastLine parts) = partsHeight parts := by rw [height]
    by_cases hheight : 2 * partsHeight parts ≤ budget
    · rw [if_pos hheight, if_pos (by omega)]
      rfl
    · rw [if_neg hheight, if_neg (by omega)]
      rfl

/-- Outlines in a list are read back as far as the reader may nest. -/
theorem mapM_ofJson? : (budget : Nat) → (parts : List Outline) →
    (∀ event ∈ partsWalk parts, event.line < UInt32.size) →
      (partsToJson parts).mapM (ofJson? budget) =
        if 2 * partsHeight parts ≤ budget then some parts else none
  | budget, [], _ => by
    rw [partsHeight, if_pos (by omega)]
    rfl
  | budget, part :: rest, h => by
    have hpart := ofJson?_toJson budget part fun event hevent =>
      h event (by simp [partsWalk, hevent])
    have hrest := mapM_ofJson? budget rest fun event hevent =>
      h event (by simp [partsWalk, hevent])
    rw [partsToJson, List.mapM_cons, hpart, hrest, partsHeight]
    by_cases hfirst : 2 * (part.height + 1) ≤ budget
    · by_cases hothers : 2 * partsHeight rest ≤ budget
      · rw [if_pos hfirst, if_pos hothers, if_pos (by omega)]
        rfl
      · rw [if_pos hfirst, if_neg hothers, if_neg (by omega)]
        rfl
    · have hall : ¬2 * max (1 + part.height) (partsHeight rest) ≤ budget := by omega
      rw [if_neg hfirst, if_neg hall]
      rfl

end

/-- How many levels of statements can be read. -/
def maxHeight : Nat := 62

/-- **The text of an outline is read back, unless the outline is too high.** -/
theorem read?_write {outline : Outline} (h : ∀ event ∈ outline.walk, event.line < UInt32.size) :
    read? outline.write = if outline.height ≤ maxHeight then some outline else none := by
  have hnesting : 2 * (outline.height + 1) ≤ maxNesting ↔ outline.height ≤ maxHeight := by
    unfold maxNesting maxHeight
    omega
  rw [read?, write, Json.parse?_pretty (plain_toJson outline), Option.bind_some,
    ofJson?_toJson maxNesting outline h]
  simp only [hnesting]

/-! ## Outlines of lists of events -/

mutual

/-- A walk enters every statement once. -/
theorem enters_walk : (outline : Outline) →
    Event.enters outline.walk = 1 + outline.statementCount
  | node kind firstLine lastLine parts => by
    have hparts := enters_partsWalk parts
    have henter : ∀ rest, Event.enters (.enter kind firstLine :: rest) = Event.enters rest + 1 :=
      fun _ => List.countP_cons_of_pos rfl
    have hexit : Event.enters [.exit kind lastLine] = 0 := rfl
    rw [walk, Event.enters_append, henter, hparts, hexit, statementCount]
    omega

theorem enters_partsWalk : (parts : List Outline) →
    Event.enters (partsWalk parts) = partsCount parts
  | [] => rfl
  | part :: rest => by
    rw [partsWalk, Event.enters_append, enters_walk part, enters_partsWalk rest, partsCount]

end

mutual

/-- Every node ends on the line of one of the events. -/
theorem exists_event_of_mem_nodesFrom {last : Tree.Node} : (parent id : Nat) →
    (outline : Outline) → last ∈ nodesFrom parent id outline →
      ∃ event ∈ outline.walk, event.line = last.lastLine
  | _, id, node kind firstLine lastLine parts, h => by
    rcases List.mem_cons.mp h with rfl | h
    · exact ⟨.exit kind lastLine, by simp [walk], rfl⟩
    · obtain ⟨event, hevent, hline⟩ := exists_event_of_mem_partNodes id (id + 1) parts h
      exact ⟨event, by simp [walk, hevent], hline⟩

theorem exists_event_of_mem_partNodes {last : Tree.Node} : (parent id : Nat) →
    (parts : List Outline) → last ∈ partNodes parent id parts →
      ∃ event ∈ partsWalk parts, event.line = last.lastLine
  | parent, id, part :: rest, h => by
    rcases List.mem_append.mp h with h | h
    · obtain ⟨event, hevent, hline⟩ := exists_event_of_mem_nodesFrom parent id part h
      exact ⟨event, by simp [partsWalk, hevent], hline⟩
    · obtain ⟨event, hevent, hline⟩ := exists_event_of_mem_partNodes parent _ rest h
      exact ⟨event, by simp [partsWalk, hevent], hline⟩

end

end Outline

namespace Tree

variable {events : List Event} {tree : Tree}

/-- Every event that is a line of the outline of a list of events is on one of their lines, or on
line zero. -/
theorem line_of_mem_walk_outline (h : ofEvents events = .ok tree) :
    ∀ event ∈ tree.outline.walk, event.line = 0 ∨ ∃ other ∈ events, event.line = other.line := by
  obtain ⟨parts, -, rfl, rfl⟩ := ofEvents_eq_ok_iff.mp h
  intro event hevent
  rw [outline_ofParts, Outline.walk, List.cons_append, List.mem_cons, List.mem_append,
    List.mem_singleton] at hevent
  rcases hevent with rfl | hevent | rfl
  · exact .inl rfl
  · exact .inr ⟨event, hevent, rfl⟩
  · -- the root ends on the last line of all
    have hgreatest := (foldl_max_greatest ((Outline.partNodes 0 1 parts).map Node.lastLine)).2
    by_cases hnil : (Outline.partNodes 0 1 parts).map Node.lastLine = []
    · rw [hnil]
      exact .inl rfl
    · obtain ⟨node, hnode, hline⟩ := List.mem_map.mp (hgreatest hnil)
      obtain ⟨other, hother, hsame⟩ := Outline.exists_event_of_mem_partNodes 0 1 parts hnode
      exact .inr ⟨other, hother, (hsame.trans hline).symm⟩

/-- **The outline of a list of events has a statement for each that is entered.** -/
theorem statementCount_outline (h : ofEvents events = .ok tree) :
    tree.outline.statementCount = Event.enters events ∧
      tree.size - 1 = Event.enters events := by
  obtain ⟨parts, -, rfl, rfl⟩ := ofEvents_eq_ok_iff.mp h
  rw [outline_ofParts, Outline.statementCount, Outline.enters_partsWalk, size_ofParts]
  exact ⟨rfl, rfl⟩

/-- **The outline of a list of events is read back, unless it is too high.** -/
theorem read?_write_outline (h : ofEvents events = .ok tree)
    (hlines : ∀ event ∈ events, event.line < UInt32.size) :
    Outline.read? tree.outline.write =
      if tree.outline.height ≤ Outline.maxHeight then some tree.outline else none := by
  refine Outline.read?_write ?_
  intro event hevent
  rcases line_of_mem_walk_outline h event hevent with hzero | ⟨other, hother, hline⟩
  · rw [hzero]
    decide
  · rw [hline]
    exact hlines other hother

end Tree

end DmlOutline
