import DmlOutline.Proofs.ClauseKeywords
import DmlOutline.Proofs.ScanComplete

/-!
# How many statements are open

Of two open statements at one depth the outer one is an `INSERT` and the inner one its query, so no
more than two are open at any depth. An outline is as high as statements were open at once, hence no
higher than twice the depths that the parentheses of its text come to.

* `Scan.State.Arranged` — the order of the open statements, and what may be open at one depth.
* `Scan.deepest` — the greatest number of open parentheses.
* `Event.greatestOpen` — the greatest number of statements that are open at once.
* `Draft.openKinds` — the kinds of the open statements of a draft.

Principal results: `Scan.State.Paired.acts`: what every token keeps; `Tree.height_outline_eq`: the
height of an outline; `Scan.arranged_of_tokens`.
-/

namespace DmlOutline

namespace Scan

variable {state next final : State} {before : Option Token} {token : Token}
  {after ahead tokens : List Token} {events : List Event} {kind : StatementKind}

/-! ## Statements of one depth -/

namespace State

/-- Of two open statements at one depth, the outer one is an `INSERT` and the inner one a query. -/
def Paired (state : State) : Prop :=
  state.statements.Pairwise fun inner outer =>
    inner.depth = outer.depth → outer.kind = .insert ∧ inner.kind = .select

/-- The order of the open statements, what may be open at one depth, and what may await a query. -/
structure Arranged (state : State) : Prop extends Nested state where
  paired : state.Paired
  onlyQueriesAwait : state.OnlyQueriesAwait

/-- Where none is open at the present depth, all are outside it. -/
theorem Nested.lt_of_current_none (h : state.Nested) (hcurrent : state.current = none) :
    ∀ frame ∈ state.statements, frame.depth < state.depth := by
  intro frame hframe
  cases hstatements : state.statements with
  | nil =>
    rw [hstatements] at hframe
    cases hframe
  | cons head outer =>
    have hne : head.depth ≠ state.depth := by simpa [current, hstatements] using hcurrent
    have hinOrder := h.inOrder
    have hhead := h.within head (by rw [hstatements]; exact List.mem_cons_self)
    rw [hstatements] at hframe hinOrder
    rcases List.mem_cons.mp hframe with rfl | houter
    · omega
    · have hle := (List.rel_of_pairwise_cons hinOrder houter).1
      omega

/-- **The current statement is the innermost one of the present depth,** whenever there is one. -/
theorem Nested.current_eq_find? (h : state.Nested) :
    state.current = state.statements.find? (·.depth = state.depth) := by
  cases hcurrent : state.current with
  | none =>
    refine (List.find?_eq_none.mpr fun frame hframe => ?_).symm
    have hlt := h.lt_of_current_none hcurrent frame hframe
    simpa using Nat.ne_of_lt hlt
  | some frame =>
    obtain ⟨hhead, hdepth⟩ := Option.filter_eq_some_iff.mp hcurrent
    obtain ⟨outer, hstatements⟩ := List.head?_eq_some_iff.mp hhead
    simp [hstatements, hdepth]

/-- A keyword opens a statement where none of its depth is open, or as the query of an `INSERT`. -/
theorem of_role_opens {line : Nat} (h : role state kind line before = .opens) :
    state.current = none ∨
      ∃ frame, state.current = some frame ∧ frame.kind = .insert ∧ kind = .select := by
  unfold role at h
  cases hcurrent : state.current with
  | none => exact .inl rfl
  | some frame =>
    simp only [hcurrent] at h
    split at h
    · cases h
    · split at h
      · rename_i hinsert
        exact .inr ⟨frame, rfl, by simpa using hinsert⟩
      · split at h <;> cases h

namespace Paired

theorem closeDownTo (h : state.Paired) (depth : Nat) (closing : Option Nat) :
    (state.closeDownTo depth closing).1.Paired :=
  List.Pairwise.sublist (state.sublist_closeDownTo depth closing) h

theorem foundQuery (h : state.Paired) : state.foundQuery.Paired := by
  unfold State.foundQuery
  split
  · exact h
  · rename_i frame outer hstatements
    unfold Paired at h
    rw [hstatements, List.pairwise_cons] at h
    exact List.pairwise_cons.mpr h

theorem opening (h : state.Paired) {line : Nat} {awaitsQuery : Bool}
    (hnew : ∀ outer ∈ state.statements, state.depth = outer.depth →
      outer.kind = .insert ∧ kind = .select) :
    (Scan.opening state kind line before awaitsQuery).1.Paired := by
  unfold Scan.opening
  split <;> exact List.pairwise_cons.mpr ⟨hnew, h⟩

/-- What a keyword opens is alone at its depth, or the query of the one `INSERT` there. -/
theorem of_opens (h : state.Paired) (hnested : state.Nested) {line : Nat}
    (hrole : role state kind line before = .opens) :
    ∀ outer ∈ state.statements, state.depth = outer.depth →
      outer.kind = .insert ∧ kind = .select := by
  intro outer houter hdepth
  rcases of_role_opens hrole with hnone | ⟨frame, hcurrent, hinsert, hselect⟩
  · have := hnested.lt_of_current_none hnone outer houter
    omega
  · obtain ⟨hhead, hframe⟩ := Option.filter_eq_some_iff.mp hcurrent
    obtain ⟨rest, hstatements⟩ := List.head?_eq_some_iff.mp hhead
    have hframe : frame.depth = state.depth := by simpa using hframe
    unfold Paired at h
    rw [hstatements] at h houter
    rcases List.mem_cons.mp houter with rfl | hrest
    · exact ⟨hinsert, hselect⟩
    · -- a third one of this depth would make a query of the `INSERT`
      have hpair := List.rel_of_pairwise_cons h hrest (hframe.trans hdepth)
      rw [hinsert] at hpair
      cases hpair.2

/-- **Every token keeps that only an `INSERT` and its query share a depth.** -/
theorem acts (h : state.Paired) (hnested : state.Nested)
    (hacts : Acts state before token after next events) : next.Paired := by
  cases hacts with
  | keeps | opensParen => exact h
  | closesParen => exact h.closeDownTo state.depth (some token.line)
  | ends | endsAll => exact h.closeDownTo _ none
  | findsQuery => exact h.foundQuery
  | opens _ _ hrole => exact h.opening (h.of_opens hnested hrole)
  | restarts =>
    refine (h.closeDownTo state.depth none).opening fun outer houter hdepth => ?_
    have hlt := hnested.lt_of_mem_closeDownTo none houter
    rw [depth_closeDownTo] at hdepth
    omega

/-- Of three statements of one depth, the middle one would be an `INSERT` and a query. -/
theorem length_le_two {frames : List Frame} (depth : Nat)
    (hsame : ∀ frame ∈ frames, frame.depth = depth)
    (hpairs : frames.Pairwise fun inner outer =>
      inner.depth = outer.depth → outer.kind = .insert ∧ inner.kind = .select) :
    frames.length ≤ 2 := by
  match frames with
  | [] | [_] | [_, _] => simp
  | first :: second :: third :: rest =>
    have hfirst := hsame first (by simp)
    have hsecond := hsame second (by simp)
    have hthird := hsame third (by simp)
    rw [List.pairwise_cons, List.pairwise_cons] at hpairs
    have houter := hpairs.1 second (by simp) (hfirst.trans hsecond.symm)
    have hinner := hpairs.2.1 third (by simp) (hsecond.trans hthird.symm)
    rw [houter.1] at hinner
    cases hinner.2

/-- **No more than two statements are open at any depth.** -/
theorem countP_depth_le (h : state.Paired) (depth : Nat) :
    state.statements.countP (·.depth = depth) ≤ 2 := by
  rw [List.countP_eq_length_filter]
  refine length_le_two depth (fun frame hframe => ?_) (h.sublist List.filter_sublist)
  simpa using (List.mem_filter.mp hframe).2

theorem step (h : state.Paired) (hstacked : state.Stacked before)
    (hstep : Scan.step state before token after = .ok (next, events)) : next.Paired := by
  obtain ⟨reached, hacts, rfl⟩ := acts_of_step hstep
  have hreached : reached.Paired := h.acts hstacked.toNested hacts
  exact hreached

theorem runUpTo (h : state.Paired) (hstacked : state.Stacked before)
    (hrun : Scan.runUpTo ahead state before tokens = .ok (final, events)) : final.Paired :=
  (runUpTo_keeps (fun state before => state.Stacked before ∧ state.Paired)
    (fun hkept hstep => ⟨hkept.1.step hstep, hkept.2.step hkept.1 hstep⟩) ⟨hstacked, h⟩ hrun).2

end Paired

/-- **What is open at a place of a scan is arranged.** -/
theorem arranged_of_runUpTo (hrun : Scan.runUpTo ahead {} none tokens = .ok (state, events)) :
    state.Arranged := by
  have hpaired : ({} : State).Paired := .nil
  have hawait : ({} : State).OnlyQueriesAwait := fun _ hframe => nomatch hframe
  exact ⟨(stacked_initial.runUpTo hrun).toNested, hpaired.runUpTo stacked_initial hrun,
    hawait.runUpTo hrun⟩

/-- Where each number below a bound comes from few items, the items are not many. -/
theorem length_le_of_countP_le {α : Type} (f : α → Nat) (most : Nat) {bound : Nat} {items : List α}
    (hbelow : ∀ item ∈ items, f item < bound) (hfew : ∀ i, items.countP (f · = i) ≤ most) :
    items.length ≤ most * bound := by
  induction bound generalizing items with
  | zero =>
    cases items with
    | nil => exact Nat.zero_le _
    | cons item rest => exact absurd (hbelow item List.mem_cons_self) (Nat.not_lt_zero _)
  | succ bound ih =>
    have hrest := @ih (items.filter fun item => !decide (f item = bound))
      (fun item hitem => by
        obtain ⟨hmem, hne⟩ := List.mem_filter.mp hitem
        have hlt := hbelow item hmem
        have hne : f item ≠ bound := by simpa using hne
        omega)
      (fun i => Nat.le_trans List.filter_sublist.countP_le (hfew i))
    have hsplit := List.length_eq_length_filter_add (l := items) fun item => f item = bound
    have htop := hfew bound
    rw [List.countP_eq_length_filter] at htop
    rw [Nat.mul_add, Nat.mul_one]
    omega

/-- **No more than twice as many statements are open as depths may hold one.** -/
theorem Paired.length_le (h : state.Paired) (hnested : state.Nested) :
    state.statements.length ≤ 2 * (state.depth + 1) :=
  length_le_of_countP_le Frame.depth 2
    (fun frame hframe => Nat.lt_succ_of_le (hnested.within frame hframe)) h.countP_depth_le

end State

/-! ## The greatest number of open parentheses -/

/-- The greatest number of parentheses that are open at once, from a number at the start on. -/
def deepest (depth : Nat) (before : Option Token) : List Token → Nat
  | [] => depth
  | token :: rest => max depth (deepest (depthAfter depth before token rest) (some token) rest)

theorem le_deepest (depth : Nat) (before : Option Token) (tokens : List Token) :
    depth ≤ deepest depth before tokens := by
  cases tokens with
  | nil => exact Nat.le_refl _
  | cons token rest => exact Nat.le_max_left _ _

/-- **At no place of a run are more parentheses open.** -/
theorem depth_le_deepest
    (hrun : runUpTo ahead state before tokens = .ok (final, events)) :
    final.depth ≤ deepest state.depth before (tokens ++ ahead) := by
  induction tokens generalizing state before events with
  | nil =>
    cases hrun
    exact le_deepest _ _ _
  | cons token rest ih =>
    obtain ⟨next, told, more, hstep, hrun, -⟩ := runUpTo_cons_eq_ok.mp hrun
    rw [List.cons_append, deepest, ← depth_of_step hstep]
    exact Nat.le_trans (ih hrun) (Nat.le_max_right _ _)

/-- **At some place of a run so many are open.** -/
theorem exists_depth_eq_deepest (hrun : run state before tokens = .ok (final, events)) :
    ∃ front back reached told, front ++ back = tokens ∧
      runUpTo back state before front = .ok (reached, told) ∧
      reached.depth = deepest state.depth before tokens := by
  induction tokens generalizing state before events with
  | nil => exact ⟨[], [], state, [], rfl, rfl, rfl⟩
  | cons token rest ih =>
    obtain ⟨next, told, more, hstep, hrest, -⟩ := run_cons_eq_ok.mp hrun
    obtain ⟨front, back, reached, inside, rfl, hfront, hdepth⟩ := ih hrest
    rw [deepest, ← depth_of_step hstep]
    rcases Nat.le_total state.depth (deepest next.depth (some token) (front ++ back)) with h | h
    · refine ⟨token :: front, back, reached, told ++ inside, rfl, ?_, ?_⟩
      · exact runUpTo_cons_eq_ok.mpr ⟨next, told, inside, hstep, hfront, rfl⟩
      · rw [hdepth, Nat.max_eq_right h]
    · exact ⟨[], _, state, [], rfl, rfl, (Nat.max_eq_left h).symm⟩

end Scan

/-! ## The greatest number of open statements -/

namespace Event

/-- The greatest number of statements that are open at once, from a number at the start on. -/
def greatestOpen (count : Nat) : List Event → Nat
  | [] => count
  | .enter _ _ :: rest => max count (greatestOpen (count + 1) rest)
  | .exit _ _ :: rest => max count (greatestOpen (count - 1) rest)

theorem le_greatestOpen (count : Nat) (events : List Event) :
    count ≤ greatestOpen count events := by
  match events with
  | [] => exact Nat.le_refl _
  | .enter _ _ :: _ | .exit _ _ :: _ => exact Nat.le_max_left _ _

end Event

namespace Outline

mutual

/-- A walk through an outline goes through all its levels, and goes on where it began. -/
theorem greatestOpen_walk (count : Nat) (rest : List Event) : (outline : Outline) →
    Event.greatestOpen count (outline.walk ++ rest) =
      max (count + 1 + outline.height) (Event.greatestOpen count rest)
  | .node kind first last parts => by
    have hinside := greatestOpen_partsWalk (count + 1) (.exit kind last :: rest) parts
    rw [Event.greatestOpen, Nat.add_sub_cancel] at hinside
    rw [walk, List.cons_append, List.cons_append, List.append_assoc, List.singleton_append,
      Event.greatestOpen, hinside, height]
    have hle := Event.le_greatestOpen count rest
    omega

theorem greatestOpen_partsWalk (count : Nat) (rest : List Event) : (parts : List Outline) →
    Event.greatestOpen count (partsWalk parts ++ rest) =
      max (count + partsHeight parts) (Event.greatestOpen count rest)
  | [] => (Nat.max_eq_right (Event.le_greatestOpen count rest)).symm
  | part :: parts => by
    have hrest := greatestOpen_partsWalk count rest parts
    have hpart := greatestOpen_walk count (partsWalk parts ++ rest) part
    rw [partsWalk, List.append_assoc, hpart, hrest, partsHeight]
    omega

end

end Outline

/-- **The outline of a tree is as high as statements were open at once.** -/
theorem Tree.height_outline_eq {tree : Tree} {events : List Event}
    (h : Tree.ofEvents events = .ok tree) :
    tree.outline.height = Event.greatestOpen 0 events := by
  obtain ⟨parts, -, rfl, rfl⟩ := Tree.ofEvents_eq_ok_iff.mp h
  have hwalk := Outline.greatestOpen_partsWalk 0 [] parts
  rw [List.append_nil, Event.greatestOpen, Nat.max_zero, Nat.zero_add] at hwalk
  rw [Tree.outline_ofParts, Outline.height, hwalk]

namespace Scan

variable {state next final : State} {before : Option Token} {token : Token}
  {after ahead tokens : List Token} {events : List Event}

namespace State

/-- Closing statements leaves fewer open. -/
theorem greatestOpen_exits (state : State) (closing : Option Nat) (count : Nat)
    (rest : List Event) (inner : List Frame) :
    Event.greatestOpen (inner.length + count) (inner.map (state.exitEvent closing) ++ rest) =
      max (inner.length + count) (Event.greatestOpen count rest) := by
  induction inner with
  | nil =>
    have hle := Event.le_greatestOpen count rest
    simp only [List.length_nil, List.map_nil, List.nil_append, Nat.zero_add]
    omega
  | cons frame inner ih =>
    have hcount : inner.length + 1 + count - 1 = inner.length + count := by omega
    rw [List.map_cons, List.cons_append, exitEvent, Event.greatestOpen, List.length_cons, hcount,
      ih]
    omega

theorem greatestOpen_closeDownTo (state : State) (depth : Nat) (closing : Option Nat)
    (rest : List Event) :
    Event.greatestOpen state.statements.length ((state.closeDownTo depth closing).2 ++ rest) =
      max state.statements.length
        (Event.greatestOpen (state.closeDownTo depth closing).1.statements.length rest) := by
  have hsplit := congrArg List.length (List.takeWhile_append_dropWhile
    (p := fun frame : Frame => depth ≤ frame.depth) (l := state.statements))
  rw [List.length_append] at hsplit
  have hexits := state.greatestOpen_exits closing
    (state.statements.dropWhile (depth ≤ ·.depth)).length rest
    (state.statements.takeWhile (depth ≤ ·.depth))
  rw [hsplit] at hexits
  rw [statements_closeDownTo]
  exact hexits

theorem greatestOpen_opening (state : State) (kind : StatementKind) (line : Nat)
    (before : Option Token) (awaitsQuery : Bool) (rest : List Event) :
    Event.greatestOpen state.statements.length
        ((opening state kind line before awaitsQuery).2 ++ rest) =
      max state.statements.length
        (Event.greatestOpen (opening state kind line before awaitsQuery).1.statements.length
          rest) := by
  unfold opening
  split <;> rfl

theorem length_foundQuery (state : State) :
    state.foundQuery.statements.length = state.statements.length := by
  simpa using congrArg List.length state.settled_foundQuery

/-- **The events of a token open as many statements as it leaves open, or as were open before.** -/
theorem greatestOpen_acts (hacts : Acts state before token after next events) (rest : List Event) :
    Event.greatestOpen state.statements.length (events ++ rest) =
      max state.statements.length (Event.greatestOpen next.statements.length rest) := by
  have hle := Event.le_greatestOpen state.statements.length rest
  cases hacts with
  | keeps | opensParen => exact (Nat.max_eq_right hle).symm
  | findsQuery =>
    rw [length_foundQuery]
    exact (Nat.max_eq_right hle).symm
  | closesParen => exact state.greatestOpen_closeDownTo _ _ rest
  | ends | endsAll => exact state.greatestOpen_closeDownTo _ _ rest
  | opens => exact greatestOpen_opening _ _ _ _ _ rest
  | restarts =>
    have hfewer := (state.sublist_closeDownTo state.depth none).length_le
    rw [List.append_assoc, greatestOpen_closeDownTo, greatestOpen_opening]
    omega

theorem greatestOpen_step (hstep : Scan.step state before token after = .ok (next, events))
    (rest : List Event) :
    Event.greatestOpen state.statements.length (events ++ rest) =
      max state.statements.length (Event.greatestOpen next.statements.length rest) := by
  obtain ⟨reached, hacts, rfl⟩ := acts_of_step hstep
  have hopen := greatestOpen_acts hacts rest
  exact hopen

/-- **At no place of a run are more statements open than its parentheses allow.** -/
theorem Paired.greatestOpen_run (h : state.Paired) (hstacked : state.Stacked before)
    (hrun : Scan.run state before tokens = .ok (final, events)) (rest : List Event) :
    Event.greatestOpen state.statements.length (events ++ rest) ≤
      max (2 * (deepest state.depth before tokens + 1))
        (Event.greatestOpen final.statements.length rest) := by
  induction tokens generalizing state before events with
  | nil =>
    cases hrun
    exact Nat.le_max_right _ _
  | cons token after ih =>
    obtain ⟨next, told, more, hstep, hafter, rfl⟩ := run_cons_eq_ok.mp hrun
    have hmore := ih (h.step hstacked hstep) (hstacked.step hstep) hafter
    have hopen := h.length_le hstacked.toNested
    rw [List.append_assoc, greatestOpen_step hstep, deepest, ← depth_of_step hstep]
    omega

end State

end Scan

/-- The nesting of statements is bounded by the nesting of parentheses. -/
theorem Event.greatestOpen_ofTokens {tokens : List Token} {events : List Event}
    (h : Event.ofTokens tokens = .ok events) :
    Event.greatestOpen 0 events ≤ 2 * (Scan.deepest 0 none tokens + 1) := by
  obtain ⟨final, told, hrun, rfl⟩ := Event.ofTokens_eq_ok h
  have hpaired : ({} : Scan.State).Paired := .nil
  have htold := hpaired.greatestOpen_run Scan.State.stacked_initial hrun
    (final.closeDownTo 0 none).2
  -- what the end of the text closes was open at the end of the run
  have hexits := final.greatestOpen_closeDownTo 0 none []
  rw [List.append_nil, Scan.statements_closeDownTo_zero, List.length_nil, Event.greatestOpen,
    Nat.max_zero] at hexits
  rw [← Scan.runUpTo_nil] at hrun
  have hfinal := Scan.State.arranged_of_runUpTo hrun
  have hopen := hfinal.paired.length_le hfinal.toNested
  have hdepth := Scan.depth_le_deepest hrun
  rw [List.append_nil] at hdepth
  simp only [List.length_nil] at htold hdepth
  omega

/-! ## Scans of tokens -/

namespace Tree.Draft

/-- The kinds of the open statements, the innermost first. -/
def openKinds (draft : Draft) : List (Option StatementKind) :=
  draft.pending.map fun id => draft.nodes[id]?.map Node.kind

theorem PendingInside.openKinds_eq {draft : Draft} (h : draft.PendingInside) :
    draft.openKinds = draft.opened.map fun opening => some opening.kind := by
  unfold openKinds opened
  unfold PendingInside at h
  generalize draft.pending = ids at h
  induction ids with
  | nil => rfl
  | cons id rest ih =>
    have hid : id < draft.nodes.length := h id List.mem_cons_self
    have hnode := List.getElem?_eq_getElem hid
    rw [List.map_cons, List.filterMap_cons_some (openingAt_eq hnode), List.map_cons, hnode,
      ih fun other hother => h other (List.mem_cons_of_mem _ hother)]
    rfl

end Tree.Draft

namespace Scan

variable {state : State} {tokens : List Token} {events : List Event}

/-- The kinds of the open statements are those of the openings. -/
theorem State.Matches.map_kind {opened : List Event.Opening} (h : state.Matches opened) :
    (opened.map fun opening => some opening.kind) =
      state.statements.map fun frame => some frame.kind := by
  unfold State.Matches at h
  generalize state.statements = frames at h
  induction h with
  | nil => rfl
  | cons hframe _ ih => rw [List.map_cons, List.map_cons, ih, hframe.1]

/-- **A draft takes the events of a scan so far, and has the statements of the scan open.** -/
theorem exists_draft_of_runUpTo {ahead : List Token} (hlines : Token.InOrder tokens)
    (hrun : runUpTo ahead {} none tokens = .ok (state, events)) :
    ∃ draft, Tree.Draft.empty.acceptAll events = .ok draft ∧
      draft.openKinds = state.statements.map fun frame => some frame.kind := by
  obtain ⟨opened, htrack, hmatches⟩ :=
    State.matches_initial.runUpTo State.stacked_initial hlines hrun
  have hempty : Tree.Draft.empty.PendingInside := fun _ hid => absurd hid List.not_mem_nil
  obtain ⟨draft, haccept, hinside, rfl⟩ := Tree.Draft.exists_acceptAll hempty htrack
  exact ⟨draft, haccept, by rw [hinside.openKinds_eq, hmatches.map_kind]⟩

/-- **What is open at the places of a list of tokens.** At each place the open statements are
arranged, the current one is the innermost of its depth, and of one depth there are at most two; up
to a place on lines in order they are those that a draft has open. So the levels of the outline are
no more than twice the depths up to the greatest one, which some place has. -/
theorem arranged_of_tokens (tokens : List Token) :
    (∀ front back state events, front ++ back = tokens →
      runUpTo back {} none front = .ok (state, events) →
        state.Arranged ∧
        state.current = state.statements.find? (·.depth = state.depth) ∧
        (∀ depth, state.statements.countP (·.depth = depth) ≤ 2) ∧
        state.depth ≤ deepest 0 none tokens ∧
        (Token.InOrder front → ∃ draft, Tree.Draft.empty.acceptAll events = .ok draft ∧
          draft.openKinds = state.statements.map fun frame => some frame.kind)) ∧
    ∀ events tree, Event.ofTokens tokens = .ok events → Tree.ofEvents events = .ok tree →
      (∃ front back state events, front ++ back = tokens ∧
        runUpTo back {} none front = .ok (state, events) ∧
        state.depth = deepest 0 none tokens) ∧
      tree.outline.height ≤ 2 * (deepest 0 none tokens + 1) := by
  constructor
  · rintro front back state events rfl hrun
    have harranged := State.arranged_of_runUpTo hrun
    exact ⟨harranged, harranged.toNested.current_eq_find?, harranged.paired.countP_depth_le,
      depth_le_deepest hrun, fun hlines => exists_draft_of_runUpTo hlines hrun⟩
  · intro events tree hevents htree
    obtain ⟨final, told, hrun, -⟩ := Event.ofTokens_eq_ok hevents
    rw [Tree.height_outline_eq htree]
    exact ⟨exists_depth_eq_deepest hrun, Event.greatestOpen_ofTokens hevents⟩

/-- An `INSERT` with its query, and both once more in parentheses, are as high as the bound. -/
theorem arranged_of_tokens_two_inserts :
    ∃ tokens state events tree,
      Token.ofText "INSERT SELECT (INSERT SELECT" = .ok tokens ∧ tokens ++ [] = tokens ∧
      runUpTo [] {} none tokens = .ok (state, events) ∧ state.Arranged ∧
      state.statements = [⟨.select, 1, false, false⟩, ⟨.insert, 1, true, false⟩,
        ⟨.select, 0, false, false⟩, ⟨.insert, 0, false, false⟩] ∧
      (∃ draft, Tree.Draft.empty.acceptAll events = .ok draft ∧
        draft.openKinds = [some .select, some .insert, some .select, some .insert]) ∧
      FrontEnd.dml.parse "INSERT SELECT (INSERT SELECT" = .ok tree ∧
      tree.outline.height ≤ 2 * (deepest 0 none tokens + 1) ∧
      tree.outline.height = 4 ∧ deepest 0 none tokens = 1 := by
  have htext : Token.ofText "INSERT SELECT (INSERT SELECT" = .ok [⟨.word, "INSERT", 1⟩,
    ⟨.word, "SELECT", 1⟩, ⟨.openParen, "(", 1⟩, ⟨.word, "INSERT", 1⟩, ⟨.word, "SELECT", 1⟩] := rfl
  have hrun : runUpTo [] {} none [⟨.word, "INSERT", 1⟩, ⟨.word, "SELECT", 1⟩, ⟨.openParen, "(", 1⟩,
      ⟨.word, "INSERT", 1⟩, ⟨.word, "SELECT", 1⟩] =
      .ok (⟨[⟨.select, 1, false, false⟩, ⟨.insert, 1, true, false⟩, ⟨.select, 0, false, false⟩,
        ⟨.insert, 0, false, false⟩], 1, 1⟩,
        [.enter .insert 1, .enter .select 1, .enter .insert 1, .enter .select 1]) := rfl
  have hparse : FrontEnd.dml.parse "INSERT SELECT (INSERT SELECT" = .ok ⟨[⟨.root, 0, 1, none, [1]⟩,
    ⟨.insert, 1, 1, some 0, [2]⟩, ⟨.select, 1, 1, some 1, [3]⟩, ⟨.insert, 1, 1, some 2, [4]⟩,
    ⟨.select, 1, 1, some 3, []⟩]⟩ := rfl
  obtain ⟨_, events, hscanned, hevents, htree⟩ := FrontEnd.parse_dml_eq_ok hparse
  rw [htext] at hscanned
  cases hscanned
  obtain ⟨hplaces, htrees⟩ := arranged_of_tokens _
  obtain ⟨harranged, -, -, -, hdraft⟩ := hplaces _ [] _ _ (List.append_nil _) hrun
  obtain ⟨-, hheight⟩ := htrees _ _ hevents htree
  have hlines := Token.readsInOrder_of_lineCount (by decide) _ htext
  exact ⟨_, _, _, _, htext, List.append_nil _, hrun, harranged, rfl, hdraft hlines, hparse, hheight,
    rfl, rfl⟩

end Scan

end DmlOutline
