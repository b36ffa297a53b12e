import DmlOutline.Proofs.LineOrder
import DmlOutline.Proofs.TokenLines
import DmlOutline.Scan
import Mathlib.Data.List.Forall2
import Mathlib.Data.List.TakeWhile

/-!
# The open statements of a scan

The open statements of a scan are ordered by depth, and the events that it tells enter and leave
them as a walk should.

* `Scan.Acts` — all that one token can do.
* `State.Stacked` — the order of the open statements, kept by every token.
* `State.Matches` — the open statements are the openings of the events so far.

Principal results: `Stacked.step` — the order is kept; `Stacked.between_acts` — events are in order
and on lines that were met; `Matches.acts` — events fit what is open.
-/

namespace DmlOutline

namespace Scan

variable {state next : State} {before : Option Token} {token : Token} {after : List Token}
  {events : List Event}

/-! ## What one token can do -/

/-- All that a token can do to the open statements, with the events that it tells. -/
inductive Acts (state : State) (before : Option Token) (token : Token) (after : List Token) :
    State → List Event → Prop where
  | keeps (notOpen : token.kind ≠ .openParen) (notClose : token.kind ≠ .closeParen)
    (hslash : isLoneSlash before token after = false) : Acts state before token after state []
  | opensParen (hkind : token.kind = .openParen) :
    Acts state before token after { state with depth := state.depth + 1 } []
  | closesParen (hkind : token.kind = .closeParen) (hdepth : state.depth ≠ 0) :
    Acts state before token after
      { (state.closeDownTo state.depth (some token.line)).1 with depth := state.depth - 1 }
      (state.closeDownTo state.depth (some token.line)).2
  | ends (hkind : token.kind = .semicolon) :
    Acts state before token after (state.closeDownTo state.depth none).1
      (state.closeDownTo state.depth none).2
  | endsAll (hkind : token.kind = .symbol) (hslash : isLoneSlash before token after = true) :
    Acts state before token after { (state.closeDownTo 0 none).1 with depth := 0 }
      (state.closeDownTo 0 none).2
  | findsQuery (hkind : token.kind = .word) : Acts state before token after state.foundQuery []
  | opens {kind : StatementKind} {awaitsQuery : Bool} (hkind : token.kind = .word)
    (notRoot : kind ≠ .root) (hrole : role state kind token.line before = .opens) :
    Acts state before token after (opening state kind token.line before awaitsQuery).1
      (opening state kind token.line before awaitsQuery).2
  | restarts {kind : StatementKind} {awaitsQuery : Bool} (hkind : token.kind = .word)
    (notRoot : kind ≠ .root) (hrole : role state kind token.line before = .restarts) :
    Acts state before token after
      (opening (state.closeDownTo state.depth none).1 kind token.line before awaitsQuery).1
      ((state.closeDownTo state.depth none).2
        ++ (opening (state.closeDownTo state.depth none).1 kind token.line before awaitsQuery).2)

theorem isLoneSlash_eq_false (h : token.kind ≠ .symbol) :
    isLoneSlash before token after = false := by
  simp [isLoneSlash, Token.isSymbol, h]

/-- A keyword begins a statement of a kind that can be entered. -/
theorem keywordKind?_ne_root {kind : StatementKind} {awaitsQuery : Bool}
    (h : keywordKind? token after = some (kind, awaitsQuery)) : kind ≠ .root := by
  rintro rfl
  unfold keywordKind? at h
  split at h
  · rename_i kind hkind
    cases h
    exact StatementKind.ofKeyword?_ne_root _ hkind
  · split at h <;> cases h

theorem acts_of_word (hkind : token.kind = .word) : Acts state before token after state [] := by
  have notSymbol : token.kind ≠ .symbol := by rw [hkind]; decide
  exact .keeps (by rw [hkind]; decide) (by rw [hkind]; decide) (isLoneSlash_eq_false notSymbol)

/-- A keyword does what its role is. -/
theorem acts_of_keyword {kind : StatementKind} {awaitsQuery : Bool} (hkind : token.kind = .word)
    (notRoot : kind ≠ .root) :
    Acts state before token after (keyword state kind token.line before awaitsQuery).1
      (keyword state kind token.line before awaitsQuery).2 := by
  unfold keyword
  cases hrole : role state kind token.line before with
  | clause => exact acts_of_word hkind
  | withBody => exact .findsQuery hkind
  | opens => exact .opens hkind notRoot hrole
  | restarts => exact .restarts hkind notRoot hrole

/-- **A token that is no stray parenthesis does one of these.** -/
theorem acts_of_act (h : act state before token after = .ok (next, events)) :
    Acts state before token after next events := by
  unfold act at h
  split at h
  · rename_i hkind
    cases h
    exact .opensParen hkind
  · rename_i hkind
    split at h
    · cases h
    · rename_i hdepth
      cases h
      exact .closesParen hkind hdepth
  · rename_i hkind
    cases h
    exact .ends hkind
  · rename_i hkind
    split at h
    · rename_i hslash
      cases h
      exact .endsAll hkind hslash
    · rename_i hslash
      cases h
      exact .keeps (by rw [hkind]; decide) (by rw [hkind]; decide) (by simpa using hslash)
  · rename_i hkind
    split at h
    · rename_i kind awaitsQuery hkeyword
      obtain ⟨rfl, rfl⟩ := Prod.ext_iff.mp (Except.ok.inj h)
      exact acts_of_keyword hkind (keywordKind?_ne_root hkeyword)
    · cases h
      exact acts_of_word hkind
  · rename_i notOpen notClose _ notSymbol _
    cases h
    exact .keeps notOpen notClose (isLoneSlash_eq_false notSymbol)

/-- A step is what the token does, and its line. -/
theorem acts_of_step (h : step state before token after = .ok (next, events)) :
    ∃ reached, Acts state before token after reached events ∧
      next = { reached with lastLine := token.line } := by
  unfold step at h
  cases hact : act state before token after with
  | error error => rw [hact] at h; cases h
  | ok result =>
    obtain ⟨reached, told⟩ := result
    rw [hact] at h
    cases h
    exact ⟨reached, acts_of_act hact, rfl⟩

/-! ## The order of the open statements -/

namespace State

/-- No open statement is deeper than the place, and none is deeper than a statement inside it. A
statement that ends with a parenthesis is deeper than all that are around it. -/
structure Nested (state : State) : Prop where
  within : ∀ frame ∈ state.statements, frame.depth ≤ state.depth
  inOrder : state.statements.Pairwise fun inner outer =>
    outer.depth ≤ inner.depth ∧ (inner.parenthesized = true → outer.depth < inner.depth)

/-- The order of the open statements after a token. -/
structure Stacked (state : State) (before : Option Token) : Prop extends Nested state where
  /-- Right after an opening parenthesis, all open statements are outside it. -/
  afterParen : ∀ paren ∈ before, paren.kind = .openParen →
    ∀ frame ∈ state.statements, frame.depth < state.depth
  lastLine_eq : state.lastLine = (before.map Token.line).getD 0
  /-- Nothing is open before the first token. -/
  started : before = none → state.statements = []

theorem stacked_initial : ({} : State).Stacked none where
  within _ h := by cases h
  inOrder := .nil
  afterParen _ h := by cases h
  lastLine_eq := rfl
  started _ := rfl

/-- The statements that stay open are the outer ones. -/
theorem statements_closeDownTo (state : State) (depth : Nat) (closing : Option Nat) :
    (state.closeDownTo depth closing).1.statements =
      state.statements.dropWhile (depth ≤ ·.depth) := by
  have hsplit := List.takeWhile_append_dropWhile (p := fun frame : Frame => depth ≤ frame.depth)
    (l := state.statements)
  have hdrop := @List.drop_left _ (state.statements.takeWhile (depth ≤ ·.depth))
    (state.statements.dropWhile (depth ≤ ·.depth))
  rw [hsplit] at hdrop
  exact hdrop

@[simp]
theorem depth_closeDownTo (state : State) (depth : Nat) (closing : Option Nat) :
    (state.closeDownTo depth closing).1.depth = state.depth := rfl

@[simp]
theorem lastLine_closeDownTo (state : State) (depth : Nat) (closing : Option Nat) :
    (state.closeDownTo depth closing).1.lastLine = state.lastLine := rfl

@[simp]
theorem lastLine_foundQuery (state : State) : state.foundQuery.lastLine = state.lastLine := by
  unfold foundQuery
  split <;> rfl

@[simp]
theorem depth_foundQuery (state : State) : state.foundQuery.depth = state.depth := by
  unfold foundQuery
  split <;> rfl

theorem sublist_closeDownTo (state : State) (depth : Nat) (closing : Option Nat) :
    (state.closeDownTo depth closing).1.statements.Sublist state.statements :=
  List.drop_sublist _ _

namespace Nested

theorem closeDownTo (h : state.Nested) (depth : Nat) (closing : Option Nat) :
    (state.closeDownTo depth closing).1.Nested where
  within frame hframe := h.within frame ((state.sublist_closeDownTo depth closing).mem hframe)
  inOrder := h.inOrder.sublist (state.sublist_closeDownTo depth closing)

/-- What stays open is less deep than what was closed. -/
theorem lt_of_mem_closeDownTo (h : state.Nested) {depth : Nat} (closing : Option Nat)
    {frame : Frame} (hframe : frame ∈ (state.closeDownTo depth closing).1.statements) :
    frame.depth < depth := by
  rw [statements_closeDownTo] at hframe
  have hkept := (h.closeDownTo depth closing).inOrder
  rw [statements_closeDownTo] at hkept
  cases hrest : state.statements.dropWhile (depth ≤ ·.depth) with
  | nil => rw [hrest] at hframe; cases hframe
  | cons head outer =>
    have hhead : ¬depth ≤ head.depth := by
      have hfirst := List.head?_dropWhile_not (fun frame : Frame => depth ≤ frame.depth)
        state.statements
      rw [hrest] at hfirst
      simpa using hfirst
    rw [hrest] at hframe hkept
    rcases List.mem_cons.mp hframe with rfl | houter
    · omega
    · have := (List.rel_of_pairwise_cons hkept houter).1
      omega

theorem foundQuery (h : state.Nested) : state.foundQuery.Nested := by
  unfold State.foundQuery
  split
  · exact h
  · rename_i frame outer hstatements
    have hwithin := h.within
    have hinOrder := h.inOrder
    rw [hstatements] at hwithin hinOrder
    rw [List.pairwise_cons] at hinOrder
    refine ⟨fun other hother => ?_, List.pairwise_cons.mpr hinOrder⟩
    rcases List.mem_cons.mp hother with rfl | houter
    · exact hwithin frame List.mem_cons_self
    · exact hwithin other (List.mem_cons_of_mem _ houter)

theorem enter (h : state.Nested) (kind : StatementKind) (parenthesized awaitsQuery : Bool)
    (hparen : parenthesized = true → ∀ frame ∈ state.statements, frame.depth < state.depth) :
    (state.enter kind parenthesized awaitsQuery).Nested where
  within frame hframe := by
    rcases List.mem_cons.mp hframe with rfl | houter
    · exact Nat.le_refl _
    · exact h.within frame houter
  inOrder := List.pairwise_cons.mpr
    ⟨fun outer houter => ⟨h.within outer houter, fun hopen => hparen hopen outer houter⟩, h.inOrder⟩

theorem opening (h : state.Nested) (kind : StatementKind) (line : Nat) (awaitsQuery : Bool)
    (hparen : ∀ paren ∈ before, paren.kind = .openParen →
      ∀ frame ∈ state.statements, frame.depth < state.depth) :
    (Scan.opening state kind line before awaitsQuery).1.Nested := by
  unfold Scan.opening
  split
  · rename_i paren hfilter
    obtain ⟨hbefore, hkind⟩ := Option.filter_eq_some_iff.mp hfilter
    exact h.enter kind true awaitsQuery fun _ => hparen paren hbefore (by simpa using hkind)
  · exact h.enter kind false awaitsQuery fun hfalse => by cases hfalse

end Nested

/-- Right after an opening parenthesis all open statements are outside it. -/
theorem Nested.lt_of_openParen (h : state.Nested)
    (hacts : Acts state before token after next events) (hkind : token.kind = .openParen) :
    ∀ frame ∈ next.statements, frame.depth < next.depth := by
  intro frame hframe
  cases hacts with
  | opensParen => exact Nat.lt_succ_of_le (h.within frame hframe)
  | keeps notOpen => exact absurd hkind notOpen
  | closesParen hother | ends hother | endsAll hother | findsQuery hother | opens hother
  | restarts hother =>
    rw [hkind] at hother
    cases hother

/-- **Every token keeps the order of the open statements.** -/
theorem Stacked.acts (h : state.Stacked before)
    (hacts : Acts state before token after next events) : next.Nested := by
  cases hacts with
  | keeps => exact h.toNested
  | opensParen =>
    refine ⟨?_, h.inOrder⟩
    intro frame hframe
    exact Nat.le_succ_of_le (h.within frame hframe)
  | closesParen =>
    refine ⟨?_, (h.closeDownTo state.depth (some token.line)).inOrder⟩
    intro frame hframe
    exact Nat.le_sub_one_of_lt (h.lt_of_mem_closeDownTo (some token.line) hframe)
  | ends => exact h.closeDownTo _ _
  | endsAll =>
    refine ⟨?_, (h.closeDownTo 0 none).inOrder⟩
    intro frame hframe
    exact Nat.le_of_lt (h.lt_of_mem_closeDownTo none hframe)
  | findsQuery => exact h.foundQuery
  | opens => exact h.opening _ _ _ h.afterParen
  | restarts =>
    refine (h.closeDownTo _ _).opening _ _ _ ?_
    intro _ _ _ frame hframe
    exact h.lt_of_mem_closeDownTo none hframe

theorem Stacked.step (h : state.Stacked before)
    (hstep : Scan.step state before token after = .ok (next, events)) :
    next.Stacked (some token) := by
  obtain ⟨reached, hacts, rfl⟩ := acts_of_step hstep
  have hnested := h.acts hacts
  have hparen := h.lt_of_openParen hacts
  refine ⟨⟨hnested.within, hnested.inOrder⟩, fun paren hpresent hkind => ?_, rfl, fun hnone => ?_⟩
  · cases hpresent
    exact hparen hkind
  · cases hnone

end State

/-! ## The lines of the events -/

/-- A token that may follow another one. -/
structure Follows (before : Option Token) (token : Token) : Prop where
  one_le : 1 ≤ token.line
  one_le_before : ∀ earlier ∈ before, 1 ≤ earlier.line
  le_line : ∀ earlier ∈ before, earlier.line ≤ token.line

theorem follows_of_inOrder (h : Token.InOrder (before.toList ++ token :: after)) :
    Follows before token where
  one_le := h.one_le token (List.mem_append_right _ List.mem_cons_self)
  one_le_before earlier hmem :=
    h.one_le earlier (List.mem_append_left _ (Option.mem_toList.mpr hmem))
  le_line earlier hmem :=
    (List.pairwise_append.mp h.inOrder).2.2 earlier (Option.mem_toList.mpr hmem) token
      List.mem_cons_self

theorem inOrder_rest (h : Token.InOrder (before.toList ++ token :: after)) :
    Token.InOrder ((some token).toList ++ after) := by
  cases before with
  | none => exact h
  | some earlier => exact h.tail

namespace State

variable {first last : Nat}

theorem Stacked.lastLine_le (h : state.Stacked before) (hfollows : Follows before token) :
    state.lastLine ≤ token.line := by
  rw [h.lastLine_eq]
  cases before with
  | none => exact Nat.zero_le _
  | some earlier => exact hfollows.le_line earlier rfl

/-- What is open was opened by a token, which was on a line. -/
theorem Stacked.one_le_lastLine (h : state.Stacked before)
    (hbefore : ∀ earlier ∈ before, 1 ≤ earlier.line) (hopen : state.statements ≠ []) :
    1 ≤ state.lastLine := by
  cases before with
  | none => exact absurd (h.started rfl) hopen
  | some earlier =>
    rw [h.lastLine_eq]
    exact hbefore earlier rfl

theorem line_exitEvent_none (state : State) (frame : Frame) :
    (state.exitEvent none frame).line = state.lastLine := by
  rw [exitEvent, Event.line, Option.getD_none, ite_self]

/-- Without a parenthesis all statements are closed on the line of the last token. -/
theorem between_closeDownTo_none (depth : Nat)
    (hfirst : state.statements ≠ [] → first ≤ state.lastLine) (hlast : state.lastLine ≤ last) :
    Event.Between first last (state.closeDownTo depth none).2 where
  inOrder := by
    refine List.pairwise_map.mpr (List.pairwise_of_forall fun a b => ?_)
    rw [line_exitEvent_none, line_exitEvent_none]
  first_le event hmem := by
    obtain ⟨frame, hframe, rfl⟩ := List.mem_map.mp hmem
    rw [line_exitEvent_none]
    exact hfirst (List.ne_nil_of_mem (List.takeWhile_subset _ hframe))
  le_last event hmem := by
    obtain ⟨frame, hframe, rfl⟩ := List.mem_map.mp hmem
    rw [line_exitEvent_none]
    exact hlast

theorem le_line_exitEvent {line : Nat} (hline : state.lastLine ≤ line) (frame : Frame) :
    state.lastLine ≤ (state.exitEvent (some line) frame).line ∧
      (state.exitEvent (some line) frame).line ≤ line := by
  rw [exitEvent, Event.line, Option.getD_some]
  split
  · exact ⟨hline, Nat.le_refl _⟩
  · exact ⟨Nat.le_refl _, hline⟩

/-- A closing parenthesis closes the statements inside it, and the one that ends with it last. -/
theorem Nested.between_closeDownTo (h : state.Nested) {line : Nat}
    (hfirst : state.statements ≠ [] → first ≤ state.lastLine) (hline : state.lastLine ≤ line) :
    Event.Between first line (state.closeDownTo state.depth (some line)).2 where
  inOrder := by
    have hinner := h.inOrder.sublist (List.takeWhile_sublist (state.depth ≤ ·.depth))
    refine List.pairwise_map.mpr (hinner.imp_of_mem fun {inner outer} hi ho hpair => ?_)
    have hle := h.within inner (List.takeWhile_subset _ hi)
    have hge : state.depth ≤ outer.depth := by simpa using List.mem_takeWhile_imp ho
    have hopen : inner.parenthesized ≠ true := fun hparen => by
      have := hpair.2 hparen
      omega
    rw [exitEvent, Event.line, if_neg hopen]
    exact (le_line_exitEvent hline outer).1
  first_le event hmem := by
    obtain ⟨frame, hframe, rfl⟩ := List.mem_map.mp hmem
    have hsome := hfirst (List.ne_nil_of_mem (List.takeWhile_subset _ hframe))
    have hexit := (le_line_exitEvent hline frame).1
    omega
  le_last event hmem := by
    obtain ⟨frame, hframe, rfl⟩ := List.mem_map.mp hmem
    exact (le_line_exitEvent hline frame).2

/-- A statement begins on the line of its keyword or of the parenthesis right before it. -/
theorem Stacked.between_opening (h : state.Stacked before) (hfollows : Follows before token)
    {current : State} (kind : StatementKind) (awaitsQuery : Bool) :
    Event.Between (max 1 state.lastLine) token.line
      (opening current kind token.line before awaitsQuery).2 := by
  have hle := h.lastLine_le hfollows
  have hone := hfollows.one_le
  unfold opening
  split
  · rename_i paren hfilter
    obtain ⟨hbefore, -⟩ := Option.filter_eq_some_iff.mp hfilter
    have hparen := hfollows.one_le_before paren hbefore
    have hline := h.lastLine_eq
    rw [hbefore, Option.map_some, Option.getD_some] at hline
    refine .single ?_ (hfollows.le_line paren hbefore)
    change max 1 state.lastLine ≤ paren.line
    omega
  · refine .single ?_ (Nat.le_refl _)
    change max 1 state.lastLine ≤ token.line
    omega

/-- **Every token tells events on lines from the one of the token before to its own, in order.** -/
theorem Stacked.between_acts (h : state.Stacked before) (hfollows : Follows before token)
    (hacts : Acts state before token after next events) :
    Event.Between (max 1 state.lastLine) token.line events := by
  have hle := h.lastLine_le hfollows
  have hone := hfollows.one_le
  have hopen : state.statements ≠ [] → max 1 state.lastLine ≤ state.lastLine := fun hopen => by
    have := h.one_le_lastLine hfollows.one_le_before hopen
    omega
  cases hacts with
  | keeps | opensParen | findsQuery => exact .nil _ _
  | closesParen => exact h.between_closeDownTo hopen hle
  | ends | endsAll => exact between_closeDownTo_none _ hopen hle
  | opens => exact h.between_opening hfollows _ _
  | restarts =>
    have hexits := between_closeDownTo_none state.depth hopen (Nat.le_max_right 1 state.lastLine)
    exact hexits.append (h.between_opening hfollows _ _) (Nat.le_refl _) (by omega)

end State

/-! ## The openings of the events -/

namespace State

variable {opened : List Event.Opening}

/-- The openings of the open statements, none of them after the line of the last token. -/
def Matches (state : State) (opened : List Event.Opening) : Prop :=
  List.Forall₂ (fun frame opening => opening.kind = frame.kind ∧ opening.line ≤ state.lastLine)
    state.statements opened

theorem matches_initial : ({} : State).Matches [] := .nil

theorem Matches.noted (h : state.Matches opened) {line : Nat} (hline : state.lastLine ≤ line) :
    { state with lastLine := line }.Matches opened :=
  h.imp fun _ _ hframe => ⟨hframe.1, Nat.le_trans hframe.2 hline⟩

/-- The exits of open statements fit their openings. -/
theorem trackAll_exits {closing : Option Nat} (hclosing : ∀ line ∈ closing, state.lastLine ≤ line)
    {inner outer : List Frame}
    (h : List.Forall₂ (fun frame opening => opening.kind = frame.kind ∧
      opening.line ≤ state.lastLine) (inner ++ outer) opened) :
    ∃ left, Event.trackAll opened (inner.map (state.exitEvent closing)) = some left ∧
      List.Forall₂ (fun frame opening => opening.kind = frame.kind ∧
        opening.line ≤ state.lastLine) outer left := by
  induction inner generalizing opened with
  | nil => exact ⟨opened, rfl, h⟩
  | cons frame rest ih =>
    cases h with
    | @cons _ opening _ others hframe hothers =>
      obtain ⟨hkind, hline⟩ := hframe
      obtain ⟨left, hleft, houter⟩ := ih hothers
      refine ⟨left, ?_, houter⟩
      have hexit : opening.line ≤ (state.exitEvent closing frame).line := by
        refine Nat.le_trans hline ?_
        cases closing with
        | none => rw [line_exitEvent_none]
        | some line => exact (le_line_exitEvent (hclosing line rfl) frame).1
      have htrack : (state.exitEvent closing frame).track (opening :: others) = some others := by
        rw [exitEvent, ← hkind]
        exact Event.track_exit hexit others
      rw [List.map_cons, Event.trackAll, htrack, Option.bind_some]
      exact hleft

/-- Closing statements leaves their openings. -/
theorem Matches.closeDownTo (h : state.Matches opened) (depth : Nat) (closing : Option Nat)
    (hclosing : ∀ line ∈ closing, state.lastLine ≤ line) :
    ∃ left, Event.trackAll opened (state.closeDownTo depth closing).2 = some left ∧
      (state.closeDownTo depth closing).1.Matches left := by
  refine trackAll_exits hclosing ?_
  rw [statements_closeDownTo, List.takeWhile_append_dropWhile]
  exact h

/-- Opening a statement adds its opening. -/
theorem Matches.opening (h : state.Matches opened) {kind : StatementKind} (notRoot : kind ≠ .root)
    (hle : state.lastLine ≤ token.line) (hbefore : ∀ earlier ∈ before, earlier.line ≤ token.line)
    (awaitsQuery : Bool) :
    ∃ left,
      Event.trackAll opened (Scan.opening state kind token.line before awaitsQuery).2 = some left ∧
      { (Scan.opening state kind token.line before awaitsQuery).1 with
        lastLine := token.line }.Matches left := by
  unfold Scan.opening
  split
  · rename_i paren hfilter
    obtain ⟨hparen, -⟩ := Option.filter_eq_some_iff.mp hfilter
    refine ⟨⟨kind, paren.line⟩ :: opened, ?_, .cons ⟨rfl, hbefore paren hparen⟩ (h.noted hle)⟩
    rw [Event.trackAll, Event.track_enter notRoot, Option.bind_some, Event.trackAll]
  · refine ⟨⟨kind, token.line⟩ :: opened, ?_, .cons ⟨rfl, Nat.le_refl _⟩ (h.noted hle)⟩
    rw [Event.trackAll, Event.track_enter notRoot, Option.bind_some, Event.trackAll]

theorem Matches.foundQuery (h : state.Matches opened) : state.foundQuery.Matches opened := by
  unfold State.foundQuery
  split
  · exact h
  · rename_i frame outer hstatements
    unfold Matches at h
    rw [hstatements] at h
    cases h with
    | cons hframe hothers => exact .cons hframe hothers

/-- **The events of every token fit the openings of the open statements.** -/
theorem Matches.acts (h : state.Matches opened) (hle : state.lastLine ≤ token.line)
    (hbefore : ∀ earlier ∈ before, earlier.line ≤ token.line)
    (hacts : Acts state before token after next events) :
    ∃ left, Event.trackAll opened events = some left ∧
      { next with lastLine := token.line }.Matches left := by
  cases hacts with
  | keeps | opensParen => exact ⟨opened, rfl, h.noted hle⟩
  | findsQuery =>
    refine ⟨opened, rfl, h.foundQuery.noted ?_⟩
    rw [lastLine_foundQuery]
    exact hle
  | closesParen =>
    obtain ⟨left, hleft, hmatches⟩ := h.closeDownTo state.depth (some token.line)
      fun line hline => by cases hline; exact hle
    exact ⟨left, hleft, hmatches.noted hle⟩
  | ends | endsAll =>
    obtain ⟨left, hleft, hmatches⟩ := h.closeDownTo _ none fun _ hline => nomatch hline
    exact ⟨left, hleft, hmatches.noted hle⟩
  | opens _ notRoot => exact h.opening notRoot hle hbefore _
  | restarts _ notRoot =>
    obtain ⟨left, hleft, hmatches⟩ := h.closeDownTo state.depth none
      fun _ hline => nomatch hline
    obtain ⟨last, hlast, hopened⟩ := hmatches.opening notRoot hle hbefore _
    exact ⟨last, by rw [Event.trackAll_append_of_eq hleft, hlast], hopened⟩

end State

end Scan

end DmlOutline
