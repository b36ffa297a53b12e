import DmlOutline.FrontEnd
import DmlOutline.Proofs.ScanRuns

/-!
# Scans are complete walks

A scan over tokens fails at a closing parenthesis that meets no open one, and nowhere else. If there
is none, its events are a complete walk on lines in order, so that they always make a tree.

* `Scan.strayParen?` — the first closing parenthesis that meets no open one.

Principal results: `Scan.run_strayParen?`, `Scan.State.Stacked.between_run`,
`Scan.State.Matches.runUpTo`: what a run does; `FrontEnd.parse_dml_total`: what a text can fail with;
`FrontEnd.ordered_of_parse_dml`: the lines of the tree of a text.
-/

namespace DmlOutline

namespace Scan

variable {state next final : State} {before : Option Token} {token : Token}
  {after tokens : List Token} {events : List Event} {opened : List Event.Opening}

/-! ## Parentheses -/

/-- The number of open parentheses after a token; a slash alone on its line forgets them. -/
def depthAfter (depth : Nat) (before : Option Token) (token : Token) (after : List Token) : Nat :=
  match token.kind with
  | .openParen => depth + 1
  | .closeParen => depth - 1
  | _ => if isLoneSlash before token after then 0 else depth

/-- The first closing parenthesis that is met with no open one before it. -/
def strayParen? (depth : Nat) (before : Option Token) : List Token → Option Token
  | [] => none
  | token :: rest =>
    if token.kind = .closeParen ∧ depth = 0 then some token
    else strayParen? (depthAfter depth before token rest) (some token) rest

theorem kind_of_strayParen? {depth : Nat} (h : strayParen? depth before tokens = some token) :
    token ∈ tokens ∧ token.kind = .closeParen := by
  induction tokens generalizing depth before with
  | nil => cases h
  | cons head rest ih =>
    rw [strayParen?] at h
    split at h
    · rename_i hstray
      cases h
      exact ⟨List.mem_cons_self, hstray.1⟩
    · obtain ⟨hmem, hkind⟩ := ih h
      exact ⟨List.mem_cons_of_mem head hmem, hkind⟩

@[simp]
theorem depth_opening (state : State) (kind : StatementKind) (line : Nat) (before : Option Token)
    (awaitsQuery : Bool) : (opening state kind line before awaitsQuery).1.depth = state.depth := by
  unfold opening
  split <;> rfl

theorem depthAfter_opening (hkind : token.kind = .openParen) (depth : Nat) :
    depthAfter depth before token after = depth + 1 := by
  simp only [depthAfter, hkind]

theorem depthAfter_closing (hkind : token.kind = .closeParen) (depth : Nat) :
    depthAfter depth before token after = depth - 1 := by
  simp only [depthAfter, hkind]

theorem depthAfter_other (notOpen : token.kind ≠ .openParen) (notClose : token.kind ≠ .closeParen)
    (hslash : isLoneSlash before token after = false) (depth : Nat) :
    depthAfter depth before token after = depth := by
  unfold depthAfter
  split
  · rename_i hkind; exact absurd hkind notOpen
  · rename_i hkind; exact absurd hkind notClose
  · rw [hslash]; rfl

theorem depth_of_acts (h : Acts state before token after next events) :
    next.depth = depthAfter state.depth before token after := by
  have hword (hkind : token.kind = .word) :
      depthAfter state.depth before token after = state.depth :=
    depthAfter_other (by rw [hkind]; decide) (by rw [hkind]; decide)
      (isLoneSlash_eq_false (by rw [hkind]; decide)) _
  cases h with
  | keeps notOpen notClose hslash => exact (depthAfter_other notOpen notClose hslash _).symm
  | opensParen hkind => exact (depthAfter_opening hkind _).symm
  | closesParen hkind => exact (depthAfter_closing hkind _).symm
  | ends hkind =>
    exact (depthAfter_other (by rw [hkind]; decide) (by rw [hkind]; decide)
      (isLoneSlash_eq_false (by rw [hkind]; decide)) _).symm
  | endsAll hkind hslash => simp [depthAfter, hkind, hslash]
  | findsQuery hkind => rw [hword hkind, State.depth_foundQuery]
  | opens hkind => rw [hword hkind, depth_opening]
  | restarts hkind => rw [hword hkind, depth_opening, State.depth_closeDownTo]

theorem depth_of_step (h : step state before token after = .ok (next, events)) :
    next.depth = depthAfter state.depth before token after := by
  obtain ⟨reached, hacts, rfl⟩ := acts_of_step h
  have hdepth := depth_of_acts hacts
  exact hdepth

/-- A token fails just when it is a closing parenthesis that meets no open one. -/
theorem step_of_stray (hkind : token.kind = .closeParen) (hdepth : state.depth = 0) :
    step state before token after = .error (.parse token.line .unbalancedParenthesis) := by
  simp [step, act, hkind, hdepth, Except.map]

theorem exists_step (state : State) (before : Option Token) (after : List Token)
    (h : ¬(token.kind = .closeParen ∧ state.depth = 0)) :
    ∃ next events, step state before token after = .ok (next, events) ∧
      next.depth = depthAfter state.depth before token after := by
  have hact : ∃ result, act state before token after = .ok result := by
    unfold act
    split
    · exact ⟨_, rfl⟩
    · rename_i hkind
      rw [if_neg fun hdepth => h ⟨hkind, hdepth⟩]
      exact ⟨_, rfl⟩
    · exact ⟨_, rfl⟩
    · split <;> exact ⟨_, rfl⟩
    · split <;> exact ⟨_, rfl⟩
    · exact ⟨_, rfl⟩
  obtain ⟨⟨reached, events⟩, hact⟩ := hact
  have hdepth : reached.depth = depthAfter state.depth before token after :=
    depth_of_acts (acts_of_act hact)
  refine ⟨{ reached with lastLine := token.line }, events, ?_, hdepth⟩
  rw [step, hact]
  rfl

/-! ## Runs -/

/-- **A run fails at the first stray parenthesis, and only there.** -/
theorem run_strayParen? (state : State) (before : Option Token) (tokens : List Token) :
    match strayParen? state.depth before tokens with
    | some token => run state before tokens = .error (.parse token.line .unbalancedParenthesis)
    | none => ∃ final events, run state before tokens = .ok (final, events) := by
  induction tokens generalizing state before with
  | nil => exact ⟨state, [], rfl⟩
  | cons token rest ih =>
    by_cases hstray : token.kind = .closeParen ∧ state.depth = 0
    · rw [strayParen?, if_pos hstray]
      simp only [run, step_of_stray hstray.1 hstray.2]
    · obtain ⟨next, events, hstep, hdepth⟩ := exists_step state before rest hstray
      have hrest := ih next (some token)
      rw [hdepth] at hrest
      rw [strayParen?, if_neg hstray]
      cases hnext : strayParen? (depthAfter state.depth before token rest) (some token) rest with
      | some stray =>
        rw [hnext] at hrest
        simp only [run, hstep, hrest]
      | none =>
        rw [hnext] at hrest
        obtain ⟨final, more, hrun⟩ := hrest
        exact ⟨final, events ++ more, by simp only [run, hstep, hrun]⟩

namespace State

/-- **The events of a run are on lines in order,** none of them after the line of the last token. -/
theorem Stacked.between_run (h : state.Stacked before)
    (hlines : Token.InOrder (before.toList ++ tokens))
    (hrun : Scan.run state before tokens = .ok (final, events)) :
    state.lastLine ≤ final.lastLine ∧
      Event.Between (max 1 state.lastLine) final.lastLine events := by
  induction tokens generalizing state before events with
  | nil =>
    cases hrun
    exact ⟨Nat.le_refl _, .nil _ _⟩
  | cons token rest ih =>
    have hfollows := follows_of_inOrder hlines
    obtain ⟨next, told, more, hstep, hrun, rfl⟩ := run_cons_eq_ok.mp hrun
    have hnext := h.step hstep
    obtain ⟨reached, hacts, rfl⟩ := acts_of_step hstep
    have htold := h.between_acts hfollows hacts
    obtain ⟨hlater, hmore⟩ := ih hnext (inOrder_rest hlines) hrun
    refine ⟨Nat.le_trans (h.lastLine_le hfollows) hlater, ?_⟩
    rw [Nat.max_eq_right hfollows.one_le] at hmore
    exact htold.append hmore (Nat.max_le.mpr ⟨hfollows.one_le, h.lastLine_le hfollows⟩) hlater

/-- **The events of a run fit the openings of the open statements,** whatever tokens are ahead. -/
theorem Matches.runUpTo {ahead : List Token} (h : state.Matches opened)
    (hstacked : state.Stacked before) (hlines : Token.InOrder (before.toList ++ tokens))
    (hrun : Scan.runUpTo ahead state before tokens = .ok (final, events)) :
    ∃ left, Event.trackAll opened events = some left ∧ final.Matches left := by
  induction tokens generalizing state before opened events with
  | nil =>
    cases hrun
    exact ⟨opened, rfl, h⟩
  | cons token rest ih =>
    have hfollows := follows_of_inOrder hlines
    obtain ⟨next, told, more, hstep, hrun, rfl⟩ := runUpTo_cons_eq_ok.mp hrun
    have hnext := hstacked.step hstep
    obtain ⟨reached, hacts, rfl⟩ := acts_of_step hstep
    have hle := hstacked.lastLine_le hfollows
    obtain ⟨middle, hmiddle, hopened⟩ := h.acts hle hfollows.le_line hacts
    obtain ⟨left, hleft, hlast⟩ := ih hopened hnext (inOrder_rest hlines) hrun
    exact ⟨left, by rw [Event.trackAll_append_of_eq hmiddle, hleft], hlast⟩

theorem Matches.run (h : state.Matches opened) (hstacked : state.Stacked before)
    (hlines : Token.InOrder (before.toList ++ tokens))
    (hrun : Scan.run state before tokens = .ok (final, events)) :
    ∃ left, Event.trackAll opened events = some left ∧ final.Matches left := by
  rw [← runUpTo_nil] at hrun
  exact h.runUpTo hstacked hlines hrun

end State

/-- At the end of a scan everything is closed. -/
theorem statements_closeDownTo_zero (state : State) (closing : Option Nat) :
    (state.closeDownTo 0 closing).1.statements = [] := by
  rw [State.statements_closeDownTo]
  exact List.dropWhile_eq_nil_iff.mpr fun frame _ => by simp

end Scan

/-! ## Complete scans -/

theorem Event.ofTokens_of_run {tokens : List Token} {final : Scan.State} {told : List Event}
    (h : Scan.run {} none tokens = .ok (final, told)) :
    Event.ofTokens tokens = .ok (told ++ (final.closeDownTo 0 none).2) := by
  rw [Event.ofTokens, h]
  rfl

/-- The events of tokens are those of a run and of closing what it leaves open. -/
theorem Event.ofTokens_eq_ok {tokens : List Token} {events : List Event}
    (h : Event.ofTokens tokens = .ok events) :
    ∃ final told, Scan.run {} none tokens = .ok (final, told) ∧
      events = told ++ (final.closeDownTo 0 none).2 := by
  cases hrun : Scan.run {} none tokens with
  | error error =>
    rw [Event.ofTokens, hrun] at h
    cases h
  | ok result =>
    rw [Event.ofTokens_of_run hrun] at h
    cases h
    exact ⟨result.1, result.2, rfl, rfl⟩

/-- **The events of tokens on lines in order are a complete walk on lines in order.** -/
theorem Event.ofTokens_spec {tokens : List Token} {events : List Event}
    (hlines : Token.InOrder tokens) (h : Event.ofTokens tokens = .ok events) :
    WellNested events ∧ Event.Between 1 ((tokens.getLast?.map Token.line).getD 0) events := by
  obtain ⟨final, told, hrun, rfl⟩ := Event.ofTokens_eq_ok h
  have hstacked := Scan.State.stacked_initial.run hrun
  rw [Option.or_none] at hstacked
  obtain ⟨-, htold⟩ := Scan.State.stacked_initial.between_run hlines hrun
  obtain ⟨left, hleft, hmatches⟩ :=
    Scan.State.matches_initial.run Scan.State.stacked_initial hlines hrun
  obtain ⟨outer, houter, hnone⟩ := hmatches.closeDownTo 0 none fun _ hline => nomatch hline
  rw [Scan.State.Matches, Scan.statements_closeDownTo_zero] at hnone
  cases hnone
  constructor
  · rw [wellNested_iff_trackAll, Event.trackAll_append_of_eq hleft]
    exact houter
  · rw [← hstacked.lastLine_eq]
    by_cases hopen : final.statements = []
    · have hexits : (final.closeDownTo 0 none).2 = [] := by
        simp [Scan.State.closeDownTo, hopen]
      rw [hexits, List.append_nil]
      exact htold
    · have hone := hstacked.one_le_lastLine (fun last hlast =>
        hlines.one_le last (List.mem_of_getLast? hlast)) hopen
      have hexits := Scan.State.between_closeDownTo_none 0 (fun _ => Nat.le_refl final.lastLine)
        (Nat.le_refl final.lastLine)
      exact htold.append hexits hone (Nat.le_refl _)

/-- Tokens without a stray parenthesis have events, and those have a tree. -/
theorem Event.ofTokens_strayParen? {tokens : List Token} (hlines : Token.InOrder tokens) :
    match Scan.strayParen? 0 none tokens with
    | some token => Event.ofTokens tokens = .error (.parse token.line .unbalancedParenthesis)
    | none =>
      ∃ events tree, Event.ofTokens tokens = .ok events ∧ Tree.ofEvents events = .ok tree := by
  have hrun := Scan.run_strayParen? {} none tokens
  split
  · rename_i token hstray
    rw [hstray] at hrun
    rw [Event.ofTokens, hrun]
    rfl
  · rename_i hstray
    rw [hstray] at hrun
    obtain ⟨final, told, hrun⟩ := hrun
    have hevents := Event.ofTokens_of_run hrun
    obtain ⟨tree, htree⟩ := Tree.exists_ofEvents (Event.ofTokens_spec hlines hevents).1
    exact ⟨_, tree, hevents, htree⟩

namespace FrontEnd

variable {text : String} {tree : Tree} {error : Error}

/-- A parse that gives a tree goes through events. -/
theorem parse_eq_ok {frontEnd : FrontEnd} (h : frontEnd.parse text = .ok tree) :
    ∃ events, frontEnd.events text = .ok events ∧ Tree.ofEvents events = .ok tree := by
  unfold parse at h
  cases hevents : frontEnd.events text with
  | error error => simp [hevents] at h
  | ok events =>
    rw [hevents] at h
    exact ⟨events, rfl, h⟩

/-- A scan that gives a tree goes through tokens and events. -/
theorem parse_dml_eq_ok (h : dml.parse text = .ok tree) :
    ∃ tokens events, Token.ofText text = .ok tokens ∧ Event.ofTokens tokens = .ok events ∧
      Tree.ofEvents events = .ok tree := by
  obtain ⟨events, hevents, htree⟩ := parse_eq_ok h
  unfold dml at hevents
  cases htokens : Token.ofText text with
  | error error => simp [htokens] at hevents
  | ok tokens =>
    simp only [htokens] at hevents
    exact ⟨tokens, events, rfl, hevents, htree⟩

/-- **A scan fails at a stray parenthesis only, and the events of the others make a tree.** So a
text that is read in order, as all are whose lines have numbers of their own, fails with a fault on
one of its lines, never with events that do not fit. -/
theorem parse_dml_total :
    (∀ tokens, Token.InOrder tokens →
      match Scan.strayParen? 0 none tokens with
      | some token => token ∈ tokens ∧ token.kind = .closeParen ∧
        Event.ofTokens tokens = .error (.parse token.line .unbalancedParenthesis)
      | none => ∃ events tree,
        Event.ofTokens tokens = .ok events ∧ Tree.ofEvents events = .ok tree) ∧
    (∀ text error, Token.ReadsInOrder text → dml.parse text = .error error →
      (Token.ofText text = .error error ∧ ∃ line fault, error = .parse line fault) ∨
      ∃ tokens token, Token.ofText text = .ok tokens ∧
        Scan.strayParen? 0 none tokens = some token ∧
        error = .parse token.line .unbalancedParenthesis) ∧
    ∀ text, Token.lineCount text < UInt32.size → Token.ReadsInOrder text := by
  refine ⟨?_, ?_, fun text => Token.readsInOrder_of_lineCount⟩
  · intro tokens hlines
    have htokens := Event.ofTokens_strayParen? hlines
    split
    · rename_i token hstray
      rw [hstray] at htokens
      obtain ⟨hmem, hkind⟩ := Scan.kind_of_strayParen? hstray
      exact ⟨hmem, hkind, htokens⟩
    · rename_i hstray
      rw [hstray] at htokens
      exact htokens
  · intro text error hlines h
    cases htext : Token.ofText text with
    | error fault =>
      have hfault : fault = error := by simpa [parse, dml, htext] using h
      subst hfault
      exact .inl ⟨rfl, Token.ofText_eq_error htext⟩
    | ok tokens =>
      have htokens := Event.ofTokens_strayParen? (hlines tokens htext)
      cases hstray : Scan.strayParen? 0 none tokens with
      | some token =>
        rw [hstray] at htokens
        have herror : .parse token.line .unbalancedParenthesis = error := by
          simpa [parse, dml, htext, htokens] using h
        exact .inr ⟨tokens, token, rfl, hstray, herror.symm⟩
      | none =>
        rw [hstray] at htokens
        obtain ⟨events, tree, hevents, htree⟩ := htokens
        simp [parse, dml, htext, hevents, htree] at h

/-- An opening parenthesis that is left open is no fault, and a closing one that is left over is. -/
theorem parse_dml_total_open_and_stray :
    (∃ events tree, Event.ofTokens [⟨.word, "SELECT", 1⟩, ⟨.openParen, "(", 1⟩] = .ok events ∧
      Tree.ofEvents events = .ok tree) ∧
    Event.ofTokens [⟨.word, "SELECT", 1⟩, ⟨.closeParen, ")", 3⟩] =
      .error (.parse 3 .unbalancedParenthesis) ∧
    dml.parse "SELECT\n\n)" = .error (.parse 3 .unbalancedParenthesis) ∧
    ∃ tokens token, Token.ofText "SELECT\n\n)" = .ok tokens ∧
      Scan.strayParen? 0 none tokens = some token ∧ token.line = 3 := by
  obtain ⟨hscan, htexts, hcount⟩ := parse_dml_total
  refine ⟨hscan [⟨.word, "SELECT", 1⟩, ⟨.openParen, "(", 1⟩] ⟨by decide, by decide⟩,
    (hscan [⟨.word, "SELECT", 1⟩, ⟨.closeParen, ")", 3⟩] ⟨by decide, by decide⟩).2.2, rfl, ?_⟩
  rcases htexts "SELECT\n\n)" (.parse 3 .unbalancedParenthesis) (hcount _ (by decide)) rfl with
    ⟨htext, -⟩ | ⟨tokens, token, htext, hstray, hline⟩
  · cases htext
  · exact ⟨tokens, token, htext, hstray, (Error.parse.inj hline).1.symm⟩

/-- Without the order there may be no tree: here the numbers of lines have begun again. -/
example : (Event.ofTokens [⟨.word, "SELECT", 4294967295⟩, ⟨.word, "x", 0⟩]).bind Tree.ofEvents =
    .error (.unbalanced 0 (.endsEarly .select 4294967295)) := by
  rfl

/-- **The lines of the events of tokens in order never decrease, and the lines of their tree are in
order.** The same holds of a text that is read in order. -/
theorem ordered_of_parse_dml :
    (∀ tokens events tree, Token.InOrder tokens → Event.ofTokens tokens = .ok events →
      Tree.ofEvents events = .ok tree →
      events.Pairwise (·.line ≤ ·.line) ∧
        tree.Ordered ((tokens.getLast?.map Token.line).getD 0)) ∧
    ∀ text tree, Token.ReadsInOrder text → dml.parse text = .ok tree →
      ∃ tokens events, Token.ofText text = .ok tokens ∧ dml.events text = .ok events ∧
        Tree.ofEvents events = .ok tree ∧ events.Pairwise (·.line ≤ ·.line) ∧
        tree.Ordered ((tokens.getLast?.map Token.line).getD 0) := by
  have hscan : ∀ tokens events tree, Token.InOrder tokens → Event.ofTokens tokens = .ok events →
      Tree.ofEvents events = .ok tree →
      events.Pairwise (·.line ≤ ·.line) ∧
        tree.Ordered ((tokens.getLast?.map Token.line).getD 0) := by
    intro tokens events tree hlines hevents htree
    have hordered := (Event.ofTokens_spec hlines hevents).2
    exact ⟨hordered.inOrder, .of_events hordered htree⟩
  refine ⟨hscan, fun text tree hlines h => ?_⟩
  obtain ⟨tokens, events, htext, hevents, htree⟩ := parse_dml_eq_ok h
  refine ⟨tokens, events, htext, ?_, htree, hscan tokens events tree (hlines tokens htext) hevents
    htree⟩
  simp [dml, htext, hevents]

/-- A query in parentheses over three lines. -/
theorem ordered_of_parse_dml_query :
    Token.ReadsInOrder "(\nSELECT\n)" ∧ ∃ tree, dml.parse "(\nSELECT\n)" = .ok tree ∧
    ∃ tokens events, Token.ofText "(\nSELECT\n)" = .ok tokens ∧
      dml.events "(\nSELECT\n)" = .ok events ∧
      Tree.ofEvents events = .ok tree ∧ events.Pairwise (·.line ≤ ·.line) ∧
      tree.Ordered ((tokens.getLast?.map Token.line).getD 0) := by
  have hlines : Token.ReadsInOrder "(\nSELECT\n)" := Token.readsInOrder_of_lineCount (by decide)
  exact ⟨hlines, _, rfl, ordered_of_parse_dml.2 _ _ hlines rfl⟩

end FrontEnd

end DmlOutline
