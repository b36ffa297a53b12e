import DmlOutline.Proofs.ScanBoundaries

/-!
# Semicolons that may be left out

A keyword that leads its line ends a statement that was left without a terminator. It does so as if a
semicolon stood at the end of the line before. The semicolon would change what the keyword looks back
on, and what a `WITH` right before it looks ahead on, but neither matters once the statement is closed.

* `Scan.role_eq_restarts` — when a keyword ends a statement that was left open.

Principal results: `Scan.exists_step_last`: what a semicolon changes for the token before it;
`Scan.run_semicolon`: what it changes for the keyword after it; `Event.ofTokens_insert_semicolon`:
with it the events are the same.
-/

namespace DmlOutline

namespace Scan

variable {state reached : State} {before : Option Token} {token last leading sign : Token}
  {front back : List Token} {told : List Event} {kind : StatementKind} {line : Nat}
  {awaitsQuery : Bool}

/-! ## Keywords that end a statement -/

/-- **A keyword ends a statement only on a later line, and only one that awaits no query.** -/
theorem role_eq_restarts (h : role state kind line (some last) = .restarts) :
    last.line < line ∧ ∃ frame, state.current = some frame ∧ frame.awaitsQuery = false := by
  unfold role at h
  cases hcurrent : state.current with
  | none =>
    simp only [hcurrent] at h
    split at h <;> cases h
  | some frame =>
    simp only [hcurrent] at h
    split at h
    · cases h
    · split at h
      · cases h
      · split at h
        · rename_i hleads
          simp only [Bool.and_eq_true, Bool.not_eq_true', Option.any_some, decide_eq_true_eq]
            at hleads
          exact ⟨hleads.1.1.1, frame, rfl, hleads.1.2⟩
        · cases h

/-- What is open right after a keyword opened a statement is that statement. -/
theorem current_opening (state : State) (kind : StatementKind) (line : Nat) (before : Option Token)
    (awaitsQuery : Bool) :
    ∃ frame, (opening state kind line before awaitsQuery).1.current = some frame ∧
      frame.awaitsQuery = awaitsQuery := by
  unfold opening
  split <;> exact ⟨_, Option.filter_eq_some_iff.mpr ⟨rfl, by simp [State.enter]⟩, rfl⟩

/-- Where a statement of the present depth is closed, it does not matter whether it awaits a query. -/
theorem closeDownTo_foundQuery (h : state.current ≠ none) (lastLine : Nat) :
    ({ state.foundQuery with lastLine } : State).closeDownTo state.depth none =
      ({ state with lastLine } : State).closeDownTo state.depth none := by
  unfold State.current at h
  unfold State.foundQuery
  cases hstatements : state.statements with
  | nil => simp [hstatements] at h
  | cons frame outer =>
    have hdepth : frame.depth = state.depth := by
      by_contra hother
      simp [hstatements, Option.filter, hother] at h
    simp only [State.closeDownTo, hdepth, List.takeWhile_cons, Nat.le_refl, decide_true,
      if_true, List.length_cons, List.drop_succ_cons, List.map_cons]
    rfl

/-- After the statements of the present depth are closed, none is open at it. -/
theorem current_closeDownTo (state : State) (closing : Option Nat) :
    (state.closeDownTo state.depth closing).1.current = none := by
  unfold State.current
  rw [State.statements_closeDownTo, State.depth_closeDownTo]
  refine Option.filter_eq_none_iff.mpr fun frame hframe => ?_
  have hfirst := List.head?_dropWhile_not (fun frame : Frame => state.depth ≤ frame.depth)
    state.statements
  rw [Option.mem_def.mp hframe] at hfirst
  simp only [decide_eq_false_iff_not, decide_eq_true_eq] at hfirst ⊢
  omega

/-! ## The token before the semicolon -/

/-- A keyword does not make the word before it a name with `AS`. -/
theorem isWord_as_of_keywordKind? {result : StatementKind × Bool}
    (h : keywordKind? leading back = some result) : leading.isWord "AS" = false := by
  refine Bool.eq_false_iff.mpr fun has => ?_
  obtain ⟨-, hkeyword⟩ := Token.isWord_iff.mp has
  have hwith : leading.isWord "WITH" = false := by simp [Token.isWord, hkeyword]
  have hnone : StatementKind.ofKeyword? "AS" = none := by decide
  simp [keywordKind?, hkeyword, hwith, hnone] at h

/-- A step sees that two other tokens follow, and whether they can go on with a `WITH`. -/
theorem step_append_two {first second : Token}
    (hword : first.isWord "AS" = second.isWord "AS")
    (hparen : (first.kind = .openParen) = (second.kind = .openParen))
    (rest back others : List Token) :
    step state before token (rest ++ last :: first :: back) =
      step state before token (rest ++ last :: second :: others) := by
  have hquery : startsQuery (rest ++ last :: first :: back) =
      startsQuery (rest ++ last :: second :: others) := by
    match rest with
    | [] => simp [startsQuery, hword, hparen]
    | [name] => simp [startsQuery]
    | name :: next :: rest => simp [startsQuery]
  have hslash : isLoneSlash before token (rest ++ last :: first :: back) =
      isLoneSlash before token (rest ++ last :: second :: others) := by
    cases rest <;> rfl
  unfold step act keywordKind?
  rw [hquery, hslash]

theorem runUpTo_append_two {first second : Token}
    (hword : first.isWord "AS" = second.isWord "AS")
    (hparen : (first.kind = .openParen) = (second.kind = .openParen)) (back others : List Token) :
    runUpTo (last :: first :: back) state before front =
      runUpTo (last :: second :: others) state before front := by
  induction front generalizing state before with
  | nil => rfl
  | cons token rest ih => simp only [runUpTo, step_append_two hword hparen rest back others, ih]

/-- A `WITH` that begins no query when a semicolon follows leaves the same statements to be closed, if
it leaves one that awaits no query. -/
theorem exists_keyword_with {frame : Frame}
    (hcurrent : (keyword state .select line before true).1.current = some frame)
    (hawaits : frame.awaitsQuery = false) (lastLine : Nat) :
    (keyword state .select line before true).2 = [] ∧
      (keyword state .select line before true).1.depth = state.depth ∧
      ({ (keyword state .select line before true).1 with lastLine } : State).closeDownTo
          state.depth none =
        ({ state with lastLine } : State).closeDownTo state.depth none := by
  have hopens (current : State) (h : (opening current .select line before true).1.current =
      some frame) : False := by
    obtain ⟨opened, hopened, hawaiting⟩ := current_opening current .select line before true
    rw [h] at hopened
    cases hopened
    rw [hawaits] at hawaiting
    cases hawaiting
  unfold keyword at hcurrent ⊢
  cases hrole : role state .select line before with
  | clause => exact ⟨rfl, rfl, rfl⟩
  | withBody =>
    have hopen : state.current ≠ none := by
      intro hnone
      simp only [role, hnone] at hrole
      split at hrole <;> cases hrole
    exact ⟨rfl, state.depth_foundQuery, closeDownTo_foundQuery hopen lastLine⟩
  | opens =>
    simp only [hrole] at hcurrent
    exact (hopens _ hcurrent).elim
  | restarts =>
    simp only [hrole] at hcurrent
    exact (hopens _ hcurrent).elim

/-- **A semicolon after a token changes nothing but what a `WITH` makes of the statement that it
ends.** -/
theorem exists_step_last (hsign : sign.kind = .semicolon) (hline : sign.line = last.line)
    (hstep : step state before last (leading :: back) = .ok (reached, told))
    (hrole : role reached kind leading.line (some last) = .restarts) :
    ∃ other, step state before last (sign :: leading :: back) = .ok (other, told) ∧
      other.depth = reached.depth ∧
      other.closeDownTo reached.depth none = reached.closeDownTo reached.depth none := by
  obtain ⟨hlater, frame, hcurrent, hawaits⟩ := role_eq_restarts hrole
  have hnever : startsQuery (sign :: leading :: back) = false := by
    simp [startsQuery, Token.isWord, hsign]
  have halone : isLoneSlash before last (sign :: leading :: back) = false := by
    simp [isLoneSlash, hline]
  have hsame (h : act state before last (sign :: leading :: back) =
      act state before last (leading :: back)) :
      ∃ other, step state before last (sign :: leading :: back) = .ok (other, told) ∧
        other.depth = reached.depth ∧
        other.closeDownTo reached.depth none = reached.closeDownTo reached.depth none :=
    ⟨reached, by rw [step, h, ← step, hstep], rfl, rfl⟩
  cases hkind : last.kind with
  | symbol =>
    cases hslash : isLoneSlash before last (leading :: back) with
    | false => exact hsame (by simp only [act, hkind, halone, hslash])
    | true =>
      rw [step_terminator (.inl hslash)] at hstep
      cases hstep
      cases hcurrent
  | word =>
    cases hkeyword : StatementKind.ofKeyword? last.keyword with
    | some other => exact hsame (by simp only [act, hkind, keywordKind?, hkeyword])
    | none =>
      cases hwith : last.isWord "WITH" && startsQuery (leading :: back) with
      | false => exact hsame (by simp [act, hkind, keywordKind?, hkeyword, hwith, hnever])
      | true =>
        have hfirst : step state before last (leading :: back) =
            .ok ({ (keyword state .select last.line before true).1 with lastLine := last.line },
              (keyword state .select last.line before true).2) := by
          simp [step, act, hkind, keywordKind?, hkeyword, hwith, Except.map]
        rw [hstep] at hfirst
        cases hfirst
        obtain ⟨htold, hdepth, hclosed⟩ := exists_keyword_with hcurrent hawaits last.line
        refine ⟨{ state with lastLine := last.line }, ?_, hdepth.symm, ?_⟩
        · simp [step, act, hkind, keywordKind?, hkeyword, hnever, htold, Except.map]
        · change State.closeDownTo _ (keyword state .select last.line before true).1.depth none =
            State.closeDownTo _ (keyword state .select last.line before true).1.depth none
          rw [hdepth]
          exact hclosed.symm
  | _ => exact hsame (by simp only [act, hkind])

/-! ## The keyword after the semicolon -/

/-- A keyword that ends the statement before it does not follow an opening parenthesis. -/
theorem kind_ne_openParen (hstacked : reached.Stacked (some last))
    (hrole : role reached kind line (some last) = .restarts) : last.kind ≠ .openParen := by
  intro hparen
  obtain ⟨-, frame, hcurrent, -⟩ := role_eq_restarts hrole
  obtain ⟨hhead, hdepth⟩ := Option.filter_eq_some_iff.mp hcurrent
  have hlt := hstacked.afterParen last rfl hparen frame (List.mem_of_mem_head? hhead)
  simp only [decide_eq_true_eq] at hdepth
  omega

/-- **The keyword opens its statement, whether it ends the one before it or a semicolon does.** -/
theorem run_semicolon {other : State} (hstacked : reached.Stacked (some last))
    (hword : leading.kind = .word) (hkeyword : keywordKind? leading back = some (kind, awaitsQuery))
    (hrole : role reached kind leading.line (some last) = .restarts)
    (hsign : sign.kind = .semicolon) (hline : sign.line = last.line)
    (hdepth : other.depth = reached.depth)
    (hclosed : other.closeDownTo reached.depth none = reached.closeDownTo reached.depth none) :
    run other (some last) (sign :: leading :: back) = run reached (some last) (leading :: back) := by
  obtain ⟨⟨closed, exits⟩, hclose⟩ : ∃ result, reached.closeDownTo reached.depth none = result :=
    ⟨_, rfl⟩
  obtain ⟨⟨opened, enters⟩, hopen⟩ : ∃ result,
    opening closed kind leading.line (some last) awaitsQuery = result := ⟨_, rfl⟩
  have hstate : closed = (reached.closeDownTo reached.depth none).1 := by rw [hclose]
  have hnoted : { closed with lastLine := sign.line } = closed := by
    have hlast : reached.lastLine = last.line := hstacked.lastLine_eq
    rw [hstate, hline, ← hlast]
    rfl
  have hopens : role closed kind leading.line (some sign) = .opens := by
    have hclause : endsInClause sign = false := endsInClause_of_endsStatements (.inl hsign)
    rw [hstate, role, current_closeDownTo]
    simp [hclause]
  have hopening : opening closed kind leading.line (some sign) awaitsQuery = (opened, enters) := by
    have hparen := kind_ne_openParen hstacked hrole
    rw [← hopen]
    simp [opening, Option.filter, hsign, hparen]
  have hends : step other (some last) sign (leading :: back) = .ok (closed, exits) := by
    rw [← hnoted]
    simp only [step, act, hsign, hdepth, hclosed, hclose, Except.map]
  have hafter : step closed (some sign) leading back =
      .ok ({ opened with lastLine := leading.line }, enters) := by
    simp only [step, act, hword, hkeyword, keyword, hopens, hopening, Except.map]
  have hrestarts : step reached (some last) leading back =
      .ok ({ opened with lastLine := leading.line }, exits ++ enters) := by
    simp only [step, act, hword, hkeyword, keyword, hrole, hclose, hopen, Except.map]
  simp only [run, hends, hafter, hrestarts]
  cases run { opened with lastLine := leading.line } (some leading) back with
  | error error => rfl
  | ok result => simp only [List.append_assoc]

end Scan

open Scan

/-- **A keyword that leads its line is worth a missing semicolon.** Where the scan, with all that
follows in sight, comes to a keyword that ends the statement before it, a semicolon at the end of the
line before changes neither the events nor the error. -/
theorem Event.ofTokens_insert_semicolon (front back : List Token) (last leading sign : Token)
    {state : State} {told : List Event} {kind : StatementKind} {awaitsQuery : Bool}
    (hreached : runUpTo (leading :: back) {} none (front ++ [last]) = .ok (state, told))
    (hword : leading.kind = .word) (hkeyword : keywordKind? leading back = some (kind, awaitsQuery))
    (hrole : role state kind leading.line (some last) = .restarts)
    (hsign : sign.kind = .semicolon) (hline : sign.line = last.line) :
    Event.ofTokens (front ++ last :: sign :: leading :: back) =
      Event.ofTokens (front ++ last :: leading :: back) := by
  have hstacked : state.Stacked (some last) := by
    simpa using State.stacked_initial.runUpTo hreached
  obtain ⟨middle, events, more, hfront, hlast, rfl⟩ := runUpTo_append_eq_ok.mp hreached
  obtain ⟨reached, entered, rest, hstep, hnil, rfl⟩ := runUpTo_cons_eq_ok.mp hlast
  cases hnil
  obtain ⟨other, hother, hdepth, hclosed⟩ := exists_step_last hsign hline hstep hrole
  have hsame := run_semicolon hstacked hword hkeyword hrole hsign hline hdepth hclosed
  have hsight : runUpTo (last :: leading :: back) {} none front =
      runUpTo (last :: sign :: leading :: back) {} none front := by
    refine runUpTo_append_two ?_ ?_ _ _
    · rw [isWord_as_of_keywordKind? hkeyword]
      simp [Token.isWord, hsign]
    · simp [hword, hsign]
  have hrun : run middle (front.getLast?.or none) (last :: sign :: leading :: back) =
      run middle (front.getLast?.or none) (last :: leading :: back) := by
    rw [List.nil_append] at hstep
    rw [run, run, hother, hstep]
    simp only [hsame]
  rw [List.cons_append, List.nil_append] at hfront
  rw [Event.ofTokens, Event.ofTokens, run_append, run_append, ← hsight, hfront]
  simp only [Except.bind, hrun]

/-- In `(INSERT WITH x AS WITH`, the second `WITH` is the query of the first only if the `DELETE (` on
the next line follows it at once. The `DELETE` ends both open statements either way. -/
theorem Event.ofTokens_insert_semicolon_in_group :
    runUpTo [⟨.word, "DELETE", 2⟩, ⟨.openParen, "(", 2⟩] {} none
        ([⟨.openParen, "(", 1⟩, ⟨.word, "INSERT", 1⟩, ⟨.word, "WITH", 1⟩, ⟨.word, "x", 1⟩,
          ⟨.word, "AS", 1⟩] ++ [⟨.word, "WITH", 1⟩]) =
      .ok (⟨[⟨.select, 1, false, false⟩, ⟨.insert, 1, true, false⟩], 1, 1⟩,
        [.enter .insert 1, .enter .select 1]) ∧
    keywordKind? ⟨.word, "DELETE", 2⟩ [⟨.openParen, "(", 2⟩] = some (.delete, false) ∧
    role ⟨[⟨.select, 1, false, false⟩, ⟨.insert, 1, true, false⟩], 1, 1⟩ .delete 2
      (some ⟨.word, "WITH", 1⟩) = .restarts ∧
    Event.ofTokens ([⟨.openParen, "(", 1⟩, ⟨.word, "INSERT", 1⟩, ⟨.word, "WITH", 1⟩,
        ⟨.word, "x", 1⟩, ⟨.word, "AS", 1⟩] ++ ⟨.word, "WITH", 1⟩ :: ⟨.semicolon, ";", 1⟩ ::
        ⟨.word, "DELETE", 2⟩ :: [⟨.openParen, "(", 2⟩]) =
      Event.ofTokens ([⟨.openParen, "(", 1⟩, ⟨.word, "INSERT", 1⟩, ⟨.word, "WITH", 1⟩,
        ⟨.word, "x", 1⟩, ⟨.word, "AS", 1⟩] ++ ⟨.word, "WITH", 1⟩ ::
        ⟨.word, "DELETE", 2⟩ :: [⟨.openParen, "(", 2⟩]) :=
  ⟨rfl, rfl, rfl, Event.ofTokens_insert_semicolon _ _ _ _ ⟨.semicolon, ";", 1⟩ rfl rfl rfl rfl rfl
    rfl⟩

end DmlOutline
