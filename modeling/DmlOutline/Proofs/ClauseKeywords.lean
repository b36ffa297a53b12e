import DmlOutline.Proofs.ScanRuns

/-!
# Keywords in clauses

After some words and signs a keyword belongs to a clause: to the events of a trigger, to the action
of a reference, to a list of privileges or of names. Such a keyword leaves the open statements as
they are, with one exception: an `INSERT` takes every `SELECT` of its depth for its query.

* `Scan.statementWords` — the words that may begin a statement.
* `Scan.Frame.settled`, `Scan.State.takesQuery` — statements apart from the query that they await,
  and an `INSERT` at the present depth.
* `Scan.State.OnlyQueriesAwait` — no statement but a query was begun by a `WITH`.

Principal results: `Scan.State.OnlyQueriesAwait.runUpTo`: a run keeps that only queries await one;
`Scan.runUpTo_clause_keyword`: what a keyword in a clause does; `Scan.runUpTo_clause_keyword_opens`:
the exception.
-/

namespace DmlOutline.Scan

variable {state next final : State} {before : Option Token} {token : Token}
  {after ahead tokens : List Token} {told events : List Event} {kind : StatementKind}
  {awaitsQuery : Bool}

/-! ## The words that may begin a statement -/

/-- The words that may begin a statement. -/
def statementWords : List String :=
  ["SELECT", "INSERT", "UPDATE", "DELETE", "MERGE", "WITH"]

/-- A word is read as a kind exactly when it is the tag of a kind other than the root's. -/
theorem ofKeyword?_eq_some_iff {word : String} :
    StatementKind.ofKeyword? word = some kind ↔ kind ≠ .root ∧ word = kind.tag := by
  constructor
  · intro h
    refine ⟨?_, ?_⟩
    · rintro rfl
      exact StatementKind.ofKeyword?_ne_root word h
    · have htag := List.find?_some h
      exact (of_decide_eq_true htag).symm
  · rintro ⟨notRoot, rfl⟩
    exact StatementKind.ofKeyword?_tag notRoot

/-- No other word is a keyword. -/
theorem keywordKind?_eq_none (hword : token.kind = .word)
    (h : statementWords.any token.isWord = false) (after : List Token) :
    keywordKind? token after = none := by
  simp only [statementWords, List.any_cons, List.any_nil, Bool.or_false, Bool.or_eq_false_iff] at h
  obtain ⟨hselect, hinsert, hupdate, hdelete, hmerge, hwith⟩ := h
  have hnone : StatementKind.ofKeyword? token.keyword = none := by
    refine Option.eq_none_iff_forall_ne_some.mpr fun kind hkind => ?_
    obtain ⟨notRoot, hkeyword⟩ := ofKeyword?_eq_some_iff.mp hkind
    have hisWord : token.isWord kind.tag = true := Token.isWord_iff.mpr ⟨hword, hkeyword⟩
    cases kind with
    | root => exact notRoot rfl
    | select => exact absurd hisWord (by simp [StatementKind.tag, hselect])
    | insert => exact absurd hisWord (by simp [StatementKind.tag, hinsert])
    | update => exact absurd hisWord (by simp [StatementKind.tag, hupdate])
    | delete => exact absurd hisWord (by simp [StatementKind.tag, hdelete])
    | merge => exact absurd hisWord (by simp [StatementKind.tag, hmerge])
  simp [keywordKind?, hnone, hwith]

/-- Only a query begins with `WITH`. -/
theorem kind_of_keywordKind? (h : keywordKind? token after = some (kind, true)) :
    kind = .select := by
  unfold keywordKind? at h
  split at h
  · cases h
  · split at h
    · cases h
      rfl
    · cases h

/-- The word of a kind is a keyword of that kind. -/
theorem keywordKind?_of_isWord (kind : StatementKind) (notRoot : kind ≠ .root)
    (h : token.isWord kind.tag = true) (after : List Token) :
    keywordKind? token after = some (kind, false) := by
  rw [keywordKind?, (Token.isWord_iff.mp h).2, StatementKind.ofKeyword?_tag notRoot]

/-! ## Statements that await a query -/

/-- A statement, whether it awaits a query or not. -/
def Frame.settled (frame : Frame) : Frame :=
  { frame with awaitsQuery := false }

namespace State

/-- Whether the statement of the present depth is an `INSERT`. -/
def takesQuery (state : State) : Bool :=
  state.current.any (·.kind = .insert)

/-- Of the open statements, only queries await a query. -/
def OnlyQueriesAwait (state : State) : Prop :=
  ∀ frame ∈ state.statements, frame.awaitsQuery = true → frame.kind = .select

theorem settled_foundQuery (state : State) :
    state.foundQuery.statements.map Frame.settled = state.statements.map Frame.settled := by
  unfold foundQuery
  cases hstatements : state.statements with
  | nil => simp [hstatements]
  | cons frame outer => rfl

namespace OnlyQueriesAwait

theorem closeDownTo (h : state.OnlyQueriesAwait) (depth : Nat) (closing : Option Nat) :
    (state.closeDownTo depth closing).1.OnlyQueriesAwait :=
  fun frame hframe => h frame ((state.sublist_closeDownTo depth closing).mem hframe)

theorem foundQuery (h : state.OnlyQueriesAwait) : state.foundQuery.OnlyQueriesAwait := by
  unfold State.foundQuery
  cases hstatements : state.statements with
  | nil => exact h
  | cons frame outer =>
    intro other hother hawaits
    rcases List.mem_cons.mp hother with rfl | houter
    · cases hawaits
    · exact h other (hstatements ▸ List.mem_cons_of_mem frame houter) hawaits

theorem opening (h : state.OnlyQueriesAwait) (hkind : awaitsQuery = true → kind = .select)
    (line : Nat) (before : Option Token) :
    (Scan.opening state kind line before awaitsQuery).1.OnlyQueriesAwait := by
  have henter (parenthesized : Bool) :
      (state.enter kind parenthesized awaitsQuery).OnlyQueriesAwait := by
    intro frame hframe hawaits
    rcases List.mem_cons.mp hframe with rfl | houter
    · exact hkind hawaits
    · exact h frame houter hawaits
  unfold Scan.opening
  split <;> exact henter _

theorem keyword (h : state.OnlyQueriesAwait) (hkind : awaitsQuery = true → kind = .select)
    (line : Nat) (before : Option Token) :
    (Scan.keyword state kind line before awaitsQuery).1.OnlyQueriesAwait := by
  unfold Scan.keyword
  cases role state kind line before with
  | clause => exact h
  | withBody => exact h.foundQuery
  | opens => exact h.opening hkind line before
  | restarts => exact (h.closeDownTo state.depth none).opening hkind line before

theorem act (h : state.OnlyQueriesAwait)
    (hact : Scan.act state before token after = .ok (next, events)) : next.OnlyQueriesAwait := by
  -- `Acts` does not say which keyword awaits a query, so the step itself is taken apart.
  unfold Scan.act at hact
  split at hact
  · cases hact
    exact h
  · split at hact
    · cases hact
    · cases hact
      exact h.closeDownTo state.depth (some token.line)
  · cases hact
    exact h.closeDownTo state.depth none
  · split at hact
    · cases hact
      exact h.closeDownTo 0 none
    · cases hact
      exact h
  · split at hact
    · rename_i kind awaitsQuery hkeyword
      obtain ⟨rfl, -⟩ := Prod.ext_iff.mp (Except.ok.inj hact)
      exact h.keyword (fun hawaits => kind_of_keywordKind? (hawaits ▸ hkeyword)) _ _
    · cases hact
      exact h
  · cases hact
    exact h

/-- **Every token keeps that only queries await a query.** -/
theorem step (h : state.OnlyQueriesAwait)
    (hstep : Scan.step state before token after = .ok (next, events)) : next.OnlyQueriesAwait := by
  unfold Scan.step at hstep
  cases hact : Scan.act state before token after with
  | error error => rw [hact] at hstep; cases hstep
  | ok result =>
    obtain ⟨reached, told⟩ := result
    rw [hact] at hstep
    cases hstep
    exact fun frame hframe => h.act hact frame hframe

/-- **A run keeps that only queries await a query.** -/
theorem runUpTo (h : state.OnlyQueriesAwait)
    (hrun : Scan.runUpTo ahead state before tokens = .ok (final, events)) :
    final.OnlyQueriesAwait :=
  runUpTo_keeps (fun state _ => state.OnlyQueriesAwait) step h hrun

end OnlyQueriesAwait

end State

/-! ## Keywords that open a statement -/

/-- A step over a keyword does what the keyword means. -/
theorem step_keyword (hword : token.kind = .word)
    (hkeyword : keywordKind? token after = some (kind, awaitsQuery)) (state : State)
    (before : Option Token) :
    step state before token after =
      .ok ({ (keyword state kind token.line before awaitsQuery).1 with lastLine := token.line },
        (keyword state kind token.line before awaitsQuery).2) := by
  simp only [step, act, hword, hkeyword, Except.map]

/-- A keyword outside clauses opens a statement where none of its depth is open. -/
theorem keyword_of_current_none (hcurrent : state.current = none)
    (hclause : before.any endsInClause = false) (kind : StatementKind) (line : Nat)
    (awaitsQuery : Bool) :
    keyword state kind line before awaitsQuery = opening state kind line before awaitsQuery := by
  simp [keyword, role, hcurrent, hclause]

/-- A statement right after an opening parenthesis begins on its line. -/
theorem opening_of_openParen {paren : Token} (hparen : paren.kind = .openParen) (state : State)
    (kind : StatementKind) (line : Nat) (awaitsQuery : Bool) :
    opening state kind line (some paren) awaitsQuery =
      (state.enter kind true awaitsQuery, [.enter kind paren.line]) := by
  rw [opening, Option.filter_some_pos (by simpa using hparen)]

/-- Any other statement begins on the line of its keyword. -/
theorem opening_of_ne_openParen (hparen : ∀ last ∈ before, last.kind ≠ .openParen) (state : State)
    (kind : StatementKind) (line : Nat) (awaitsQuery : Bool) :
    opening state kind line before awaitsQuery =
      (state.enter kind false awaitsQuery, [.enter kind line]) := by
  have hnone : before.filter (·.kind = .openParen) = none :=
    Option.filter_eq_none_iff.mpr fun last hlast => by simpa using hparen last hlast
  rw [opening, hnone]

/-- A token after which a keyword belongs to a clause is no parenthesis. -/
theorem kind_ne_openParen_of_endsInClause (h : endsInClause token = true) :
    token.kind ≠ .openParen := by
  intro hkind
  simp [endsInClause, Token.isWord, Token.isSymbol, hkind] at h

/-- A keyword right after an opening parenthesis opens a statement that ends with its partner. -/
theorem step_keyword_of_openParen {paren : Token} (hparen : paren.kind = .openParen)
    (hcurrent : state.current = none) (hword : token.kind = .word)
    (hkeyword : keywordKind? token after = some (kind, awaitsQuery)) :
    step state (some paren) token after =
      .ok ({ state.enter kind true awaitsQuery with lastLine := token.line },
        [.enter kind paren.line]) := by
  have hclause : (some paren).any endsInClause = false :=
    Bool.eq_false_iff.mpr fun h => kind_ne_openParen_of_endsInClause h hparen
  rw [step_keyword hword hkeyword, keyword_of_current_none hcurrent hclause,
    opening_of_openParen hparen]

/-- A keyword outside clauses that does not follow an opening parenthesis opens a statement on its
own line. -/
theorem step_keyword_of_ne_openParen (hparen : ∀ last ∈ before, last.kind ≠ .openParen)
    (hclause : before.any endsInClause = false) (hcurrent : state.current = none)
    (hword : token.kind = .word)
    (hkeyword : keywordKind? token after = some (kind, awaitsQuery)) :
    step state before token after =
      .ok ({ state.enter kind false awaitsQuery with lastLine := token.line },
        [.enter kind token.line]) := by
  rw [step_keyword hword hkeyword, keyword_of_current_none hcurrent hclause,
    opening_of_ne_openParen hparen]

/-! ## Keywords after a clause word -/

/-- **What a keyword in a clause means** depends on the statement of its depth alone. -/
theorem role_of_endsInClause (h : before.any endsInClause = true) (state : State)
    (kind : StatementKind) (line : Nat) :
    role state kind line before =
      match state.current with
      | none => .clause
      | some frame =>
        if frame.awaitsQuery && kind = .select then .withBody
        else if frame.kind = .insert && kind = .select then .opens
        else .clause := by
  have hcontinues : before.any continues = true := by
    cases before with
    | none => cases h
    | some last => exact Bool.or_eq_true_iff.mpr (.inl h)
  unfold role
  cases state.current with
  | none => simp [h]
  | some frame => simp [hcontinues]

/-- A keyword in a clause leaves the open statements, unless an `INSERT` takes it for its query. -/
theorem keyword_of_endsInClause (h : before.any endsInClause = true) (line : Nat)
    (hnot : ¬(kind = .select ∧ state.takesQuery = true)) (awaitsQuery : Bool) :
    (keyword state kind line before awaitsQuery).2 = [] ∧
      (keyword state kind line before awaitsQuery).1.depth = state.depth ∧
      (keyword state kind line before awaitsQuery).1.statements.map Frame.settled =
        state.statements.map Frame.settled := by
  have hrole := role_of_endsInClause h state kind line
  unfold keyword
  cases hcurrent : state.current with
  | none =>
    simp only [hcurrent] at hrole
    rw [hrole]
    exact ⟨rfl, rfl, rfl⟩
  | some frame =>
    simp only [hcurrent] at hrole
    split at hrole
    · rw [hrole]
      exact ⟨rfl, state.depth_foundQuery, state.settled_foundQuery⟩
    · split at hrole
      · rename_i hinsert
        obtain ⟨hinsert, hselect⟩ := Bool.and_eq_true_iff.mp hinsert
        refine absurd ⟨by simpa using hselect, ?_⟩ hnot
        simpa [State.takesQuery, hcurrent] using hinsert
      · rw [hrole]
        exact ⟨rfl, rfl, rfl⟩

/-- An `INSERT` takes a `SELECT` for its query, in a clause or not. -/
theorem keyword_of_takesQuery (h : before.any endsInClause = true) (hawait : state.OnlyQueriesAwait)
    (htakes : state.takesQuery = true) (line : Nat) (awaitsQuery : Bool) :
    keyword state .select line before awaitsQuery =
      (state.enter .select false awaitsQuery, [.enter .select line]) := by
  have hrole : role state .select line before = .opens := by
    rw [role_of_endsInClause h]
    cases hcurrent : state.current with
    | none => simp [State.takesQuery, hcurrent] at htakes
    | some frame =>
      have hinsert : frame.kind = .insert := by
        simpa [State.takesQuery, hcurrent] using htakes
      -- The test for an awaited query comes first, and no `INSERT` passes it.
      have hsettled : frame.awaitsQuery = false := by
        refine Bool.eq_false_iff.mpr fun hawaits => ?_
        have hmem := List.mem_of_mem_head? (Option.filter_eq_some_iff.mp hcurrent).1
        rw [hawait frame hmem hawaits] at hinsert
        cases hinsert
      simp [hinsert, hsettled]
  have hparen : ∀ last ∈ before, last.kind ≠ .openParen := by
    intro last hlast
    rw [Option.mem_def.mp hlast] at h
    exact kind_ne_openParen_of_endsInClause h
  simp only [keyword, hrole, opening_of_ne_openParen hparen]

/-- **What a keyword after a clause word does.** It tells no event and neither opens nor closes a
statement, whatever is open. Only in an `INSERT` of its depth a `SELECT` is a query even there. -/
theorem runUpTo_clause_keyword (front back : List Token) (last token : Token)
    (hreached : runUpTo (token :: back) {} none (front ++ [last]) = .ok (state, told))
    (hlast : clauseWords.any last.isWord = true ∨ last.isSymbol "." = true ∨
      last.isSymbol "," = true)
    (notRoot : kind ≠ .root) (hkeyword : token.isWord kind.tag = true) :
    (¬(kind = .select ∧ state.takesQuery = true) →
      ∃ next, runUpTo back {} none (front ++ [last, token]) = .ok (next, told) ∧
        next.depth = state.depth ∧
        next.statements.map Frame.settled = state.statements.map Frame.settled) ∧
    (kind = .select → state.takesQuery = true →
      runUpTo back {} none (front ++ [last, token]) =
        .ok ({ state.enter .select false false with lastLine := token.line },
          told ++ [.enter .select token.line])) := by
  have hclause : (some last).any endsInClause = true := by
    simpa [endsInClause, or_assoc] using hlast
  have hword : token.kind = .word := (Token.isWord_iff.mp hkeyword).1
  have hstep := step_keyword hword (keywordKind?_of_isWord kind notRoot hkeyword back) state
    (some last)
  -- In both cases the run goes one step further, and only what the keyword means differs.
  have hrun : runUpTo back {} none (front ++ [last, token]) =
      .ok ({ (keyword state kind token.line (some last) false).1 with lastLine := token.line },
        told ++ (keyword state kind token.line (some last) false).2) := by
    have hsplit : front ++ [last, token] = (front ++ [last]) ++ [token] := by simp
    rw [hsplit]
    refine runUpTo_append_eq_ok.mpr ⟨state, told, _, hreached, ?_, rfl⟩
    refine runUpTo_cons_eq_ok.mpr ⟨_, _, [], ?_, rfl, List.append_nil _⟩
    simpa using hstep
  constructor
  · intro hnot
    obtain ⟨htold, hdepth, hstatements⟩ := keyword_of_endsInClause hclause token.line hnot false
    rw [htold, List.append_nil] at hrun
    exact ⟨_, hrun, hdepth, hstatements⟩
  · rintro rfl htakes
    have hinitial : ({} : State).OnlyQueriesAwait := fun _ hframe => nomatch hframe
    have hawait := hinitial.runUpTo hreached
    rw [keyword_of_takesQuery hclause hawait htakes] at hrun
    exact hrun

/-- A `DELETE` that leads its line, in the action of a reference, leaves a query in parentheses and
an `UPDATE` open. -/
theorem runUpTo_clause_keyword_delete :
    runUpTo [⟨.word, "Delete", 3⟩, ⟨.semicolon, ";", 3⟩] {} none
        ([⟨.word, "UPDATE", 1⟩, ⟨.openParen, "(", 1⟩, ⟨.word, "SELECT", 2⟩] ++ [⟨.word, "on", 2⟩]) =
      .ok (⟨[⟨.select, 1, true, false⟩, ⟨.update, 0, false, false⟩], 1, 2⟩,
        [.enter .update 1, .enter .select 1]) ∧
    clauseWords.any (Token.isWord ⟨.word, "on", 2⟩) = true ∧
    Token.isWord ⟨.word, "Delete", 3⟩ StatementKind.delete.tag = true ∧
    ∃ next, runUpTo [⟨.semicolon, ";", 3⟩] {} none
        ([⟨.word, "UPDATE", 1⟩, ⟨.openParen, "(", 1⟩, ⟨.word, "SELECT", 2⟩] ++
          [⟨.word, "on", 2⟩, ⟨.word, "Delete", 3⟩]) =
        .ok (next, [.enter .update 1, .enter .select 1]) ∧ next.depth = 1 ∧
      next.statements.map Frame.settled =
        [⟨.select, 1, true, false⟩, ⟨.update, 0, false, false⟩] := by
  have hreached : runUpTo [⟨.word, "Delete", 3⟩, ⟨.semicolon, ";", 3⟩] {} none
      ([⟨.word, "UPDATE", 1⟩, ⟨.openParen, "(", 1⟩, ⟨.word, "SELECT", 2⟩] ++ [⟨.word, "on", 2⟩]) =
      .ok (⟨[⟨.select, 1, true, false⟩, ⟨.update, 0, false, false⟩], 1, 2⟩,
        [.enter .update 1, .enter .select 1]) := rfl
  have hdelete : Token.isWord ⟨.word, "Delete", 3⟩ StatementKind.delete.tag = true := by decide
  refine ⟨hreached, by decide, hdelete, ?_⟩
  exact (runUpTo_clause_keyword _ _ _ _ hreached (by decide) (by decide) hdelete).1 (by decide)

/-- After an `INSERT` that was left without a semicolon, the privilege in `GRANT SELECT` is told as
a query of the `INSERT`. -/
theorem runUpTo_clause_keyword_opens :
    clauseWords.any (Token.isWord ⟨.word, "GRANT", 2⟩) = true ∧
    (runUpTo [⟨.word, "SELECT", 2⟩, ⟨.semicolon, ";", 2⟩] {} none
        [⟨.word, "INSERT", 1⟩, ⟨.word, "GRANT", 2⟩]).map Prod.snd = .ok [.enter .insert 1] ∧
    (runUpTo [⟨.semicolon, ";", 2⟩] {} none
        [⟨.word, "INSERT", 1⟩, ⟨.word, "GRANT", 2⟩, ⟨.word, "SELECT", 2⟩]).map Prod.snd =
      .ok [.enter .insert 1, .enter .select 2] :=
  ⟨by decide, rfl, rfl⟩

end DmlOutline.Scan
