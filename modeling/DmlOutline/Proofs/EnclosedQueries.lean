import DmlOutline.Proofs.ClauseKeywords
import DmlOutline.Proofs.TokenParts

/-!
# Queries around their groups

A query in parentheses ends with them, and a query that a `WITH` announces ends with its tokens. In
between, no word that goes on with the query tells an event, and neither does the main `SELECT` that
the `WITH` awaits. So such a query is told as one statement around the events of its groups.

* `Scan.goesOn` — whether the parts after a `SELECT` go on with its query.
* `Token.NamedQuery`, `Token.NamedQueries` — what stands between a `WITH` and its main `SELECT`.
* `Token.WithQuery` — a whole query that begins with `WITH`.
* `Scan.isPlain` — whether a token neither ends nor begins a statement, wherever it stands.

Principal results: `Scan.runUpTo_subquery`: a query in parentheses spans them;
`Event.ofTokens_withQuery`: a query that begins with `WITH` is one statement.
-/

namespace DmlOutline

namespace Scan

variable {state : State} {before : Option Token} {token last : Token} {after ahead : List Token}
  {parts : List Token.Part}

/-! ## Queries in parentheses -/

/-- Whether the parts after a token go on with a query: outside the groups, no semicolon ends it and
no word that may begin a statement leads its line. -/
def goesOn (last : Token) : List Token.Part → Bool
  | [] => true
  | .single token _ :: rest =>
    token.kind ≠ .semicolon && (!statementWords.any token.isWord || token.line ≤ last.line) &&
      goesOn token rest
  | .group group :: rest => goesOn group.closing rest

/-- The statement of the present depth is a query, and its own `SELECT` has been read. -/
def State.InQuery (state : State) : Prop :=
  ∃ frame, state.current = some frame ∧ frame.kind = .select ∧ frame.awaitsQuery = false

/-- A keyword that does not lead its line belongs to the query of its depth. -/
theorem role_of_inQuery (h : state.InQuery) {line : Nat} (hline : line ≤ last.line)
    (kind : StatementKind) : role state kind line (some last) = .clause := by
  obtain ⟨frame, hcurrent, hkind, hawaits⟩ := h
  simp [role, hcurrent, hkind, hawaits, Nat.not_lt.mpr hline]

/-- A token does nothing if it is no parenthesis, ends no statement and, as a keyword, belongs to a
clause. -/
theorem act_eq_self (notParen : token.kind ≠ .openParen ∧ token.kind ≠ .closeParen)
    (notSemicolon : token.kind ≠ .semicolon) (hslash : isLoneSlash before token after = false)
    (hclause : ∀ kind awaitsQuery, token.kind = .word →
      keywordKind? token after = some (kind, awaitsQuery) →
      role state kind token.line before = .clause) :
    act state before token after = .ok (state, []) := by
  unfold act
  cases htoken : token.kind with
  | openParen => exact absurd htoken notParen.1
  | closeParen => exact absurd htoken notParen.2
  | semicolon => exact absurd htoken notSemicolon
  | symbol => simp only [hslash, Bool.false_eq_true, if_false]
  | word =>
    cases hkeyword : keywordKind? token after with
    | none => rfl
    | some found =>
      obtain ⟨kind, awaitsQuery⟩ := found
      simp only [keyword, hclause kind awaitsQuery htoken hkeyword]
  | quotedIdent | literal | number => rfl

/-- A token that goes on with the query of its depth does nothing. -/
theorem act_of_inQuery (h : state.InQuery)
    (notParen : token.kind ≠ .openParen ∧ token.kind ≠ .closeParen)
    (notSemicolon : token.kind ≠ .semicolon)
    (hword : statementWords.any token.isWord = true → token.line ≤ last.line)
    (hslash : isLoneSlash (some last) token after = false) :
    act state (some last) token after = .ok (state, []) := by
  refine act_eq_self notParen notSemicolon hslash fun kind awaitsQuery htoken hkeyword => ?_
  have hany : statementWords.any token.isWord = true := by
    by_contra hnot
    rw [keywordKind?_eq_none htoken (Bool.eq_false_iff.mpr hnot)] at hkeyword
    cases hkeyword
  exact role_of_inQuery h (hword hany) kind

/-- The parts that go on with the query of their depth pass. -/
theorem passes_of_goesOn (h : state.InQuery) (hgoes : goesOn last parts = true)
    (hslash : hasLoneSlash (some last) (Token.ofParts parts ++ ahead) = false) :
    Passes state ahead (some last) parts := by
  induction parts generalizing last with
  | nil => exact .nil
  | cons part rest ih =>
    cases part with
    | single token notParen =>
      rw [Token.ofParts_single] at hslash
      obtain ⟨halone, hlater⟩ := hasLoneSlash_cons_eq_false.mp hslash
      simp only [goesOn, Bool.and_eq_true, decide_eq_true_eq, Bool.or_eq_true,
        Bool.not_eq_true'] at hgoes
      obtain ⟨⟨notSemicolon, hword⟩, hrest⟩ := hgoes
      refine .single (fun lastLine => ?_) (ih hrest hlater)
      -- What is noted as the last line is no part of what is open.
      have hnoted : ({ state with lastLine } : State).InQuery := h
      refine act_of_inQuery hnoted notParen notSemicolon (fun hany => ?_) halone
      exact hword.resolve_left (by simp [hany])
    | group group =>
      rw [Token.ofParts_group, List.append_assoc] at hslash
      have hlater := hasLoneSlash_back hslash
      rw [Token.getLast?_tokens] at hlater
      exact .group (hasLoneSlash_group group hslash) (ih hgoes hlater)

/-- What a query in parentheses tells by itself. -/
theorem exists_run_subquery (group : Token.Group) {select : Token}
    (hinner : group.inner = select :: Token.ofParts parts) (hselect : select.isWord "SELECT" = true)
    (hslash : hasLoneSlash none group.tokens = false) (hgoes : goesOn select parts = true) :
    ∃ events, Event.ofGroups (Token.groupsOf parts) = .ok events ∧
      run {} none group.tokens = .ok (⟨[], 0, group.closing.line⟩,
        .enter .select group.opening.line :: (events ++ [.exit .select group.closing.line])) := by
  obtain ⟨paren, inner, closing, hparen, hclosing, hbalanced⟩ := group
  subst hinner
  have hinQuery : (⟨[⟨.select, 1, true, false⟩], 1, select.line⟩ : State).InQuery :=
    ⟨_, rfl, rfl, rfl⟩
  have hpasses := passes_of_goesOn hinQuery hgoes
    (hasLoneSlash_cons_eq_false.mp (hasLoneSlash_cons_eq_false.mp hslash).2).2
  obtain ⟨events, hevents, hbody⟩ := hpasses.exists_run (by simp) select.line
  have hopen : step {} none paren (select :: (Token.ofParts parts ++ [closing])) =
      .ok (⟨[], 1, paren.line⟩, []) := by
    simp [step, act, hparen, Except.map]
  have hquery : step ⟨[], 1, paren.line⟩ (some paren) select (Token.ofParts parts ++ [closing]) =
      .ok (⟨[⟨.select, 1, true, false⟩], 1, select.line⟩, [.enter .select paren.line]) :=
    step_keyword_of_openParen hparen rfl (Token.isWord_iff.mp hselect).1
      (keywordKind?_of_isWord .select (by decide) hselect _)
  have hclose (lastLine : Nat) (before : Option Token) :
      step ⟨[⟨.select, 1, true, false⟩], 1, lastLine⟩ before closing [] =
        .ok (⟨[], 0, closing.line⟩, [.exit .select closing.line]) := by
    simp [step, act, hclosing, Except.map, State.closeDownTo, State.exitEvent]
  have hrest : run ⟨[⟨.select, 1, true, false⟩], 1, select.line⟩ (some select)
      (Token.ofParts parts ++ [closing]) =
        .ok (⟨[], 0, closing.line⟩, events ++ [.exit .select closing.line]) := by
    rw [run_append, hbody]
    simp only [Except.bind, run, hclose, Except.map, List.append_nil]
  refine ⟨events, hevents, run_cons_eq_ok.mpr ⟨_, [], _, hopen, ?_, rfl⟩⟩
  exact run_cons_eq_ok.mpr ⟨_, [.enter .select paren.line], _, hquery, hrest, rfl⟩

/-- **A query in parentheses spans them.** Its body falls into parts, and if these go on with the
query, then in every state that a scan reaches the group tells one query from the line of its
opening parenthesis to the line of its closing one, around the events of the groups in the body, and
nothing else. -/
theorem runUpTo_subquery (group : Token.Group) (select : Token) (body : List Token)
    (hinner : group.inner = select :: body) (hselect : select.isWord "SELECT" = true)
    (hslash : hasLoneSlash none group.tokens = false) :
    (∃ parts, Token.ofParts parts = body) ∧
    ∀ parts, Token.ofParts parts = body → goesOn select parts = true →
      ∃ events, Event.ofGroups (Token.groupsOf parts) = .ok events ∧
        ∀ (front ahead back : List Token) (state : State) (told : List Event),
          runUpTo ahead {} none front = .ok (state, told) →
          runUpTo back state front.getLast? group.tokens =
            .ok ({ state with lastLine := group.closing.line },
              .enter .select group.opening.line ::
                (events ++ [.exit .select group.closing.line])) := by
  have hword : select.kind = .word := (Token.isWord_iff.mp hselect).1
  constructor
  · have hbalanced := group.balanced
    rw [hinner] at hbalanced
    cases hbalanced with
    | other _ _ hbody => exact Token.balanced_iff_exists_parts.mp hbody
    | group hopening => rw [hword] at hopening; cases hopening
  · rintro parts rfl hgoes
    -- The group tells the same in every state, so its events are found where nothing is open.
    obtain ⟨told, -, hgroup⟩ := exists_ofTokens_group group hslash
    obtain ⟨events, hevents, halone⟩ := exists_run_subquery group hinner hselect hslash hgoes
    rw [← runUpTo_nil, hgroup {} none [] fun _ hframe => nomatch hframe] at halone
    obtain ⟨-, rfl⟩ := Prod.ext_iff.mp (Except.ok.inj halone)
    refine ⟨events, hevents, fun front ahead back state told hreached => ?_⟩
    exact hgroup state _ back (State.stacked_initial.runUpTo hreached).within

/-- What follows a `SELECT` on three lines: the other half of a `UNION`, with a query in
parentheses, and a `FOR UPDATE`. -/
def unionParts : List Token.Part :=
  [.single ⟨.word, "UNION", 2⟩ (by decide), .single ⟨.word, "SELECT", 2⟩ (by decide),
    .group ⟨⟨.openParen, "(", 3⟩, [⟨.word, "SELECT", 3⟩], ⟨.closeParen, ")", 4⟩, rfl, rfl,
      .other (by decide) (by decide) .nil⟩,
    .single ⟨.word, "FOR", 4⟩ (by decide), .single ⟨.word, "UPDATE", 4⟩ (by decide)]

/-- A query in parentheses over six lines. -/
def unionGroup : Token.Group where
  opening := ⟨.openParen, "(", 1⟩
  inner := ⟨.word, "Select", 2⟩ :: Token.ofParts unionParts
  closing := ⟨.closeParen, ")", 6⟩
  kind_opening := rfl
  kind_closing := rfl
  balanced := .other (by decide) (by decide) (Token.balanced_iff_exists_parts.mpr ⟨_, rfl⟩)

/-- After a `DELETE`, the query spans its parentheses around the one inside it. -/
theorem runUpTo_subquery_union :
    hasLoneSlash none unionGroup.tokens = false ∧
    goesOn ⟨.word, "Select", 2⟩ unionParts = true ∧
    ∃ events, Event.ofGroups (Token.groupsOf unionParts) = .ok events ∧
      runUpTo [⟨.semicolon, ";", 6⟩] ⟨[⟨.delete, 0, false, false⟩], 0, 1⟩
          (some ⟨.word, "DELETE", 1⟩) unionGroup.tokens =
        .ok (⟨[⟨.delete, 0, false, false⟩], 0, 6⟩,
          .enter .select 1 :: (events ++ [.exit .select 6])) := by
  have hslash : hasLoneSlash none unionGroup.tokens = false := by decide
  have hgoes : goesOn ⟨.word, "Select", 2⟩ unionParts = true := by decide
  obtain ⟨events, hevents, hquery⟩ := (runUpTo_subquery unionGroup ⟨.word, "Select", 2⟩ _ rfl
    (by decide) hslash).2 unionParts rfl hgoes
  refine ⟨hslash, hgoes, events, hevents, ?_⟩
  exact hquery [⟨.word, "DELETE", 1⟩] [] [⟨.semicolon, ";", 6⟩] _ _ rfl

end Scan

/-! ## What stands in a query that begins with `WITH` -/

namespace Token

/-- A word and a sign are no parentheses. -/
theorem notParen_of_kind {token : Token}
    (h : token.kind = .word ∨ token.kind = .quotedIdent ∨ token.kind = .symbol) :
    token.kind ≠ .openParen ∧ token.kind ≠ .closeParen := by
  rcases h with h | h | h <;> rw [h] <;> decide

/-- A query with a name: the name, the list of its columns if there is one, `AS`, and the query in
parentheses. -/
structure NamedQuery where
  name : Token
  columns : Option Group
  link : Token
  query : Group
  isName : name.kind = .quotedIdent ∨ name.kind = .word ∧
    name.isWord "RECURSIVE" = false ∧ Scan.statementWords.any name.isWord = false
  isAs : link.isWord "AS" = true

namespace NamedQuery

variable (named : NamedQuery)

theorem kind_name : named.name.kind = .word ∨ named.name.kind = .quotedIdent :=
  named.isName.elim .inr fun h => .inl h.1

theorem kind_link : named.link.kind = .word :=
  (isWord_iff.mp named.isAs).1

/-- The parts of a query with a name. -/
def parts : List Part :=
  .single named.name (notParen_of_kind (named.kind_name.imp id .inl)) ::
    (named.columns.toList.map .group ++
      [.single named.link (notParen_of_kind (.inl named.kind_link)), .group named.query])

end NamedQuery

/-- One query with a name or more, with commas between them. -/
inductive NamedQueries where
  | last (named : NamedQuery)
  | more (named : NamedQuery) (comma : Token) (isComma : comma.isSymbol "," = true)
    (rest : NamedQueries)

/-- The parts of queries with names. -/
def NamedQueries.parts : NamedQueries → List Part
  | last named => named.parts
  | more named comma isComma rest =>
    named.parts ++
      .single comma (notParen_of_kind (.inr (.inr (isSymbol_iff.mp isComma).1))) :: rest.parts

/-- A query that begins with `WITH`: the queries with names that it announces, the main `SELECT`,
and the parts after it. -/
structure WithQuery where
  opening : Token
  queries : NamedQueries
  select : Token
  tail : List Part
  isWith : opening.isWord "WITH" = true
  isSelect : select.isWord "SELECT" = true

namespace WithQuery

variable (query : WithQuery)

/-- The tokens of a query that begins with `WITH`. -/
def tokens : List Token :=
  query.opening :: (ofParts query.queries.parts ++ query.select :: ofParts query.tail)

/-- All groups of a query that begins with `WITH`. -/
def groups : List Group :=
  groupsOf query.queries.parts ++ groupsOf query.tail

/-- The last token of a query that begins with `WITH`. -/
def last : Token :=
  query.tokens.getLast (List.cons_ne_nil _ _)

theorem last_eq : query.last = ((ofParts query.tail).getLast?.getD query.select) := by
  have hlast : query.tokens.getLast? = some ((ofParts query.tail).getLast?.getD query.select) := by
    rw [tokens, List.getLast?_cons, List.getLast?_append, List.getLast?_cons]
    rfl
  exact Option.some.inj ((List.getLast?_eq_some_getLast (List.cons_ne_nil _ _)).symm.trans hlast)

end WithQuery

end Token

namespace Scan

variable {state : State} {before : Option Token} {token : Token} {after ahead : List Token}
  {parts : List Token.Part}

/-- Whether a token is no terminator and no word that may begin a statement. -/
def isPlain (token : Token) : Bool :=
  token.kind ≠ .semicolon && !token.isSymbol "/" && !statementWords.any token.isWord

/-- A token that is plain and no parenthesis does nothing. -/
theorem act_of_isPlain (hplain : isPlain token = true)
    (notParen : token.kind ≠ .openParen ∧ token.kind ≠ .closeParen) (state : State)
    (before : Option Token) (after : List Token) :
    act state before token after = .ok (state, []) := by
  simp only [isPlain, Bool.and_eq_true, decide_eq_true_eq, Bool.not_eq_true'] at hplain
  obtain ⟨⟨notSemicolon, notSlash⟩, notKeyword⟩ := hplain
  have hslash : isLoneSlash before token after = false := by simp [isLoneSlash, notSlash]
  refine act_eq_self notParen notSemicolon hslash fun kind awaitsQuery htoken hkeyword => ?_
  rw [keywordKind?_eq_none htoken notKeyword] at hkeyword
  cases hkeyword

/-- Parts whose single tokens are plain pass in every state. -/
theorem passes_of_isPlain
    (hplain : ∀ token notParen, .single token notParen ∈ parts → isPlain token = true)
    (hslash : ∀ group ∈ Token.groupsOf parts, hasLoneSlash none group.tokens = false)
    (state : State) (ahead : List Token) (before : Option Token) :
    Passes state ahead before parts := by
  induction parts generalizing before with
  | nil => exact .nil
  | cons part rest ih =>
    have hrest : ∀ token notParen, .single token notParen ∈ rest → isPlain token = true :=
      fun token notParen hmem => hplain token notParen (List.mem_cons_of_mem part hmem)
    cases part with
    | single token notParen =>
      rw [Token.groupsOf_single] at hslash
      refine .single (fun lastLine => ?_) (ih hrest hslash (some token))
      exact act_of_isPlain (hplain token notParen List.mem_cons_self) notParen _ _ _
    | group group =>
      rw [Token.groupsOf_group, List.forall_mem_cons] at hslash
      exact .group hslash.1 (ih hrest hslash.2 (some group.closing))

/-- A word that may begin no statement is plain. -/
theorem isPlain_of_word (hword : token.kind = .word)
    (h : statementWords.any token.isWord = false) : isPlain token = true := by
  simp [isPlain, hword, Token.isSymbol, h]

theorem isPlain_of_kind_ne (hword : token.kind ≠ .word) (hsemicolon : token.kind ≠ .semicolon)
    (hslash : token.isSymbol "/" = false) : isPlain token = true := by
  have hwords : statementWords.any token.isWord = false := by simp [Token.isWord, hword]
  simp [isPlain, hsemicolon, hslash, hwords]

theorem isPlain_of_mem_named {named : Token.NamedQuery}
    {notParen : token.kind ≠ .openParen ∧ token.kind ≠ .closeParen}
    (hmem : .single token notParen ∈ named.parts) : isPlain token = true := by
  simp only [Token.NamedQuery.parts, List.mem_cons, List.mem_append, List.mem_map,
    Token.Part.single.injEq, reduceCtorEq, and_false, exists_false, List.not_mem_nil, or_false,
    false_or] at hmem
  rcases hmem with rfl | rfl
  · rcases named.isName with hquoted | ⟨hword, -, hnone⟩
    · refine isPlain_of_kind_ne ?_ ?_ ?_ <;> simp [hquoted, Token.isSymbol]
    · exact isPlain_of_word hword hnone
  · refine isPlain_of_word named.kind_link ?_
    have has := (Token.isWord_iff.mp named.isAs).2
    simp [statementWords, Token.isWord, has]

/-- What stands between a `WITH` and its main `SELECT` is plain. -/
theorem isPlain_of_mem_queries {queries : Token.NamedQueries}
    {notParen : token.kind ≠ .openParen ∧ token.kind ≠ .closeParen}
    (hmem : .single token notParen ∈ queries.parts) : isPlain token = true := by
  induction queries with
  | last named => exact isPlain_of_mem_named hmem
  | more named comma isComma rest ih =>
    rcases List.mem_append.mp hmem with hnamed | hmore
    · exact isPlain_of_mem_named hnamed
    · rcases List.mem_cons.mp hmore with hcomma | hrest
      · cases hcomma
        obtain ⟨hkind, htext⟩ := Token.isSymbol_iff.mp isComma
        refine isPlain_of_kind_ne ?_ ?_ ?_ <;> simp [hkind, htext, Token.isSymbol]
      · exact ih hrest

/-! ## Queries that begin with `WITH` -/

/-- A name and its list of columns or `AS` make a `WITH` before them begin a query. -/
theorem startsQuery_named (named : Token.NamedQuery) (after : List Token) :
    startsQuery (Token.ofParts named.parts ++ after) = true := by
  have hkind : named.name.kind = .word ∨ named.name.kind = .quotedIdent := named.kind_name
  cases hcolumns : named.columns with
  | none => simp [Token.NamedQuery.parts, hcolumns, startsQuery, hkind, named.isAs]
  | some columns =>
    simp [Token.NamedQuery.parts, hcolumns, startsQuery, hkind, Token.Group.tokens,
      columns.kind_opening]

theorem startsQuery_queries (queries : Token.NamedQueries) (after : List Token) :
    startsQuery (Token.ofParts queries.parts ++ after) = true := by
  cases queries with
  | last named => exact startsQuery_named named after
  | more named comma isComma rest =>
    rw [Token.NamedQueries.parts, Token.ofParts_append, List.append_assoc]
    exact startsQuery_named named _

/-- A `WITH` before a name is a keyword that announces a query. -/
theorem keywordKind?_with (query : Token.WithQuery) (after : List Token) :
    keywordKind? query.opening (Token.ofParts query.queries.parts ++ after) =
      some (.select, true) := by
  obtain ⟨-, hkeyword⟩ := Token.isWord_iff.mp query.isWith
  have hnone : StatementKind.ofKeyword? "WITH" = none := by decide
  simp [keywordKind?, hkeyword, hnone, query.isWith, startsQuery_queries]

/-- What a query that begins with `WITH` tells where nothing is open. -/
theorem exists_run_withQuery (query : Token.WithQuery)
    (hslash : ∀ group ∈ query.groups, hasLoneSlash none group.tokens = false)
    (hplain : ∀ token notParen, .single token notParen ∈ query.tail → isPlain token = true) :
    ∃ events, Event.ofGroups query.groups = .ok events ∧
      ∀ lastLine before, before.any endsInClause = false →
        (∀ last ∈ before, last.kind ≠ .openParen) →
        run ⟨[], 0, lastLine⟩ before query.tokens =
          .ok (⟨[⟨.select, 0, false, false⟩], 0, query.last.line⟩,
            .enter .select query.opening.line :: events) := by
  have hannounces : ∀ token notParen, .single token notParen ∈ query.queries.parts →
      isPlain token = true := fun _ _ hmem => isPlain_of_mem_queries hmem
  -- The main `SELECT` stands between two lists of parts that pass: before it the query is awaited,
  -- after it no longer.
  have hqueries := passes_of_isPlain hannounces
    (fun group hgroup => hslash group (List.mem_append_left _ hgroup))
    ⟨[⟨.select, 0, false, true⟩], 0, query.opening.line⟩
    (query.select :: Token.ofParts query.tail) (some query.opening)
  have htail := passes_of_isPlain hplain
    (fun group hgroup => hslash group (List.mem_append_right _ hgroup))
    ⟨[⟨.select, 0, false, false⟩], 0, query.select.line⟩ [] (some query.select)
  obtain ⟨events, hevents, hannounced⟩ := hqueries.exists_run (by simp) query.opening.line
  obtain ⟨more, hmore, hmain⟩ := htail.exists_run (by simp) query.select.line
  refine ⟨events ++ more, Event.ofGroups_append hevents hmore, ?_⟩
  intro lastLine before hclause hparen
  have hopens : step ⟨[], 0, lastLine⟩ before query.opening
      (Token.ofParts query.queries.parts ++ query.select :: Token.ofParts query.tail) =
        .ok (⟨[⟨.select, 0, false, true⟩], 0, query.opening.line⟩,
          [.enter .select query.opening.line]) :=
    step_keyword_of_ne_openParen hparen hclause rfl (Token.isWord_iff.mp query.isWith).1
      (keywordKind?_with query _)
  have hfinds (lastLine : Nat) (before : Option Token) (after : List Token) :
      step ⟨[⟨.select, 0, false, true⟩], 0, lastLine⟩ before query.select after =
        .ok (⟨[⟨.select, 0, false, false⟩], 0, query.select.line⟩, []) := by
    have hword : query.select.kind = .word := (Token.isWord_iff.mp query.isSelect).1
    have hkeyword := keywordKind?_of_isWord .select (by decide) query.isSelect after
    rw [step_keyword hword hkeyword]
    rfl
  rw [runUpTo_nil] at hmain
  refine run_cons_eq_ok.mpr ⟨_, [.enter .select query.opening.line], _, hopens, ?_, rfl⟩
  rw [run_append, hannounced]
  simp only [Except.bind, run, hfinds, hmain, Except.map, List.nil_append]
  rw [query.last_eq]
  cases (Token.ofParts query.tail).getLast? <;> rfl

/-- Right after an opening parenthesis, a parenthesis is open. -/
theorem depth_pos_of_openParen {final : State} {told : List Event} {front : List Token}
    (hrun : runUpTo ahead {} none front = .ok (final, told)) :
    ∀ paren ∈ front.getLast?, paren.kind = .openParen → 0 < final.depth := by
  have hkeeps := runUpTo_keeps
    (fun state before => ∀ paren ∈ before, paren.kind = .openParen → 0 < state.depth)
    (fun {state next before token after events} _ hstep paren hparen hkind => by
      cases hparen
      simp only [step, act, hkind, Except.map] at hstep
      cases hstep
      exact Nat.succ_pos _)
    (fun _ hparen => by cases hparen) hrun
  rwa [Option.or_none] at hkeeps

end Scan

open Scan

/-- **A query that begins with `WITH` is one statement around the events of its groups,** from the
line of the `WITH` to that of the last token; on whichever line the main `SELECT` is, it tells
nothing. The same holds after other tokens, if these leave nothing open and do not keep the `WITH`
in a clause. -/
theorem Event.ofTokens_withQuery (query : Token.WithQuery)
    (hslash : ∀ group ∈ query.groups, hasLoneSlash none group.tokens = false)
    (hplain : ∀ token notParen, .single token notParen ∈ query.tail → isPlain token = true) :
    ∃ events, Event.ofGroups query.groups = .ok events ∧
      Event.ofTokens query.tokens = .ok
        (.enter .select query.opening.line :: (events ++ [.exit .select query.last.line])) ∧
      ∀ (front : List Token) (state : State) (told : List Event),
        runUpTo query.tokens {} none front = .ok (state, told) →
        state.depth = 0 → state.statements = [] → front.getLast?.any endsInClause = false →
        Event.ofTokens (front ++ query.tokens) = .ok (told ++
          .enter .select query.opening.line :: (events ++ [.exit .select query.last.line])) := by
  obtain ⟨events, hevents, hquery⟩ := exists_run_withQuery query hslash hplain
  have hafter (front : List Token) (state : State) (told : List Event)
      (hfront : runUpTo query.tokens {} none front = .ok (state, told)) (hdepth : state.depth = 0)
      (hnothing : state.statements = []) (hclause : front.getLast?.any endsInClause = false) :
      Event.ofTokens (front ++ query.tokens) = .ok (told ++
        .enter .select query.opening.line :: (events ++ [.exit .select query.last.line])) := by
    have hparen : ∀ last ∈ front.getLast?, last.kind ≠ .openParen := by
      intro last hlast hkind
      have hpos := depth_pos_of_openParen hfront last hlast hkind
      omega
    obtain ⟨statements, depth, lastLine⟩ := state
    subst hdepth hnothing
    have hrun := hquery lastLine front.getLast? hclause hparen
    rw [Event.ofTokens, run_append, hfront]
    simp only [Except.bind, Option.or_none, hrun, Except.map]
    simp [State.closeDownTo, State.exitEvent]
  exact ⟨events, hevents, hafter [] {} [] rfl rfl rfl rfl, hafter⟩

/-- Two queries with names, one with a list of columns and one with a `WITH` of its own, and a main
`SELECT` on a later line. -/
def twoNamedQueries : Token.WithQuery where
  opening := ⟨.word, "With", 1⟩
  queries := .more
    { name := ⟨.word, "x", 1⟩
      columns := some ⟨⟨.openParen, "(", 1⟩, [⟨.word, "a", 1⟩], ⟨.closeParen, ")", 1⟩, rfl, rfl,
        .other (by decide) (by decide) .nil⟩
      link := ⟨.word, "as", 1⟩
      query := ⟨⟨.openParen, "(", 1⟩, [⟨.word, "SELECT", 2⟩], ⟨.closeParen, ")", 2⟩, rfl, rfl,
        .other (by decide) (by decide) .nil⟩
      isName := by decide
      isAs := by decide }
    ⟨.symbol, ",", 2⟩ (by decide) (.last
    { name := ⟨.quotedIdent, "SELECT", 2⟩
      columns := none
      link := ⟨.word, "AS", 2⟩
      query := queryGroup
      isName := by decide
      isAs := by decide })
  select := ⟨.word, "SELECT", 6⟩
  tail := [.single ⟨.symbol, "*", 6⟩ (by decide),
    .group ⟨⟨.openParen, "(", 6⟩, [⟨.word, "SELECT", 7⟩], ⟨.closeParen, ")", 7⟩, rfl, rfl,
      .other (by decide) (by decide) .nil⟩]
  isWith := by decide
  isSelect := by decide

/-- By itself and after a semicolon, all of it is one query from the first line to the last. -/
theorem Event.ofTokens_withQuery_two :
    (∀ group ∈ twoNamedQueries.groups, hasLoneSlash none group.tokens = false) ∧
    (∀ token notParen, .single token notParen ∈ twoNamedQueries.tail → isPlain token = true) ∧
    ∃ events, Event.ofGroups twoNamedQueries.groups = .ok events ∧
      Event.ofTokens twoNamedQueries.tokens =
        .ok (.enter .select 1 :: (events ++ [.exit .select 7])) ∧
      Event.ofTokens (⟨.semicolon, ";", 1⟩ :: twoNamedQueries.tokens) =
        .ok (.enter .select 1 :: (events ++ [.exit .select 7])) := by
  have hslash : ∀ group ∈ twoNamedQueries.groups, hasLoneSlash none group.tokens = false := by
    simp only [twoNamedQueries, Token.WithQuery.groups, Token.NamedQueries.parts,
      Token.NamedQuery.parts]
    decide
  have hplain : ∀ token notParen, .single token notParen ∈ twoNamedQueries.tail →
      isPlain token = true := by
    intro token notParen hmem
    rcases List.mem_cons.mp hmem with hstar | hgroup
    · cases hstar
      decide
    · cases List.mem_singleton.mp hgroup
  obtain ⟨events, hevents, halone, hafter⟩ := ofTokens_withQuery twoNamedQueries hslash hplain
  exact ⟨hslash, hplain, events, hevents, halone, hafter [⟨.semicolon, ";", 1⟩] _ _ rfl rfl rfl rfl⟩

end DmlOutline
