import DmlOutline.Proofs.ClauseKeywords

/-!
# Tokens that are alike

Of a token the scan looks at the kind and the line, of a sign also at the text, and of a word at
whether it is one of a few words. So texts that are alike in all this have the same events, whatever
data and names they hold. Of lines the scan asks only which of two is the earlier, so a text that
stands further down has its events further down.

* `Scan.vocabulary` — the words that the scan tells from others.
* `Token.Alike` — tokens that differ in nothing else.
* `Token.later`, `Event.later`, `Error.later` — the same some lines further down.

Principal results: `Scan.step_alike`, `Scan.run_alike`: alike tokens do the same;
`Event.ofTokens_alike`: the events depend on neither data, names nor where the text begins.
-/

namespace DmlOutline

open Scan

/-- The words that the scan tells from others: those that may begin a statement, those that make a
`WITH` begin a query, and those after which a keyword begins none. -/
def Scan.vocabulary : List String :=
  statementWords ++ ["RECURSIVE", "AS"] ++ clauseWords ++ continuationWords

/-- A token on a line further down. -/
def Token.later (shift : Nat) (token : Token) : Token :=
  { token with line := token.line + shift }

/-- An event on a line further down. -/
def Event.later (shift : Nat) : Event → Event
  | enter kind line => enter kind (line + shift)
  | exit kind line => exit kind (line + shift)

/-- A failure with its line further down. -/
def Error.later (shift : Nat) : Error → Error
  | parse line fault => parse (line + shift) fault
  | error => error

theorem Event.later_zero : Event.later 0 = id := by
  funext event
  cases event <;> rfl

/-- Tokens of one kind on one line, with one text if they are signs. If they are words, they are the
same up to the case of ASCII letters, or the scan knows neither. -/
structure Token.Alike (token other : Token) : Prop where
  kind_eq : other.kind = token.kind
  line_eq : other.line = token.line
  symbol : token.kind = .symbol → other.text = token.text
  word : token.kind = .word →
    other.keyword = token.keyword ∨ token.keyword ∉ vocabulary ∧ other.keyword ∉ vocabulary

namespace Token

variable {token other : Token}

theorem Alike.refl (token : Token) : token.Alike token :=
  ⟨rfl, rfl, fun _ => rfl, fun _ => .inl rfl⟩

/-- The second token is like the first one further down. -/
def AlikeLater (shift : Nat) (token other : Token) : Prop :=
  (token.later shift).Alike other

namespace AlikeLater

variable {shift : Nat}

theorem kind_eq (h : token.AlikeLater shift other) : other.kind = token.kind := by
  have halike : (token.later shift).Alike other := h
  exact halike.kind_eq

theorem line_eq (h : token.AlikeLater shift other) : other.line = token.line + shift := by
  have halike : (token.later shift).Alike other := h
  exact halike.line_eq

theorem isSymbol_eq (h : token.AlikeLater shift other) (text : String) :
    other.isSymbol text = token.isSymbol text := by
  by_cases hkind : token.kind = .symbol
  · have htext : other.text = token.text := h.symbol hkind
    simp [isSymbol, h.kind_eq, htext]
  · simp [isSymbol, h.kind_eq, hkind]

theorem isWord_eq (h : token.AlikeLater shift other) {word : String} (hword : word ∈ vocabulary) :
    other.isWord word = token.isWord word := by
  by_cases hkind : token.kind = .word
  · rcases h.word hkind with hsame | ⟨htoken, hother⟩
    · have hsame : other.keyword = token.keyword := hsame
      simp [isWord, h.kind_eq, hsame]
    · have htoken : token.keyword ≠ word := fun heq => htoken (heq ▸ hword)
      have hother : other.keyword ≠ word := fun heq => hother (heq ▸ hword)
      simp [isWord, htoken, hother]
  · simp [isWord, h.kind_eq, hkind]

theorem any_isWord_eq (h : token.AlikeLater shift other) {words : List String}
    (hwords : words ⊆ vocabulary) : words.any other.isWord = words.any token.isWord := by
  induction words with
  | nil => rfl
  | cons word rest ih =>
    obtain ⟨hword, hrest⟩ := List.cons_subset.mp hwords
    rw [List.any_cons, List.any_cons, h.isWord_eq hword, ih hrest]

end AlikeLater

end Token

namespace Scan

variable {shift line noted : Nat} {state : State} {before before' : Option Token}
  {token other : Token} {after others tokens : List Token} {kind : StatementKind}
  {awaitsQuery : Bool}

/-! ## What a step looks at -/

theorem endsInClause_alike (h : token.AlikeLater shift other) :
    endsInClause other = endsInClause token := by
  have hwords : clauseWords ⊆ vocabulary := fun word hmem => by simp [vocabulary, hmem]
  rw [endsInClause, endsInClause, h.any_isWord_eq hwords, h.isSymbol_eq, h.isSymbol_eq]

theorem continues_alike (h : token.AlikeLater shift other) : continues other = continues token := by
  have hwords : continuationWords ⊆ vocabulary := fun word hmem => by simp [vocabulary, hmem]
  rw [continues, continues, endsInClause_alike h, h.any_isWord_eq hwords]

theorem startsQuery_alike (h : List.Forall₂ (Token.AlikeLater shift) after others) :
    startsQuery others = startsQuery after := by
  have hrecursive : "RECURSIVE" ∈ vocabulary := by decide
  have has : "AS" ∈ vocabulary := by decide
  cases h with
  | nil => rfl
  | cons hname hrest =>
    cases hrest with
    | nil => simp [startsQuery, hname.isWord_eq hrecursive, hname.kind_eq]
    | cons hnext hrest =>
      simp [startsQuery, hname.isWord_eq hrecursive, hname.kind_eq, hnext.isWord_eq has,
        hnext.kind_eq]

theorem isLoneSlash_alike (hbefore : Option.Rel (Token.AlikeLater shift) before before')
    (htoken : token.AlikeLater shift other)
    (hafter : List.Forall₂ (Token.AlikeLater shift) after others) :
    isLoneSlash before' other others = isLoneSlash before token after := by
  have hfirst : before'.all (·.line < other.line) = before.all (·.line < token.line) := by
    cases hbefore with
    | none => rfl
    | some hlast => simp [hlast.line_eq, htoken.line_eq]
  have hnext : others.head?.all (other.line < ·.line) = after.head?.all (token.line < ·.line) := by
    cases hafter with
    | nil => rfl
    | cons hnext => simp [hnext.line_eq, htoken.line_eq]
  rw [isLoneSlash, isLoneSlash, htoken.isSymbol_eq, hfirst, hnext]

/-- Alike words are the same keywords. -/
theorem keywordKind?_alike (hkind : token.kind = .word) (htoken : token.AlikeLater shift other)
    (hafter : List.Forall₂ (Token.AlikeLater shift) after others) :
    keywordKind? other others = keywordKind? token after := by
  have hwith : "WITH" ∈ vocabulary := by decide
  rcases htoken.word hkind with hsame | ⟨htokenNot, hotherNot⟩
  · have hsame : other.keyword = token.keyword := hsame
    rw [keywordKind?, keywordKind?, hsame, htoken.isWord_eq hwith, startsQuery_alike hafter]
  -- Two words that the scan does not know may differ in any way, and neither is a keyword.
  · have hnone {word : Token} (hword : word.keyword ∉ vocabulary) :
        statementWords.any word.isWord = false := by
      refine Bool.eq_false_iff.mpr fun hany => hword ?_
      obtain ⟨text, hmem, hisWord⟩ := List.any_eq_true.mp hany
      rw [(Token.isWord_iff.mp hisWord).2]
      simp [vocabulary, hmem]
    rw [keywordKind?_eq_none hkind (hnone htokenNot),
      keywordKind?_eq_none (htoken.kind_eq.trans hkind) (hnone hotherNot)]

theorem role_alike (hbefore : Option.Rel (Token.AlikeLater shift) before before') :
    role { state with lastLine := noted } kind (line + shift) before' =
      role state kind line before := by
  have hclause : before'.any endsInClause = before.any endsInClause := by
    cases hbefore with
    | none => rfl
    | some hlast => exact endsInClause_alike hlast
  have hcontinues : before'.any continues = before.any continues := by
    cases hbefore with
    | none => rfl
    | some hlast => exact continues_alike hlast
  have hleads : before'.any (·.line < line + shift) = before.any (·.line < line) := by
    cases hbefore with
    | none => rfl
    | some hlast => simp [hlast.line_eq]
  simp only [role, hclause, hcontinues, hleads]
  rfl

/-! ## Steps over alike tokens -/

/-- The events of closing statements are further down. What is noted as the last line matters only
where a statement is open. -/
theorem closeDownTo_later (hnoted : state.statements ≠ [] → noted = state.lastLine + shift)
    (depth : Nat) (closing : Option Nat) :
    ({ state with lastLine := noted } : State).closeDownTo depth (closing.map (· + shift)) =
      ({ (state.closeDownTo depth closing).1 with lastLine := noted },
        (state.closeDownTo depth closing).2.map (Event.later shift)) := by
  simp only [State.closeDownTo, Prod.mk.injEq, true_and, List.map_map]
  refine List.map_congr_left fun frame hframe => ?_
  have hopen : state.statements ≠ [] := List.ne_nil_of_mem (List.takeWhile_subset _ hframe)
  cases closing with
  | none => simp [State.exitEvent, Event.later, hnoted hopen]
  | some line => simp [State.exitEvent, Event.later, hnoted hopen, apply_ite (· + shift)]

theorem opening_later (hbefore : Option.Rel (Token.AlikeLater shift) before before') :
    opening { state with lastLine := noted } kind (line + shift) before' awaitsQuery =
      ({ (opening state kind line before awaitsQuery).1 with lastLine := noted },
        (opening state kind line before awaitsQuery).2.map (Event.later shift)) := by
  cases hbefore with
  | none => rfl
  | @some last last' hlast =>
    by_cases hparen : last.kind = .openParen
    · rw [opening_of_openParen hparen, opening_of_openParen (hlast.kind_eq.trans hparen),
        hlast.line_eq]
      rfl
    · have hother : last'.kind ≠ .openParen := fun hkind => hparen (hlast.kind_eq.symm.trans hkind)
      rw [opening_of_ne_openParen (by simpa using hother),
        opening_of_ne_openParen (by simpa using hparen)]
      rfl

theorem foundQuery_noted (state : State) (noted : Nat) :
    ({ state with lastLine := noted } : State).foundQuery =
      { state.foundQuery with lastLine := noted } := by
  obtain ⟨statements, depth, lastLine⟩ := state
  cases statements <;> rfl

/-- A keyword does the same further down. -/
theorem keyword_later (hnoted : state.statements ≠ [] → noted = state.lastLine + shift)
    (hbefore : Option.Rel (Token.AlikeLater shift) before before') :
    keyword { state with lastLine := noted } kind (line + shift) before' awaitsQuery =
      ({ (keyword state kind line before awaitsQuery).1 with lastLine := noted },
        (keyword state kind line before awaitsQuery).2.map (Event.later shift)) := by
  unfold keyword
  rw [role_alike hbefore]
  cases role state kind line before with
  | clause => rfl
  | withBody => simp only [foundQuery_noted, List.map_nil]
  | opens => exact opening_later hbefore
  | restarts =>
    have hclosed := closeDownTo_later hnoted state.depth none
    rw [Option.map_none] at hclosed
    simp only [hclosed, opening_later hbefore, List.map_append]

/-- **A token like another one further down does the same further down.** -/
theorem act_later (hnoted : state.statements ≠ [] → noted = state.lastLine + shift)
    (hbefore : Option.Rel (Token.AlikeLater shift) before before')
    (htoken : token.AlikeLater shift other)
    (hafter : List.Forall₂ (Token.AlikeLater shift) after others) :
    act { state with lastLine := noted } before' other others =
      ((act state before token after).map fun (next, told) =>
        ({ next with lastLine := noted }, told.map (Event.later shift))).mapError
          (Error.later shift) := by
  have hclosed := closeDownTo_later hnoted state.depth none
  have hended := closeDownTo_later hnoted 0 none
  rw [Option.map_none] at hclosed hended
  unfold act
  rw [htoken.kind_eq, htoken.line_eq, isLoneSlash_alike hbefore htoken hafter]
  cases hkind : token.kind with
  | openParen => rfl
  | closeParen =>
    by_cases hdepth : state.depth = 0
    · simp only [hdepth, if_true]
      rfl
    · have hparen := closeDownTo_later hnoted state.depth (some token.line)
      rw [Option.map_some] at hparen
      simp only [hdepth, if_false, hparen]
      rfl
  | semicolon =>
    simp only [hclosed]
    rfl
  | symbol =>
    cases isLoneSlash before token after with
    | false => rfl
    | true =>
      simp only [if_true, hended]
      rfl
  | word =>
    simp only [keywordKind?_alike hkind htoken hafter]
    cases keywordKind? token after with
    | none => rfl
    | some found =>
      obtain ⟨kind, awaitsQuery⟩ := found
      simp only [keyword_later hnoted hbefore]
      rfl
  | quotedIdent | literal | number => rfl

/-- What a run reaches and tells, further down. -/
def resultLater (shift : Nat) (result : State × List Event) : State × List Event :=
  ({ result.1 with lastLine := result.1.lastLine + shift }, result.2.map (Event.later shift))

theorem step_alike (hnoted : state.statements ≠ [] → noted = state.lastLine + shift)
    (hbefore : Option.Rel (Token.AlikeLater shift) before before')
    (htoken : token.AlikeLater shift other)
    (hafter : List.Forall₂ (Token.AlikeLater shift) after others) :
    step { state with lastLine := noted } before' other others =
      ((step state before token after).map (resultLater shift)).mapError (Error.later shift) := by
  rw [step, step, act_later hnoted hbefore htoken hafter, htoken.line_eq]
  cases act state before token after <;> rfl

/-! ## Runs over alike tokens -/

/-- **Tokens like others further down do the same further down.** What is noted as the last line
matters only if it is read before the first of them notes its own. -/
theorem run_alike (h : List.Forall₂ (Token.AlikeLater shift) tokens others) (state : State)
    (noted : Nat)
    (hnoted : tokens = [] ∨ state.statements ≠ [] → noted = state.lastLine + shift)
    (hbefore : Option.Rel (Token.AlikeLater shift) before before') :
    run { state with lastLine := noted } before' others =
      ((run state before tokens).map (resultLater shift)).mapError (Error.later shift) := by
  -- After the first token the last line is that of a token on both sides; only before it, where
  -- nothing is open yet, the two may be apart by something else.
  induction h generalizing state noted before before' with
  | nil =>
    rw [hnoted (.inl rfl)]
    rfl
  | @cons token other after others htoken hafter ih =>
    rw [run, run, step_alike (fun hopen => hnoted (.inr hopen)) hbefore htoken hafter]
    cases step state before token after with
    | error error => rfl
    | ok result =>
      obtain ⟨next, told⟩ := result
      have hrest := ih next (next.lastLine + shift) (fun _ => rfl) (.some htoken)
      simp only [Except.map, Except.mapError, resultLater] at hrest ⊢
      rw [hrest]
      cases run next (some token) after with
      | error error => rfl
      | ok result => simp only [List.map_append]

end Scan

/-- Tokens like others further down have the same events further down. -/
theorem Event.ofTokens_later {shift : Nat} {tokens others : List Token}
    (h : List.Forall₂ (Token.AlikeLater shift) tokens others) :
    Event.ofTokens others =
      ((Event.ofTokens tokens).map (List.map (Event.later shift))).mapError
        (Error.later shift) := by
  cases h with
  | nil => rfl
  | @cons token other after others htoken hafter =>
    have hrun := run_alike (.cons htoken hafter) {} 0 (by simp) .none
    rw [Event.ofTokens, Event.ofTokens, hrun]
    cases run {} none (token :: after) with
    | error error => rfl
    | ok result =>
      obtain ⟨final, told⟩ := result
      have hnoted : final.statements ≠ [] → final.lastLine + shift = final.lastLine + shift :=
        fun _ => rfl
      have hclosed := closeDownTo_later hnoted 0 none
      rw [Option.map_none] at hclosed
      simp only [Except.map, Except.mapError, resultLater, hclosed, List.map_append]

/-- **The events depend neither on data nor on names, and move with the lines.** Tokens that are
alike have the same events or the same failure; and if all tokens stand some lines further down, so
do the events, or the failure. -/
theorem Event.ofTokens_alike :
    (∀ tokens others : List Token, List.Forall₂ Token.Alike tokens others →
      Event.ofTokens others = Event.ofTokens tokens) ∧
    ∀ (shift : Nat) (tokens : List Token),
      Event.ofTokens (tokens.map (Token.later shift)) =
        ((Event.ofTokens tokens).map (List.map (Event.later shift))).mapError
          (Error.later shift) := by
  constructor
  · intro tokens others halike
    have hlater : List.Forall₂ (Token.AlikeLater 0) tokens others := halike
    rw [Event.ofTokens_later hlater]
    cases Event.ofTokens tokens with
    | error error => cases error <;> rfl
    | ok events => simp only [Except.map, Except.mapError, Event.later_zero, List.map_id]
  · intro shift tokens
    refine Event.ofTokens_later (List.forall₂_map_right_iff.mpr ?_)
    exact List.forall₂_same.mpr fun token _ => Token.Alike.refl (token.later shift)

/-- A query of a query, with data and names that spell keywords. -/
def keywordNames : List Token :=
  [⟨.word, "WITH", 1⟩, ⟨.quotedIdent, "SELECT", 1⟩, ⟨.word, "AS", 1⟩, ⟨.openParen, "(", 1⟩,
    ⟨.word, "SELECT", 2⟩, ⟨.literal, "DELETE", 2⟩, ⟨.symbol, ",", 2⟩, ⟨.word, "insert", 2⟩,
    ⟨.closeParen, ")", 3⟩, ⟨.word, "select", 4⟩, ⟨.word, "price", 4⟩]

/-- The same query with other data and names, and with other letters in upper case. -/
def plainNames : List Token :=
  [⟨.word, "With", 1⟩, ⟨.quotedIdent, "x", 1⟩, ⟨.word, "as", 1⟩, ⟨.openParen, "(", 1⟩,
    ⟨.word, "select", 2⟩, ⟨.literal, "", 2⟩, ⟨.symbol, ",", 2⟩, ⟨.word, "INSERT", 2⟩,
    ⟨.closeParen, ")", 3⟩, ⟨.word, "SELECT", 4⟩, ⟨.word, "amount", 4⟩]

/-- Both have the same events, and a stray parenthesis is as much further down as the text. -/
theorem Event.ofTokens_alike_names :
    List.Forall₂ Token.Alike keywordNames plainNames ∧
    Event.ofTokens plainNames =
      .ok [.enter .select 1, .enter .select 1, .exit .select 3, .exit .select 4] ∧
    Event.ofTokens [⟨.word, "SELECT", 4⟩, ⟨.closeParen, ")", 5⟩] =
      .error (.parse 5 .unbalancedParenthesis) := by
  have halike : List.Forall₂ Token.Alike keywordNames plainNames := by
    repeat' constructor
    all_goals decide
  refine ⟨halike, ?_, ?_⟩
  · exact ofTokens_alike.1 keywordNames plainNames halike
  · exact ofTokens_alike.2 3 [⟨.word, "SELECT", 1⟩, ⟨.closeParen, ")", 2⟩]

end DmlOutline
