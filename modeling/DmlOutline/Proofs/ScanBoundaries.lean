import DmlOutline.Proofs.ScanComplete

/-!
# Terminators are boundaries

A scan looks one token back and two ahead. Nothing of that reaches across a terminator after which
nothing is open: the tokens before it are scanned as if they were all, and those after it as if they
were the first.

* `Token.endsStatements` — the signs that end statements: a semicolon and a slash.

Principal results: `Scan.run_append_sign`, `Scan.finish_run_after`: neither side of a sign sees the
other; `Event.ofTokens_append_terminator`: the events of both sides are told in turn.
-/

namespace DmlOutline

/-- A semicolon or a slash, the signs that may end statements. -/
def Token.endsStatements (token : Token) : Prop :=
  token.kind = .semicolon ∨ token.isSymbol "/" = true

namespace Scan

variable {state middle final : State} {before : Option Token} {token sign : Token}
  {front back rest : List Token} {events told : List Event}

/-! ## Signs that end statements -/

theorem kind_of_endsStatements (h : sign.endsStatements) :
    sign.kind = .semicolon ∨ sign.kind = .symbol :=
  h.imp id fun hslash => (Token.isSymbol_iff.mp hslash).1

/-- No keyword after such a sign belongs to a clause. -/
theorem endsInClause_of_endsStatements (h : sign.endsStatements) : endsInClause sign = false := by
  have hword : sign.kind ≠ .word := by
    rcases kind_of_endsStatements h with hkind | hkind <;> rw [hkind] <;> decide
  have hwords : clauseWords.any sign.isWord = false := by simp [Token.isWord, hword]
  rcases h with hkind | hslash
  · simp [endsInClause, hwords, Token.isSymbol, hkind]
  · obtain ⟨-, htext⟩ := Token.isSymbol_iff.mp hslash
    simp [endsInClause, hwords, Token.isSymbol, htext]

/-! ## The tokens before a sign -/

/-- A token that is no word, no quoted identifier and no opening parenthesis begins no query after a
`WITH`, and continues none. -/
theorem startsQuery_append (hword : sign.kind ≠ .word) (hident : sign.kind ≠ .quotedIdent)
    (hparen : sign.kind ≠ .openParen) (rest back : List Token) :
    startsQuery (rest ++ sign :: back) = startsQuery rest := by
  match rest with
  | [] => simp [startsQuery, Token.isWord, hword, hident]
  | [name] => simp [startsQuery, Token.isWord, hword, hparen]
  | name :: next :: rest => simp [startsQuery]

theorem startsQuery_append_sign (h : sign.endsStatements) (rest back : List Token) :
    startsQuery (rest ++ sign :: back) = startsQuery rest := by
  refine startsQuery_append ?_ ?_ ?_ rest back
  all_goals rcases kind_of_endsStatements h with hkind | hkind <;> rw [hkind] <;> decide

/-- A slash before the sign is alone on its line just when it is the last of the tokens before it, or
followed by a token on a later line. -/
theorem isLoneSlash_append_sign
    (hlast : ∀ last ∈ (token :: rest).getLast?, last.isSymbol "/" = true → last.line < sign.line)
    (back : List Token) :
    isLoneSlash before token (rest ++ sign :: back) = isLoneSlash before token rest := by
  cases rest with
  | nil =>
    cases hslash : token.isSymbol "/" with
    | false => simp [isLoneSlash, hslash]
    | true =>
      have hline : token.line < sign.line := hlast token (by simp) hslash
      simp [isLoneSlash, hline]
  | cons next rest => simp [isLoneSlash]

/-- **No step sees past a sign that ends statements.** -/
theorem step_append_sign (h : sign.endsStatements)
    (hlast : ∀ last ∈ (token :: rest).getLast?, last.isSymbol "/" = true → last.line < sign.line)
    (back : List Token) :
    step state before token (rest ++ sign :: back) = step state before token rest := by
  unfold step act keywordKind?
  rw [startsQuery_append_sign h, isLoneSlash_append_sign hlast]

/-- **The tokens before a sign that ends statements are scanned as if they were all.** -/
theorem runUpTo_sign (h : sign.endsStatements)
    (hlast : ∀ last ∈ front.getLast?, last.isSymbol "/" = true → last.line < sign.line)
    (back : List Token) : runUpTo (sign :: back) state before front = run state before front := by
  rw [← runUpTo_nil]
  induction front generalizing state before with
  | nil => rfl
  | cons token rest ih =>
    have hrest : ∀ last ∈ rest.getLast?, last.isSymbol "/" = true → last.line < sign.line := by
      intro last hmem
      refine hlast last ?_
      rw [Option.mem_def] at hmem ⊢
      rw [List.getLast?_cons, hmem, Option.getD_some]
    simp only [runUpTo, step_append_sign h hlast, List.append_nil, ih hrest]

theorem run_append_sign (h : sign.endsStatements)
    (hlast : ∀ last ∈ front.getLast?, last.isSymbol "/" = true → last.line < sign.line)
    (back : List Token) :
    run state before (front ++ sign :: back) = (run state before front).bind
      fun (middle, told) => (run middle (front.getLast?.or before) (sign :: back)).map
        fun (final, more) => (final, told ++ more) := by
  rw [run_append, runUpTo_sign h hlast]

/-! ## The tokens after a sign -/

/-- The events of a run and of closing what it leaves open. -/
def finish (result : State × List Event) : List Event :=
  result.2 ++ (result.1.closeDownTo 0 none).2

/-- Where nothing is open, a keyword depends on nothing before it but a word or sign that keeps it
in a clause. -/
theorem keyword_after_sign (h : sign.endsStatements) (lastLine : Nat) (kind : StatementKind)
    (line : Nat) (awaitsQuery : Bool) :
    keyword { lastLine } kind line (some sign) awaitsQuery =
      ({ (keyword {} kind line none awaitsQuery).1 with lastLine },
        (keyword {} kind line none awaitsQuery).2) := by
  have hclause := endsInClause_of_endsStatements h
  have hparen : sign.kind ≠ .openParen := by
    rcases kind_of_endsStatements h with hkind | hkind <;> rw [hkind] <;> decide
  have hrole : role { lastLine } kind line (some sign) = .opens := by
    simp [role, State.current, hclause]
  have hfirst : role {} kind line none = .opens := by simp [role, State.current]
  have hfilter : (some sign).filter (·.kind = .openParen) = none := by simp [hparen]
  simp only [keyword, hrole, hfirst, opening, hfilter, Option.filter_none]
  rfl

/-- **The first token after a sign that ends statements is scanned as if it were the first of all.**
A slash may be alone on its line for one of the two only, but where nothing is open it changes
nothing. -/
theorem step_after_sign (h : sign.endsStatements) (lastLine : Nat) (token : Token)
    (rest : List Token) :
    step { lastLine } (some sign) token rest = step {} none token rest := by
  unfold step act
  cases hkind : token.kind with
  | symbol =>
    cases isLoneSlash (some sign) token rest <;> cases isLoneSlash none token rest <;> rfl
  | word =>
    cases keywordKind? token rest with
    | none => rfl
    | some found =>
      obtain ⟨kind, awaitsQuery⟩ := found
      simp only [Except.map, keyword_after_sign h]
  | _ => rfl

/-- **The tokens after a sign that ends statements are scanned as if they were the first.** -/
theorem finish_run_after (h : sign.endsStatements) (lastLine : Nat) (back : List Token) :
    (run { lastLine } (some sign) back).map finish = Event.ofTokens back := by
  cases back with
  | nil => rfl
  | cons token rest =>
    rw [Event.ofTokens, run, run, step_after_sign h]
    rfl

/-! ## Terminators -/

/-- A terminator after which nothing is open and no parenthesis counts. -/
theorem step_terminator
    (h : isLoneSlash before sign back = true ∨ sign.kind = .semicolon ∧ state.depth = 0) :
    step state before sign back =
      .ok ({ lastLine := sign.line }, (state.closeDownTo 0 none).2) := by
  have hempty := statements_closeDownTo_zero state none
  rcases h with hslash | ⟨hkind, hdepth⟩
  · have hkind : sign.kind = .symbol := by
      by_contra hother
      rw [isLoneSlash_eq_false hother] at hslash
      cases hslash
    simp [step, act, hkind, hslash, Except.map, hempty]
  · simp [step, act, hkind, hdepth, Except.map, hempty]

end Scan

open Scan

/-- A run up to a terminator, and a scan of what is after it, make a scan of all. -/
theorem Event.ofTokens_append_sign {front back : List Token} {sign : Token}
    (h : sign.endsStatements)
    (hlast : ∀ last ∈ front.getLast?, last.isSymbol "/" = true → last.line < sign.line)
    (hends : ∀ middle told, run {} none front = .ok (middle, told) →
      isLoneSlash front.getLast? sign back = true ∨ sign.kind = .semicolon ∧ middle.depth = 0) :
    Event.ofTokens (front ++ sign :: back) =
      do return (← Event.ofTokens front) ++ (← Event.ofTokens back) := by
  rw [Event.ofTokens, run_append_sign h hlast, Event.ofTokens]
  cases hfront : run {} none front with
  | error error => rfl
  | ok result =>
    obtain ⟨middle, told⟩ := result
    have hstep := step_terminator (hends middle told hfront)
    have hback := finish_run_after h sign.line back
    rw [← hback]
    simp only [Except.bind, Option.or_none, run, hstep]
    cases run { lastLine := sign.line } (some sign) back with
    | error error => rfl
    | ok result => simp [Except.map, Except.bind, bind, pure, Except.pure, finish]

/-- **Terminators are hard boundaries.** At a slash alone on its line, and at a semicolon outside all
parentheses that does not follow a slash, the events are those of the tokens before it and then
those of the tokens after it, and the first failure of the two is the failure of all. -/
theorem Event.ofTokens_append_terminator (front back : List Token) (sign : Token) :
    (isLoneSlash front.getLast? sign back = true →
      Event.ofTokens (front ++ sign :: back) =
        do return (← Event.ofTokens front) ++ (← Event.ofTokens back)) ∧
    (sign.kind = .semicolon →
      (∀ middle told, run {} none front = .ok (middle, told) → middle.depth = 0) →
      (∀ last ∈ front.getLast?, last.isSymbol "/" = false) →
      Event.ofTokens (front ++ sign :: back) =
        do return (← Event.ofTokens front) ++ (← Event.ofTokens back)) := by
  constructor
  · intro hslash
    have halone := hslash
    simp only [isLoneSlash, Bool.and_eq_true] at halone
    refine Event.ofTokens_append_sign (.inr halone.1.1) ?_ fun _ _ _ => .inl hslash
    intro last hlast _
    have hbefore := halone.1.2
    rw [Option.mem_def.mp hlast] at hbefore
    simpa using hbefore
  · intro hkind hdepth hnot
    refine Event.ofTokens_append_sign (.inl hkind) ?_ fun middle told hrun =>
      .inr ⟨hkind, hdepth middle told hrun⟩
    intro last hlast hslash
    rw [hnot last hlast] at hslash
    cases hslash

/-- A slash forgets an open parenthesis and a query begun before it, and a semicolon the word that
would keep the next keyword in a clause. -/
theorem Event.ofTokens_append_terminator_open_query :
    isLoneSlash (some ⟨.word, "x", 2⟩) ⟨.symbol, "/", 3⟩ [⟨.word, "SELECT", 4⟩] = true ∧
    Event.ofTokens ([⟨.word, "SELECT", 1⟩, ⟨.openParen, "(", 1⟩, ⟨.word, "WITH", 2⟩,
        ⟨.word, "x", 2⟩] ++ ⟨.symbol, "/", 3⟩ :: [⟨.word, "SELECT", 4⟩]) =
      .ok ([.enter .select 1, .exit .select 2] ++ [.enter .select 4, .exit .select 4]) ∧
    Event.ofTokens ([⟨.word, "UPDATE", 1⟩, ⟨.word, "ON", 1⟩] ++ ⟨.semicolon, ";", 1⟩ ::
        [⟨.symbol, "/", 1⟩, ⟨.word, "DELETE", 2⟩]) =
      .ok ([.enter .update 1, .exit .update 1] ++ [.enter .delete 2, .exit .delete 2]) := by
  refine ⟨by decide, ?_, ?_⟩
  · exact (Event.ofTokens_append_terminator _ _ _).1 (by decide)
  · refine (Event.ofTokens_append_terminator _ _ _).2 rfl ?_ (by decide)
    intro middle told hrun
    cases hrun
    rfl

end DmlOutline
