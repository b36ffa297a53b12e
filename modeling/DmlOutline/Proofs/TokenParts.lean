import DmlOutline.Proofs.ParenthesisGroups

/-!
# Tokens in parts

Tokens in which every parenthesis has its partner are single tokens and groups side by side. Where
the single tokens do nothing to the open statements, all events are those of the groups.

* `Token.Part` — a single token or a group; `Token.ofParts`, `Token.groupsOf` — the tokens and the
  groups of parts.
* `Event.ofGroups` — the events of groups, each scanned by itself.
* `Scan.Passes` — parts whose single tokens do nothing.

Principal results: `Token.balanced_iff_exists_parts`: such tokens are parts;
`Scan.exists_ofTokens_group`: a group tells everywhere what it tells alone;
`Scan.Passes.exists_run`: what parts tell.
-/

namespace DmlOutline

namespace Token

/-- A token that is no parenthesis, or a group. -/
inductive Part where
  | single (token : Token) (notParen : token.kind ≠ .openParen ∧ token.kind ≠ .closeParen)
  | group (group : Group)

/-- The tokens of a part. -/
def Part.tokens : Part → List Token
  | single token _ => [token]
  | group pair => pair.tokens

/-- The group that a part is. -/
def Part.group? : Part → Option Group
  | single _ _ => none
  | group pair => some pair

/-- The tokens of parts side by side. -/
def ofParts (parts : List Part) : List Token :=
  parts.flatMap Part.tokens

/-- The groups among parts. -/
def groupsOf (parts : List Part) : List Group :=
  parts.filterMap Part.group?

@[simp]
theorem ofParts_single (token : Token)
    (notParen : token.kind ≠ .openParen ∧ token.kind ≠ .closeParen) (rest : List Part) :
    ofParts (.single token notParen :: rest) = token :: ofParts rest := rfl

@[simp]
theorem ofParts_group (group : Group) (rest : List Part) :
    ofParts (.group group :: rest) = group.tokens ++ ofParts rest := rfl

@[simp]
theorem groupsOf_single (token : Token)
    (notParen : token.kind ≠ .openParen ∧ token.kind ≠ .closeParen) (rest : List Part) :
    groupsOf (.single token notParen :: rest) = groupsOf rest := rfl

@[simp]
theorem groupsOf_group (group : Group) (rest : List Part) :
    groupsOf (.group group :: rest) = group :: groupsOf rest := rfl

@[simp]
theorem ofParts_append (front back : List Part) :
    ofParts (front ++ back) = ofParts front ++ ofParts back :=
  List.flatMap_append

@[simp]
theorem getLast?_tokens (group : Group) : group.tokens.getLast? = some group.closing := by
  rw [Group.tokens, ← List.cons_append, List.getLast?_concat]

/-- **Tokens in which every parenthesis has its partner are parts side by side.** -/
theorem balanced_iff_exists_parts {tokens : List Token} :
    Balanced tokens ↔ ∃ parts, ofParts parts = tokens := by
  constructor
  · intro h
    induction h with
    | nil => exact ⟨[], rfl⟩
    | @other token rest notOpen notClose _ ih =>
      obtain ⟨parts, rfl⟩ := ih
      exact ⟨.single token ⟨notOpen, notClose⟩ :: parts, rfl⟩
    | @group opening closing inner rest hopening hclosing hinner _ _ ihRest =>
      obtain ⟨parts, rfl⟩ := ihRest
      refine ⟨.group ⟨opening, inner, closing, hopening, hclosing, hinner⟩ :: parts, ?_⟩
      simp [Group.tokens]
  · rintro ⟨parts, rfl⟩
    induction parts with
    | nil => exact .nil
    | cons part rest ih =>
      cases part with
      | single token notParen => exact .other notParen.1 notParen.2 ih
      | group group =>
        rw [ofParts_group, Group.tokens, List.cons_append, List.append_assoc]
        exact .group group.kind_opening group.kind_closing group.balanced ih

end Token

/-- The events of groups one after the other, each scanned by itself. -/
def Event.ofGroups : List Token.Group → Except Error (List Event)
  | [] => .ok []
  | group :: rest => do return (← Event.ofTokens group.tokens) ++ (← ofGroups rest)

theorem Event.ofGroups_cons {group : Token.Group} {rest : List Token.Group}
    {events more : List Event} (hgroup : Event.ofTokens group.tokens = .ok events)
    (hrest : Event.ofGroups rest = .ok more) :
    Event.ofGroups (group :: rest) = .ok (events ++ more) := by
  rw [Event.ofGroups, hgroup, hrest]
  rfl

theorem Event.ofGroups_append {front back : List Token.Group} {events more : List Event}
    (hfront : Event.ofGroups front = .ok events) (hback : Event.ofGroups back = .ok more) :
    Event.ofGroups (front ++ back) = .ok (events ++ more) := by
  induction front generalizing events with
  | nil =>
    cases hfront
    exact hback
  | cons group rest ih =>
    rw [Event.ofGroups] at hfront
    cases hgroup : Event.ofTokens group.tokens with
    | error error => rw [hgroup] at hfront; cases hfront
    | ok told =>
      cases hrest : Event.ofGroups rest with
      | error error => rw [hgroup, hrest] at hfront; cases hfront
      | ok later =>
        rw [hgroup, hrest] at hfront
        cases hfront
        rw [List.append_assoc]
        exact Event.ofGroups_cons hgroup (ih hrest)

namespace Scan

variable {state : State} {before : Option Token} {token closing : Token}
  {ahead back front : List Token} {parts : List Token.Part}

/-! ## Slashes in groups -/

/-- What follows a closing parenthesis does not make a slash before it stand alone. -/
theorem hasLoneSlash_closing (h : hasLoneSlash before (front ++ closing :: back) = false)
    (hclosing : closing.kind = .closeParen) :
    hasLoneSlash before (front ++ [closing]) = false := by
  induction front generalizing before with
  | nil =>
    refine hasLoneSlash_cons_eq_false.mpr ⟨?_, rfl⟩
    exact isLoneSlash_eq_false (by rw [hclosing]; decide)
  | cons token rest ih =>
    obtain ⟨hfirst, hrest⟩ := hasLoneSlash_cons_eq_false.mp h
    refine hasLoneSlash_cons_eq_false.mpr ⟨?_, ih hrest⟩
    rw [← hfirst]
    cases rest <;> rfl

/-- A group before other tokens has no slash alone on its line if all of them have none. -/
theorem hasLoneSlash_group (group : Token.Group)
    (h : hasLoneSlash before (group.tokens ++ back) = false) :
    hasLoneSlash none group.tokens = false := by
  refine hasLoneSlash_cons_eq_false.mpr ⟨?_, ?_⟩
  · exact isLoneSlash_eq_false (by rw [group.kind_opening]; decide)
  · rw [Token.Group.tokens, List.cons_append, List.append_assoc] at h
    exact hasLoneSlash_closing (hasLoneSlash_cons_eq_false.mp h).2 group.kind_closing

/-! ## Groups -/

/-- **A group tells everywhere what it tells alone,** and leaves what is open as it was. -/
theorem exists_ofTokens_group (group : Token.Group)
    (hslash : hasLoneSlash none group.tokens = false) :
    ∃ events, Event.ofTokens group.tokens = .ok events ∧
      ∀ (state : State) (before : Option Token) (ahead : List Token),
        (∀ frame ∈ state.statements, frame.depth ≤ state.depth) →
        runUpTo ahead state before group.tokens =
          .ok ({ state with lastLine := group.closing.line }, events) := by
  obtain ⟨events, hgroup⟩ := exists_runUpTo_group group hslash
  have halone := hgroup {} none [] fun _ hframe => nomatch hframe
  rw [runUpTo_nil] at halone
  refine ⟨events, ?_, hgroup⟩
  rw [Event.ofTokens_of_run halone]
  exact congrArg Except.ok (List.append_nil events)

/-! ## Parts -/

/-- Parts whose single tokens do nothing to the open statements, and whose groups have no slash
alone on its line. -/
inductive Passes (state : State) (ahead : List Token) : Option Token → List Token.Part → Prop where
  | nil {before : Option Token} : Passes state ahead before []
  | single {before : Option Token} {token : Token}
    {notParen : token.kind ≠ .openParen ∧ token.kind ≠ .closeParen} {rest : List Token.Part}
    (hact : ∀ lastLine, act { state with lastLine } before token (Token.ofParts rest ++ ahead) =
      .ok ({ state with lastLine }, []))
    (hrest : Passes state ahead (some token) rest) :
    Passes state ahead before (.single token notParen :: rest)
  | group {before : Option Token} {group : Token.Group} {rest : List Token.Part}
    (hslash : hasLoneSlash none group.tokens = false)
    (hrest : Passes state ahead (some group.closing) rest) :
    Passes state ahead before (.group group :: rest)

/-- **Parts whose single tokens do nothing tell the events of their groups in order,** and leave the
open statements as they were. -/
theorem Passes.exists_run (h : Passes state ahead before parts)
    (hwithin : ∀ frame ∈ state.statements, frame.depth ≤ state.depth) (lastLine : Nat) :
    ∃ events, Event.ofGroups (Token.groupsOf parts) = .ok events ∧
      runUpTo ahead { state with lastLine } before (Token.ofParts parts) =
        .ok ({ state with
            lastLine := ((Token.ofParts parts).getLast?.map Token.line).getD lastLine }, events) := by
  induction h generalizing lastLine with
  | nil => exact ⟨[], rfl, rfl⟩
  -- Only the last line moves on from part to part, so the statement is for every last line.
  | @single before token _ rest hact _ ih =>
    obtain ⟨events, hevents, hrun⟩ := ih token.line
    refine ⟨events, by rwa [Token.groupsOf_single], ?_⟩
    have hstep : step { state with lastLine } before token (Token.ofParts rest ++ ahead) =
        .ok ({ state with lastLine := token.line }, []) := by
      simp only [step, hact, Except.map]
    rw [Token.ofParts_single]
    refine runUpTo_cons_eq_ok.mpr ⟨_, [], events, hstep, ?_, rfl⟩
    rw [hrun, List.getLast?_cons]
    cases (Token.ofParts rest).getLast? <;> rfl
  | @group before group rest hslash _ ih =>
    obtain ⟨events, hevents, hgroup⟩ := exists_ofTokens_group group hslash
    obtain ⟨more, hmore, hrun⟩ := ih group.closing.line
    refine ⟨events ++ more, ?_, ?_⟩
    · rw [Token.groupsOf_group]
      exact Event.ofGroups_cons hevents hmore
    have hfirst := hgroup { state with lastLine } before (Token.ofParts rest ++ ahead) hwithin
    rw [Token.ofParts_group]
    refine runUpTo_append_eq_ok.mpr ⟨_, events, more, hfirst, ?_, rfl⟩
    rw [Token.getLast?_tokens, Option.some_or, hrun, List.getLast?_append, Token.getLast?_tokens]
    cases (Token.ofParts rest).getLast? <;> rfl

end Scan

end DmlOutline
