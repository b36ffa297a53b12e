import DmlOutline.Proofs.ScanBoundaries

/-!
# Groups in parentheses

A group is what stands between two parentheses that are partners, with these. Its statements are told
by how deep they are, and all that is open around a group is less deep than anything in it. So the
scan of a group neither asks for nor changes what is open around it.

* `Token.Balanced`, `Token.Group` — tokens in which every parenthesis has its partner, and groups.
* `Scan.hasLoneSlash` — whether a slash is alone on its line.
* `Scan.State.inside` — a state on top of another one.

Principal results: `Scan.runUpTo_inside`: a run does the same on top of another state;
`Scan.runUpTo_group`: a group has the same events wherever it stands, and leaves what is open around
it.
-/

namespace DmlOutline

namespace Token

/-- Tokens in which every parenthesis has its partner. -/
inductive Balanced : List Token → Prop where
  | nil : Balanced []
  | other {token : Token} {rest : List Token} (notOpen : token.kind ≠ .openParen)
    (notClose : token.kind ≠ .closeParen) (hrest : Balanced rest) : Balanced (token :: rest)
  | group {opening closing : Token} {inner rest : List Token}
    (hopening : opening.kind = .openParen) (hclosing : closing.kind = .closeParen)
    (hinner : Balanced inner) (hrest : Balanced rest) :
    Balanced (opening :: (inner ++ closing :: rest))

/-- Two parentheses that are partners, and what stands between them. -/
structure Group where
  opening : Token
  inner : List Token
  closing : Token
  kind_opening : opening.kind = .openParen
  kind_closing : closing.kind = .closeParen
  balanced : Balanced inner

/-- All tokens of a group. -/
def Group.tokens (group : Group) : List Token :=
  group.opening :: (group.inner ++ [group.closing])

end Token

namespace Scan

variable {state next final outer : State} {before : Option Token} {token closing : Token}
  {after ahead front tokens : List Token} {told : List Event} {kind : StatementKind}

/-! ## Slashes -/

/-- Whether a slash among tokens is alone on its line. -/
def hasLoneSlash (before : Option Token) : List Token → Bool
  | [] => false
  | token :: rest => isLoneSlash before token rest || hasLoneSlash (some token) rest

theorem hasLoneSlash_cons_eq_false :
    hasLoneSlash before (token :: after) = false ↔
      isLoneSlash before token after = false ∧ hasLoneSlash (some token) after = false := by
  rw [hasLoneSlash, Bool.or_eq_false_iff]

theorem hasLoneSlash_back (h : hasLoneSlash before (front ++ after) = false) :
    hasLoneSlash (front.getLast?.or before) after = false := by
  induction front generalizing before with
  | nil => exact h
  | cons token rest ih =>
    rw [getLast?_cons_or]
    exact ih (hasLoneSlash_cons_eq_false.mp h).2

/-! ## What a closing parenthesis hides -/

/-- **No step sees past a closing parenthesis.** -/
theorem step_append_closing (hclosing : closing.kind = .closeParen) (rest back : List Token) :
    step state before token (rest ++ closing :: back) =
      step state before token (rest ++ [closing]) := by
  have hquery (back : List Token) : startsQuery (rest ++ closing :: back) = startsQuery rest := by
    refine startsQuery_append ?_ ?_ ?_ rest back <;> rw [hclosing] <;> decide
  have hslash : isLoneSlash before token (rest ++ closing :: back) =
      isLoneSlash before token (rest ++ [closing]) := by
    cases rest <;> rfl
  unfold step act keywordKind?
  rw [hquery back, hquery [], hslash]

theorem runUpTo_closing (hclosing : closing.kind = .closeParen) (back : List Token) :
    runUpTo (closing :: back) state before tokens = runUpTo [closing] state before tokens := by
  induction tokens generalizing state before with
  | nil => rfl
  | cons token rest ih => simp only [runUpTo, step_append_closing hclosing rest back, ih]

/-! ## A state on top of another -/

/-- A statement with more parentheses around it. -/
def Frame.deeper (frame : Frame) (more : Nat) : Frame :=
  { frame with depth := frame.depth + more }

namespace State

/-- A state on top of another one: its statements are open inside those of the other, and its
parentheses inside those of the other. -/
def inside (state outer : State) : State where
  statements := state.statements.map (·.deeper outer.depth) ++ outer.statements
  depth := state.depth + outer.depth
  lastLine := state.lastLine

/-- All open statements are outside the innermost parenthesis. -/
def Outside (outer : State) : Prop :=
  ∀ frame ∈ outer.statements, frame.depth < outer.depth

/-- What is open outside is not at the present depth. -/
theorem current_inside (houter : outer.Outside) (state : State) :
    (state.inside outer).current = state.current.map (·.deeper outer.depth) := by
  unfold current inside
  cases state.statements with
  | nil =>
    refine Option.filter_eq_none_iff.mpr fun frame hframe => ?_
    have hlt := houter frame (List.mem_of_mem_head? hframe)
    simp only [decide_eq_true_eq]
    omega
  | cons frame rest =>
    by_cases hdepth : frame.depth = state.depth <;>
      simp [Frame.deeper, Option.filter, hdepth]

/-- The statements of the present depth are the same on top of another state. -/
theorem takeWhile_inside (houter : outer.Outside) (state : State) :
    (state.inside outer).statements.takeWhile ((state.inside outer).depth ≤ ·.depth) =
      (state.statements.takeWhile (state.depth ≤ ·.depth)).map (·.deeper outer.depth) := by
  have hstop : outer.statements.takeWhile (state.depth + outer.depth ≤ ·.depth) = [] := by
    cases hstatements : outer.statements with
    | nil => rfl
    | cons frame rest =>
      have hlt := houter frame (by simp [hstatements])
      refine List.takeWhile_cons_of_neg ?_
      simp only [decide_eq_true_eq]
      omega
  unfold inside
  induction state.statements with
  | nil => exact hstop
  | cons frame rest ih =>
    by_cases hdepth : state.depth ≤ frame.depth
    · simpa [Frame.deeper, hdepth] using ih
    · simp [Frame.deeper, hdepth]

/-- Closing the statements of the present depth leaves those of the other state. -/
theorem closeDownTo_inside (houter : outer.Outside) (state : State) (closing : Option Nat) :
    (state.inside outer).closeDownTo (state.inside outer).depth closing =
      ((state.closeDownTo state.depth closing).1.inside outer,
        (state.closeDownTo state.depth closing).2) := by
  have hle := (state.statements.takeWhile_prefix (state.depth ≤ ·.depth)).length_le
  simp only [closeDownTo, takeWhile_inside houter, List.length_map, List.map_map]
  simp only [inside, List.map_drop]
  rw [List.drop_append_of_le_length (by simpa using hle)]
  rfl

theorem foundQuery_inside (hopen : state.statements ≠ []) :
    (state.inside outer).foundQuery = state.foundQuery.inside outer := by
  unfold foundQuery inside
  cases hstatements : state.statements with
  | nil => exact absurd hstatements hopen
  | cons frame rest => rfl

end State

/-! ## Steps on top of another state -/

theorem role_inside (houter : outer.Outside) (state : State) (kind : StatementKind) (line : Nat)
    (before : Option Token) :
    role (state.inside outer) kind line before = role state kind line before := by
  unfold role
  rw [State.current_inside houter]
  cases state.current <;> rfl

theorem opening_inside (state outer : State) (kind : StatementKind) (line : Nat)
    (before : Option Token) (awaitsQuery : Bool) :
    opening (state.inside outer) kind line before awaitsQuery =
      ((opening state kind line before awaitsQuery).1.inside outer,
        (opening state kind line before awaitsQuery).2) := by
  unfold opening
  split <;> rfl

/-- A keyword means the same on top of another state. -/
theorem keyword_inside (houter : outer.Outside) (state : State) (kind : StatementKind) (line : Nat)
    (before : Option Token) (awaitsQuery : Bool) :
    keyword (state.inside outer) kind line before awaitsQuery =
      ((keyword state kind line before awaitsQuery).1.inside outer,
        (keyword state kind line before awaitsQuery).2) := by
  unfold keyword
  rw [role_inside houter]
  cases hrole : role state kind line before with
  | clause => rfl
  | withBody =>
    have hopen : state.statements ≠ [] := by
      intro hempty
      simp only [role, State.current, hempty, List.head?_nil, Option.filter_none] at hrole
      split at hrole <;> cases hrole
    simp only [State.foundQuery_inside hopen]
  | opens => exact opening_inside state outer kind line before awaitsQuery
  | restarts =>
    simp only [State.closeDownTo_inside houter, opening_inside]

/-- **A token does the same on top of another state,** unless it closes a parenthesis of that state
or ends all statements. -/
theorem act_inside (houter : outer.Outside)
    (hact : act state before token after = .ok (next, told))
    (hslash : isLoneSlash before token after = false) :
    act (state.inside outer) before token after = .ok (next.inside outer, told) := by
  unfold act at hact ⊢
  cases hkind : token.kind with
  | openParen =>
    simp only [hkind] at hact ⊢
    cases hact
    simp only [State.inside, Nat.add_right_comm]
  | closeParen =>
    simp only [hkind] at hact ⊢
    split at hact
    · cases hact
    · rename_i hdepth
      cases hact
      have hinside : (state.inside outer).depth ≠ 0 :=
        fun hzero => hdepth (Nat.add_eq_zero_iff.mp hzero).1
      rw [if_neg hinside]
      simp only [State.closeDownTo_inside houter]
      simp only [State.inside, Nat.sub_add_comm (Nat.pos_of_ne_zero hdepth)]
  | semicolon =>
    simp only [hkind] at hact ⊢
    cases hact
    rw [State.closeDownTo_inside houter]
    rfl
  | symbol =>
    simp only [hkind, hslash, Bool.false_eq_true, if_false] at hact ⊢
    cases hact
    rfl
  | word =>
    simp only [hkind] at hact ⊢
    split at hact
    · rename_i kind awaitsQuery hkeyword
      rw [keyword_inside houter, Except.ok.inj hact]
    · cases hact
      rfl
  | quotedIdent | literal | number =>
    simp only [hkind] at hact ⊢
    cases hact
    rfl

theorem step_inside (houter : outer.Outside)
    (hstep : step state before token after = .ok (next, told))
    (hslash : isLoneSlash before token after = false) :
    step (state.inside outer) before token after = .ok (next.inside outer, told) := by
  unfold step at hstep ⊢
  cases hact : act state before token after with
  | error error => rw [hact] at hstep; cases hstep
  | ok result =>
    rw [hact] at hstep
    cases hstep
    rw [act_inside houter hact hslash]
    rfl

/-! ## Runs on top of another state -/

/-- **A run does the same on top of another state,** and leaves the statements of that state. -/
theorem runUpTo_inside (houter : outer.Outside)
    (hrun : runUpTo ahead state before tokens = .ok (final, told))
    (hslash : hasLoneSlash before (tokens ++ ahead) = false) :
    runUpTo ahead (state.inside outer) before tokens = .ok (final.inside outer, told) := by
  induction tokens generalizing state before told with
  | nil =>
    cases hrun
    rfl
  | cons token rest ih =>
    obtain ⟨halone, hrest⟩ := hasLoneSlash_cons_eq_false.mp hslash
    obtain ⟨next, events, more, hstep, hmore, rfl⟩ := runUpTo_cons_eq_ok.mp hrun
    exact runUpTo_cons_eq_ok.mpr
      ⟨_, _, _, step_inside houter hstep halone, ih hmore hrest, rfl⟩

/-- A run over tokens in which every parenthesis has its partner ends as deep as it began. -/
theorem exists_runUpTo_of_balanced (h : Token.Balanced tokens) (state : State)
    (hslash : hasLoneSlash before (tokens ++ ahead) = false) :
    ∃ final told, runUpTo ahead state before tokens = .ok (final, told) ∧
      final.depth = state.depth := by
  induction h generalizing state before ahead with
  | nil => exact ⟨state, [], rfl, rfl⟩
  | @other token rest notOpen notClose _ ih =>
    rw [List.cons_append, hasLoneSlash_cons_eq_false] at hslash
    obtain ⟨next, events, hstep, hdepth⟩ := exists_step state before (rest ++ ahead)
      fun hstray => notClose hstray.1
    rw [depthAfter_other notOpen notClose hslash.1] at hdepth
    obtain ⟨final, more, hrun, hfinal⟩ := ih next hslash.2
    exact ⟨final, _, runUpTo_cons_eq_ok.mpr ⟨_, _, _, hstep, hrun, rfl⟩, hfinal.trans hdepth⟩
  | @group opening closing inner rest hopening hclosing _ _ ihInner ihRest =>
    simp only [List.cons_append, List.append_assoc] at hslash
    have hinner := (hasLoneSlash_cons_eq_false.mp hslash).2
    have hrest := (hasLoneSlash_cons_eq_false.mp (hasLoneSlash_back hinner)).2
    obtain ⟨opened, entered, hopen, hopened⟩ :=
      exists_step state before (inner ++ closing :: rest ++ ahead) fun hstray => by
        rw [hopening] at hstray
        cases hstray.1
    rw [depthAfter_opening hopening] at hopened
    obtain ⟨reached, told, hreached, hdepth⟩ := ihInner opened hinner
    obtain ⟨closed, exited, hclose, hclosed⟩ :=
      exists_step reached (inner.getLast?.or (some opening)) (rest ++ ahead)
        fun hstray => by omega
    rw [depthAfter_closing hclosing] at hclosed
    obtain ⟨final, more, hrun, hfinal⟩ := ihRest closed hrest
    refine ⟨final, entered ++ (told ++ (exited ++ more)), ?_, by omega⟩
    refine runUpTo_cons_eq_ok.mpr ⟨opened, entered, _, hopen, ?_, rfl⟩
    refine runUpTo_append_eq_ok.mpr ⟨reached, told, _, hreached, ?_, rfl⟩
    exact runUpTo_cons_eq_ok.mpr ⟨closed, exited, more, hclose, hrun, rfl⟩

/-! ## Groups -/

/-- **A group tells the same events in every state,** and leaves what is open as it was. -/
theorem exists_runUpTo_group (group : Token.Group)
    (hslash : hasLoneSlash none group.tokens = false) :
    ∃ told, ∀ (state : State) (before : Option Token) (ahead : List Token),
      (∀ frame ∈ state.statements, frame.depth ≤ state.depth) →
      runUpTo ahead state before group.tokens =
        .ok ({ state with lastLine := group.closing.line }, told) := by
  obtain ⟨opening, inner, closing, hopening, hclosing, hbalanced⟩ := group
  have hinner := (hasLoneSlash_cons_eq_false.mp hslash).2
  obtain ⟨final, told, hrun, hfinal⟩ :=
    exists_runUpTo_of_balanced hbalanced { lastLine := opening.line } hinner
  refine ⟨told ++ (final.closeDownTo final.depth (some closing.line)).2, ?_⟩
  intro state before ahead hwithin
  let outer : State := { state with depth := state.depth + 1 }
  have houter : outer.Outside := fun frame hframe => Nat.lt_succ_of_le (hwithin frame hframe)
  have hopen : step state before opening (inner ++ [closing] ++ ahead) =
      .ok (({ lastLine := opening.line } : State).inside outer, []) := by
    simp [step, act, hopening, Except.map, State.inside, outer]
  have hinside := runUpTo_inside houter hrun hinner
  rw [← runUpTo_closing hclosing ahead] at hinside
  have hclose : step (final.inside outer) (inner.getLast?.or (some opening)) closing ahead =
      .ok ({ state with lastLine := closing.line },
        (final.closeDownTo final.depth (some closing.line)).2) := by
    have hzero : final.depth = 0 := hfinal
    have hdepth : (final.inside outer).depth = state.depth + 1 := by
      simp [State.inside, hzero, outer]
    have hempty := statements_closeDownTo_zero final (some closing.line)
    simp only [step, act, hclosing, State.closeDownTo_inside houter, Except.map]
    rw [if_neg (by omega), hdepth, hzero]
    simp [State.inside, hempty, outer]
  refine runUpTo_cons_eq_ok.mpr ⟨_, [], _, hopen, ?_, rfl⟩
  refine runUpTo_append_eq_ok.mpr ⟨_, told, _, hinside, ?_, rfl⟩
  exact runUpTo_cons_eq_ok.mpr ⟨_, _, [], hclose, rfl, List.append_nil _⟩

/-- **Groups in parentheses are context-free.** A group without a slash alone on its line tells,
after any tokens and before any others, the events that it tells alone, and leaves the open statements
and parentheses as they were. -/
theorem runUpTo_group (front ahead back : List Token) (group : Token.Group)
    (hreached : runUpTo ahead {} none front = .ok (state, told))
    (hslash : hasLoneSlash none group.tokens = false) :
    ∃ events, Event.ofTokens group.tokens = .ok events ∧
      runUpTo back state front.getLast? group.tokens =
        .ok ({ state with lastLine := group.closing.line }, events) := by
  obtain ⟨events, hgroup⟩ := exists_runUpTo_group group hslash
  have hwithin := (State.stacked_initial.runUpTo hreached).within
  have halone := hgroup {} none [] fun frame hframe => nomatch hframe
  rw [runUpTo_nil] at halone
  refine ⟨events, ?_, hgroup state front.getLast? back hwithin⟩
  rw [Event.ofTokens_of_run halone]
  exact congrArg Except.ok (List.append_nil events)

/-- A group over three lines: a `WITH` with its own group, its query, and a statement that begins
while the query is left without a semicolon. -/
def queryGroup : Token.Group where
  opening := ⟨.openParen, "(", 2⟩
  inner := [⟨.word, "WITH", 2⟩, ⟨.word, "y", 2⟩, ⟨.word, "AS", 2⟩, ⟨.openParen, "(", 2⟩,
    ⟨.word, "SELECT", 2⟩, ⟨.closeParen, ")", 2⟩, ⟨.word, "SELECT", 3⟩, ⟨.symbol, "/", 3⟩,
    ⟨.word, "DELETE", 4⟩, ⟨.semicolon, ";", 4⟩]
  closing := ⟨.closeParen, ")", 5⟩
  kind_opening := rfl
  kind_closing := rfl
  balanced := by
    refine .other (by decide) (by decide) (.other (by decide) (by decide)
      (.other (by decide) (by decide) ?_))
    refine @Token.Balanced.group _ _ [⟨.word, "SELECT", 2⟩] _ rfl rfl ?_ ?_
    · exact .other (by decide) (by decide) .nil
    · exact .other (by decide) (by decide) (.other (by decide) (by decide)
        (.other (by decide) (by decide) (.other (by decide) (by decide) .nil)))

/-- The group leaves an `INSERT` and a `WITH` that awaits its query as they are. -/
theorem runUpTo_group_in_insert :
    runUpTo queryGroup.tokens {} none [⟨.word, "INSERT", 1⟩, ⟨.word, "WITH", 2⟩, ⟨.word, "x", 2⟩,
        ⟨.word, "AS", 2⟩] =
      .ok (⟨[⟨.select, 0, false, true⟩, ⟨.insert, 0, false, false⟩], 0, 2⟩,
        [.enter .insert 1, .enter .select 2]) ∧
    hasLoneSlash none queryGroup.tokens = false ∧
    ∃ events, Event.ofTokens queryGroup.tokens = .ok events ∧
      runUpTo [⟨.word, "SELECT", 6⟩] ⟨[⟨.select, 0, false, true⟩, ⟨.insert, 0, false, false⟩], 0, 2⟩
        (some ⟨.word, "AS", 2⟩) queryGroup.tokens =
        .ok (⟨[⟨.select, 0, false, true⟩, ⟨.insert, 0, false, false⟩], 0, 5⟩, events) :=
  ⟨rfl, by decide, runUpTo_group [⟨.word, "INSERT", 1⟩, ⟨.word, "WITH", 2⟩, ⟨.word, "x", 2⟩,
    ⟨.word, "AS", 2⟩] queryGroup.tokens [⟨.word, "SELECT", 6⟩] queryGroup rfl (by decide)⟩

end Scan

end DmlOutline
