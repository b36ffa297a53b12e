import DmlOutline.Proofs.OpenStatements

/-!
# Runs of a scan

A run over tokens is one step after the other. Each step sees the tokens that follow, so a run over
the first tokens of a list depends on those ahead of them.

* `Scan.runUpTo` — a run over tokens with others ahead, which are seen but not read.

Principal results: `Scan.runUpTo_append`, `Scan.run_append`: a run is a run up to a place and one
from there on; `Scan.runUpTo_keeps`: a run keeps what every step keeps;
`Scan.State.Stacked.runUpTo`: it keeps the order of the open statements.
-/

namespace DmlOutline.Scan

variable {state next final : State} {before : Option Token} {token : Token}
  {ahead tokens : List Token} {events : List Event}

/-! ## Runs up to a place -/

/-- The token before what follows a list is its last one. -/
theorem getLast?_cons_or (before : Option Token) (token : Token) (rest : List Token) :
    (token :: rest).getLast?.or before = rest.getLast?.or (some token) := by
  rw [List.getLast?_cons]
  cases rest.getLast? <;> rfl

/-- Reads tokens, given the one before them and those ahead, which are seen but not read. -/
def runUpTo (ahead : List Token) (state : State) (before : Option Token) :
    List Token → Except Error (State × List Event)
  | [] => .ok (state, [])
  | token :: rest => (step state before token (rest ++ ahead)).bind
      fun (next, told) => (runUpTo ahead next (some token) rest).map
        fun (final, more) => (final, told ++ more)

/-- With nothing ahead, it is a run. -/
theorem runUpTo_nil (state : State) (before : Option Token) (tokens : List Token) :
    runUpTo [] state before tokens = run state before tokens := by
  induction tokens generalizing state before with
  | nil => rfl
  | cons token rest ih =>
    rw [runUpTo, run, List.append_nil]
    cases step state before token rest with
    | error error => rfl
    | ok result =>
      simp only [Except.bind, ih]
      cases run result.1 (some token) rest <;> rfl

/-- A run over tokens is a step over the first and a run over the rest. -/
theorem runUpTo_cons_eq_ok :
    runUpTo ahead state before (token :: tokens) = .ok (final, events) ↔
      ∃ next told more, step state before token (tokens ++ ahead) = .ok (next, told) ∧
        runUpTo ahead next (some token) tokens = .ok (final, more) ∧ told ++ more = events := by
  rw [runUpTo]
  cases step state before token (tokens ++ ahead) with
  | error error => simp [Except.bind]
  | ok result =>
    obtain ⟨next, told⟩ := result
    cases hrest : runUpTo ahead next (some token) tokens with
    | error error => simp [Except.bind, Except.map, hrest]
    | ok result => simp [Except.bind, Except.map, hrest, Prod.ext_iff]

theorem run_cons_eq_ok :
    run state before (token :: tokens) = .ok (final, events) ↔
      ∃ next told more, step state before token tokens = .ok (next, told) ∧
        run next (some token) tokens = .ok (final, more) ∧ told ++ more = events := by
  simp only [← runUpTo_nil, runUpTo_cons_eq_ok, List.append_nil]

/-- **A run goes up to a place, and on from there.** -/
theorem runUpTo_append (ahead : List Token) (state : State) (before : Option Token)
    (front back : List Token) :
    runUpTo ahead state before (front ++ back) = (runUpTo (back ++ ahead) state before front).bind
      fun (middle, told) => (runUpTo ahead middle (front.getLast?.or before) back).map
        fun (final, more) => (final, told ++ more) := by
  induction front generalizing state before with
  | nil =>
    change runUpTo ahead state before back =
      (runUpTo ahead state before back).map fun (final, more) => (final, [] ++ more)
    cases runUpTo ahead state before back <;> rfl
  | cons token rest ih =>
    rw [List.cons_append, runUpTo, runUpTo, List.append_assoc, getLast?_cons_or]
    cases step state before token (rest ++ (back ++ ahead)) with
    | error error => rfl
    | ok result =>
      obtain ⟨next, told⟩ := result
      simp only [Except.bind, ih]
      cases runUpTo (back ++ ahead) next (some token) rest with
      | error error => rfl
      | ok result =>
        obtain ⟨middle, more⟩ := result
        simp only [Except.map]
        cases runUpTo ahead middle (rest.getLast?.or (some token)) back with
        | error error => rfl
        | ok result => simp only [List.append_assoc]

theorem runUpTo_append_eq_ok {front back : List Token} :
    runUpTo ahead state before (front ++ back) = .ok (final, events) ↔
      ∃ middle told more, runUpTo (back ++ ahead) state before front = .ok (middle, told) ∧
        runUpTo ahead middle (front.getLast?.or before) back = .ok (final, more) ∧
        told ++ more = events := by
  rw [runUpTo_append]
  cases runUpTo (back ++ ahead) state before front with
  | error error => simp [Except.bind]
  | ok result =>
    obtain ⟨middle, told⟩ := result
    cases hback : runUpTo ahead middle (front.getLast?.or before) back with
    | error error => simp [Except.bind, Except.map, hback]
    | ok result => simp [Except.bind, Except.map, hback, Prod.ext_iff]

theorem run_append (state : State) (before : Option Token) (front back : List Token) :
    run state before (front ++ back) = (runUpTo back state before front).bind
      fun (middle, told) => (run middle (front.getLast?.or before) back).map
        fun (final, more) => (final, told ++ more) := by
  rw [← runUpTo_nil, runUpTo_append, List.append_nil]
  simp only [runUpTo_nil]

/-! ## What a run keeps -/

/-- **What every step keeps, a run keeps.** -/
theorem runUpTo_keeps (Keeps : State → Option Token → Prop)
    (hkeeps : ∀ {state next : State} {before : Option Token} {token : Token} {after : List Token}
      {events : List Event}, Keeps state before →
      step state before token after = .ok (next, events) → Keeps next (some token))
    (h : Keeps state before) (hrun : runUpTo ahead state before tokens = .ok (final, events)) :
    Keeps final (tokens.getLast?.or before) := by
  induction tokens generalizing state before events with
  | nil =>
    cases hrun
    exact h
  | cons token rest ih =>
    obtain ⟨next, told, more, hstep, hrun, -⟩ := runUpTo_cons_eq_ok.mp hrun
    rw [getLast?_cons_or]
    exact ih (hkeeps h hstep) hrun

namespace State

/-- **A run keeps the order of the open statements.** -/
theorem Stacked.runUpTo (h : state.Stacked before)
    (hrun : Scan.runUpTo ahead state before tokens = .ok (final, events)) :
    final.Stacked (tokens.getLast?.or before) :=
  runUpTo_keeps Stacked Stacked.step h hrun

theorem Stacked.run (h : state.Stacked before)
    (hrun : Scan.run state before tokens = .ok (final, events)) :
    final.Stacked (tokens.getLast?.or before) := by
  rw [← runUpTo_nil] at hrun
  exact h.runUpTo hrun

end State

end DmlOutline.Scan
