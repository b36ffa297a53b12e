import DmlOutline.Store

/-!
# Runs of actions from a state

An action on files, run from a state, gives an outcome and leaves a state. Runs follow the shape of
actions: a failure ends an action, and what was done before it stays. So what each operation keeps,
an action made of such operations keeps, whether it succeeds or fails.

* `runFrom` — the outcome of an action from a state, and the state after it.
* `Keeps` — actions after which the state is related to the one before.
* `Frame` — relations that looking at files keeps.

Principal results: `runFrom_bind`, `runFrom_bind_eq_ok`, `runFrom_bind_eq_error`, `Keeps.bind`: runs
by the shape of actions; `Frame.findSource` and its like: what reading and searching keep.
-/

namespace DmlOutline

variable {σ ε α β : Type} {state next last : σ} {a : α} {b : β}

/-- The outcome of an action from a state, and the state after it. -/
def runFrom (state : σ) (action : ExceptT ε (StateM σ) α) : Except ε α × σ :=
  action.run state

/-! ## Runs by the shape of actions -/

@[simp]
theorem runFrom_pure (state : σ) (a : α) :
    runFrom state (pure a : ExceptT ε (StateM σ) α) = (.ok a, state) := rfl

@[simp]
theorem runFrom_throw (state : σ) (error : ε) :
    runFrom state (throw error : ExceptT ε (StateM σ) α) = (.error error, state) := rfl

@[simp]
theorem runFrom_ofResult (state : σ) (result : Except ε α) :
    runFrom state (ofResult result) = (result, state) := rfl

/-- **An action goes on where the one before it succeeded.** -/
theorem runFrom_bind (state : σ) (action : ExceptT ε (StateM σ) α)
    (more : α → ExceptT ε (StateM σ) β) :
    runFrom state (action >>= more) =
      match runFrom state action with
      | (.ok a, next) => runFrom next (more a)
      | (.error error, next) => (.error error, next) := by
  unfold runFrom ExceptT.run
  simp only [bind, ExceptT.bind, ExceptT.mk, StateT.bind, ExceptT.bindCont]
  cases action state with
  | mk result next => cases result <;> rfl

theorem runFrom_attempt (state : σ) (wrap : IoError → ε)
    (operation : StateM σ (Except IoError α)) :
    runFrom state (attempt wrap operation) =
      ((operation state).1.mapError wrap, (operation state).2) := by
  unfold runFrom attempt
  simp only [ExceptT.run, ExceptT.mk, bind, StateT.bind]
  cases operation state with
  | mk result next => cases result <;> rfl

theorem runFrom_settle (state : σ) (action : ExceptT ε (StateM σ) α) :
    runFrom state (settle action) = (.ok (runFrom state action).1, (runFrom state action).2) := rfl

/-- An operation that was not a failure was not refused. -/
theorem ok_of_runFrom_attempt {wrap : IoError → ε} {operation : StateM σ (Except IoError α)}
    (h : runFrom state (attempt wrap operation) = (.ok a, next)) :
    operation state = (.ok a, next) := by
  rw [runFrom_attempt] at h
  cases hresult : operation state with
  | mk result changed =>
    rw [hresult] at h
    cases result with
    | error cause => cases h
    | ok value =>
      cases h
      rfl

/-- An operation that was a failure was refused. -/
theorem error_of_runFrom_attempt {wrap : IoError → ε} {error : ε}
    {operation : StateM σ (Except IoError α)}
    (h : runFrom state (attempt wrap operation) = (.error error, next)) :
    ∃ cause, operation state = (.error cause, next) ∧ error = wrap cause := by
  rw [runFrom_attempt] at h
  cases hresult : operation state with
  | mk result changed =>
    rw [hresult] at h
    cases result with
    | error cause =>
      cases h
      exact ⟨cause, rfl, rfl⟩
    | ok value => cases h

variable {action : ExceptT ε (StateM σ) α} {more : α → ExceptT ε (StateM σ) β}

theorem runFrom_bind_eq_ok :
    runFrom state (action >>= more) = (.ok b, last) ↔
      ∃ a next, runFrom state action = (.ok a, next) ∧ runFrom next (more a) = (.ok b, last) := by
  rw [runFrom_bind]
  cases runFrom state action with
  | mk result next =>
    cases result with
    | error error => simp
    | ok value =>
      constructor
      · intro h
        exact ⟨value, next, rfl, h⟩
      · rintro ⟨_, _, heq, h⟩
        cases heq
        exact h

/-- A run fails in an action, or in those after it. -/
theorem runFrom_bind_eq_error {error : ε} :
    runFrom state (action >>= more) = (.error error, last) ↔
      runFrom state action = (.error error, last) ∨
        ∃ a next, runFrom state action = (.ok a, next) ∧
          runFrom next (more a) = (.error error, last) := by
  rw [runFrom_bind]
  cases runFrom state action with
  | mk result next =>
    cases result with
    | error cause => simp
    | ok value =>
      constructor
      · intro h
        exact .inr ⟨value, next, rfl, h⟩
      · rintro (h | ⟨_, _, heq, h⟩)
        · cases h
        · cases heq
          exact h

/-! ## Looking at paths -/

section

variable [FileAccess (StateM σ)] {path : Path}

theorem runFrom_entryKind (state : σ) (path : Path) :
    runFrom state (entryKind path : ExceptT ε (StateM σ) (Option EntryKind)) =
      (.ok ((FileAccess.kind? path : StateM σ _) state).1,
        ((FileAccess.kind? path : StateM σ _) state).2) := rfl

/-- A path that leads to a directory was seen to. -/
theorem kind?_of_runFrom_isDirectory
    (h : runFrom state (isDirectory path : ExceptT ε (StateM σ) Bool) = (.ok true, next)) :
    (FileAccess.kind? path : StateM σ _) state = (some .directory, next) := by
  rw [isDirectory, runFrom_bind, runFrom_entryKind] at h
  obtain ⟨hkind, hnext⟩ := Prod.mk.inj h
  exact Prod.ext (of_decide_eq_true (Except.ok.inj hkind)) hnext

end

/-! ## What actions keep -/

/-- An action after which the state is related to the one before, whether it succeeds or fails. -/
def Keeps (R : σ → σ → Prop) (action : ExceptT ε (StateM σ) α) : Prop :=
  ∀ state, R state (runFrom state action).2

variable {R : σ → σ → Prop}

/-- What an action and those after it make of a state, whether they succeed or not. -/
theorem runFrom_bind_rel (htrans : ∀ {a b c}, R a b → R b c → R a c)
    (haction : R state (runFrom state action).2)
    (hmore : ∀ a next, runFrom state action = (.ok a, next) → R next (runFrom next (more a)).2) :
    R state (runFrom state (action >>= more)).2 := by
  rw [runFrom_bind]
  cases hrun : runFrom state action with
  | mk result next =>
    rw [hrun] at haction
    cases result with
    | error error => exact haction
    | ok a => exact htrans haction (hmore a next hrun)

namespace Keeps

/-- **What two actions keep is kept by one after the other.** -/
theorem bind (htrans : ∀ {a b c}, R a b → R b c → R a c) (h : Keeps R action)
    (hmore : ∀ a, Keeps R (more a)) : Keeps R (action >>= more) :=
  fun state => runFrom_bind_rel htrans (h state) fun a next _ => hmore a next

theorem attempt {operation : StateM σ (Except IoError α)} (wrap : IoError → ε)
    (h : ∀ state, R state (operation state).2) : Keeps R (attempt wrap operation) := by
  intro state
  rw [runFrom_attempt]
  exact h state

theorem of_run (h : Keeps R action) {result : Except ε α}
    (hrun : runFrom state action = (result, next)) : R state next := by
  have hstate := h state
  rwa [hrun] at hstate

end Keeps

/-- A relation that looking at files keeps. -/
structure Frame [FileAccess (StateM σ)] (R : σ → σ → Prop) : Prop where
  refl : ∀ state, R state state
  trans : ∀ {a b c}, R a b → R b c → R a c
  kind? : ∀ path state, R state ((FileAccess.kind? path : StateM σ _) state).2
  read : ∀ path state, R state ((FileAccess.read path : StateM σ _) state).2
  fileNames : ∀ path state, R state ((FileAccess.fileNames path : StateM σ _) state).2

namespace Frame

variable [FileAccess (StateM σ)] (h : Frame R)

include h

theorem pure (a : α) : Keeps R (pure a : ExceptT ε (StateM σ) α) :=
  h.refl

theorem throw (error : ε) : Keeps R (throw error : ExceptT ε (StateM σ) α) :=
  h.refl

theorem ofResult (result : Except ε α) : Keeps R (ofResult result : ExceptT ε (StateM σ) α) :=
  h.refl

theorem bind (haction : Keeps R action) (hmore : ∀ a, Keeps R (more a)) :
    Keeps R (action >>= more) :=
  haction.bind h.trans hmore

theorem isFile (path : Path) : Keeps R (isFile path : ExceptT ε (StateM σ) Bool) :=
  h.bind (h.kind? path) fun _ => h.pure _

theorem isDirectory (path : Path) : Keeps R (isDirectory path : ExceptT ε (StateM σ) Bool) :=
  h.bind (h.kind? path) fun _ => h.pure _

/-! ### Reading -/

variable (store : Store)

theorem textOf (path : Path) : Keeps R (store.textOf path : Action (StateM σ) String) := by
  refine h.bind (.attempt _ (h.read path)) fun bytes => ?_
  cases store.decoder.decode? bytes with
  | none => exact h.throw _
  | some text => exact h.pure _

theorem recordOf (path : Path) : Keeps R (store.recordOf path : Action (StateM σ) SourceRecord) :=
  h.bind (h.textOf store path) fun _ => h.pure _

theorem loadOutline (scope : Scope) (name : String) :
    Keeps R (store.loadOutline scope name : Action (StateM σ) (Option Outline)) := by
  refine h.bind (h.isFile _) fun found => ?_
  cases found with
  | false => exact h.pure _
  | true =>
    refine h.bind (.attempt _ (h.read _)) fun bytes => ?_
    cases String.fromUTF8? bytes with
    | none => exact h.throw _
    | some text =>
      simp only
      cases Outline.read? text with
      | none => exact h.throw _
      | some outline => exact h.pure _

/-! ### Searching -/

omit store

theorem filesIn (dir : Path) : Keeps R (Store.filesIn dir : Action (StateM σ) (List Path)) :=
  h.bind (.attempt _ (h.fileNames dir)) fun _ => h.pure _

theorem sqlFilesIn (dir : Path) : Keeps R (Store.sqlFilesIn dir : Action (StateM σ) (List Path)) :=
  h.bind (h.filesIn dir) fun _ => h.pure _

theorem firstFile (paths : List Path) :
    Keeps R (Store.firstFile paths : Action (StateM σ) (Option Path)) := by
  induction paths with
  | nil => exact h.pure _
  | cons path rest ih =>
    refine h.bind (h.isFile path) fun found => ?_
    cases found with
    | false => exact ih
    | true => exact h.pure _

theorem findAnyCase (dir : Path) (name : String) :
    Keeps R (Store.findAnyCase dir name : Action (StateM σ) (Option Path)) :=
  h.bind (h.filesIn dir) fun _ => h.pure _

theorem firstAnyCase (name : String) (dirs : List Path) :
    Keeps R (Store.firstAnyCase name dirs : Action (StateM σ) (Option Path)) := by
  induction dirs with
  | nil => exact h.pure _
  | cons dir rest ih =>
    refine h.bind (h.findAnyCase dir name) fun found => ?_
    cases found with
    | none => exact ih
    | some path => exact h.pure _

variable (store : Store)

theorem findSource (scope : Scope) (name : String) :
    Keeps R (store.findSource scope name : Action (StateM σ) (Option Path)) := by
  refine h.bind (h.ofResult _) fun segment => h.bind (h.firstFile _) fun found => ?_
  cases found with
  | none => exact h.firstAnyCase _ _
  | some path => exact h.pure _

theorem recordsOf (paths : List Path) :
    Keeps R (store.recordsOf paths : Action (StateM σ) (List SourceRecord)) := by
  induction paths with
  | nil => exact h.pure _
  | cons path rest ih =>
    exact h.bind (h.recordOf store path) fun _ => h.bind ih fun _ => h.pure _

theorem sqlRecords (dirs : List Path) :
    Keeps R (store.sqlRecords dirs : Action (StateM σ) (List SourceRecord)) := by
  induction dirs with
  | nil => exact h.pure _
  | cons dir rest ih =>
    exact h.bind (h.sqlFilesIn dir) fun paths =>
      h.bind (h.recordsOf store paths) fun _ => h.bind ih fun _ => h.pure _

theorem declaring (scope : Scope) (unitName : String) :
    Keeps R (store.declaring scope unitName : Action (StateM σ) (List SourceRecord)) :=
  h.bind (h.sqlRecords store _) fun _ => h.pure _

end Frame

end DmlOutline
