import DmlOutline.Tree.Draft
import Mathlib.Data.List.Basic

/-!
# Events that are refused

A draft is changed in place, so an event that is refused could leave it half changed. It does not:
all that can be refused is found out before the first change. Hence a draft that is used further
after refusals is the draft of the events that it took. Ids are numbers without bound, which stand
for ids of 32 bits where fewer than 2³² statements are entered.

* `Draft.enter`, `Draft.exit` — all that an event makes of a draft.
* `Draft.after`, `Draft.answers` — a draft that events were fed to, and what came of each.
* `Draft.taken` — the events that were not refused.

Principal results: `Draft.run_take`: a refused event changes nothing; `Draft.acceptAll_taken`: the
refused events may as well be left out; `Draft.feed_taken`.
-/

namespace DmlOutline

/-! ## Counting events -/

namespace Event

/-- How many statements are entered. -/
def enters (events : List Event) : Nat :=
  events.countP fun
    | .enter .. => true
    | .exit .. => false

/-- How many statements are left. -/
def exits (events : List Event) : Nat :=
  events.countP fun
    | .enter .. => false
    | .exit .. => true

theorem enters_append (front back : List Event) :
    enters (front ++ back) = enters front + enters back :=
  List.countP_append

theorem exits_append (front back : List Event) :
    exits (front ++ back) = exits front + exits back :=
  List.countP_append

end Event

namespace Tree.Draft

variable {draft next : Draft} {event : Event} {events : List Event} {error : Error}
  {kind : StatementKind} {line : Nat}

/-! ## One event -/

/-- Enters a statement: a new node, the last child of the innermost open one. -/
def enter (draft : Draft) (kind : StatementKind) (line : Nat) : Draft :=
  let id := draft.nodes.length
  let node : Node := { kind, firstLine := line, lastLine := line, parent := some draft.innermost }
  let adopt (parent : Node) : Node := { parent with children := parent.children ++ [id] }
  ⟨draft.nodes.modify draft.innermost adopt ++ [node], id :: draft.pending⟩

/-- Leaves the innermost open statement, which must be of this kind and begin no later. -/
def exit (draft : Draft) (kind : StatementKind) (line : Nat) : Except Imbalance Draft :=
  match draft.pending with
  | [] => .error (.nothingOpen kind)
  | id :: outer =>
    match draft.nodes[id]? with
    | none => .error (.nothingOpen kind)
    | some node =>
      if node.kind ≠ kind then .error (.otherOpen kind node.kind)
      else if line < node.firstLine then .error (.endsEarly kind node.firstLine)
      else .ok ⟨draft.nodes.modify id ({ · with lastLine := line }), outer⟩

/-- What leaving the innermost open statement does. -/
theorem exit_eq_ok (h : draft.exit kind line = .ok next) :
    ∃ id outer node, draft.pending = id :: outer ∧ draft.nodes[id]? = some node ∧
      node.kind = kind ∧ node.firstLine ≤ line ∧
      next = ⟨draft.nodes.modify id ({ · with lastLine := line }), outer⟩ := by
  unfold Draft.exit at h
  split at h
  · cases h
  · rename_i id outer hpending
    split at h
    · cases h
    · rename_i node hnode
      split at h
      · cases h
      · rename_i hkind
        split at h
        · cases h
        · rename_i hline
          cases h
          exact ⟨id, outer, node, hpending, hnode, Decidable.not_not.mp hkind,
            Nat.le_of_not_lt hline, rfl⟩

/-- Where a statement is entered, the changes together are one. -/
theorem run_enter (notRoot : kind ≠ .root) (draft : Draft) (line : Nat) :
    (Change.enter kind line).run draft = (.ok (), draft.enter kind line) := by
  unfold Change.enter
  rw [if_neg notRoot]
  rfl

/-- Where a statement is not left, nothing was changed before. -/
theorem run_exit (draft : Draft) (kind : StatementKind) (line : Nat) :
    (Change.exit kind line).run draft =
      match draft.exit kind line with
      | .ok next => (.ok (), next)
      | .error cause => (.error (.unbalanced line cause), draft) := by
  obtain ⟨nodes, pending⟩ := draft
  cases pending with
  | nil => rfl
  | cons id outer =>
    have hrun : (Change.exit kind line).run ⟨nodes, id :: outer⟩ =
        (match nodes[id]? with
          | none => throw (.unbalanced line (.nothingOpen kind))
          | some node => Change.close id node kind line : Change Unit).run
          ⟨nodes, id :: outer⟩ := rfl
    rw [hrun, Draft.exit]
    cases hnode : nodes[id]? with
    | none =>
      simp only [hnode]
      rfl
    | some node =>
      simp only [hnode, Change.close]
      by_cases hkind : node.kind ≠ kind
      · simp only [if_pos hkind]
        rfl
      · by_cases hline : line < node.firstLine
        · simp only [if_neg hkind, if_pos hline]
          rfl
        · simp only [if_neg hkind, if_neg hline]
          rfl

theorem accept_enter (notRoot : kind ≠ .root) (draft : Draft) (line : Nat) :
    draft.accept (.enter kind line) = .ok (draft.enter kind line) := by
  rw [accept, Change.take, run_enter notRoot]

theorem accept_exit (draft : Draft) (kind : StatementKind) (line : Nat) :
    draft.accept (.exit kind line) = (draft.exit kind line).mapError (.unbalanced line) := by
  rw [accept, Change.take, run_exit]
  cases draft.exit kind line <;> rfl

/-- What an event that is not refused does. -/
theorem accept_eq_ok (h : draft.accept event = .ok next) :
    (∃ kind line, event = .enter kind line ∧ kind ≠ .root ∧ next = draft.enter kind line) ∨
      ∃ kind line, event = .exit kind line ∧ draft.exit kind line = .ok next := by
  cases event with
  | enter kind line =>
    by_cases hroot : kind = .root
    · subst hroot
      cases h
    · rw [accept_enter hroot] at h
      cases h
      exact .inl ⟨kind, line, rfl, hroot, rfl⟩
  | exit kind line =>
    rw [accept_exit] at h
    cases hexit : draft.exit kind line with
    | error cause =>
      rw [hexit] at h
      cases h
    | ok made =>
      rw [hexit] at h
      cases h
      exact .inr ⟨kind, line, rfl, hexit⟩

/-- **An event that is refused changes nothing.** -/
theorem run_take (draft : Draft) (event : Event) :
    (Change.take event).run draft =
      match draft.accept event with
      | .ok next => (.ok (), next)
      | .error error => (.error error, draft) := by
  cases event with
  | enter kind line =>
    by_cases hroot : kind = .root
    · subst hroot
      rfl
    · rw [accept_enter hroot, Change.take, run_enter hroot]
  | exit kind line =>
    rw [accept_exit, Change.take, run_exit]
    cases draft.exit kind line <;> rfl

/-! ## Events in turn -/

/-- What comes of each event when all are fed to a draft. -/
def answers (draft : Draft) (events : List Event) : List (Except Error Unit) :=
  ((feed events).run draft).1

/-- The draft after events were fed to it. -/
def after (draft : Draft) (events : List Event) : Draft :=
  ((feed events).run draft).2

/-- The events that a draft does not refuse when all are fed to it. -/
def taken (draft : Draft) (events : List Event) : List Event :=
  ((events.zip (draft.answers events)).filter (·.2.isOk)).map Prod.fst

/-- The first event is answered, and the rest is fed to the draft as it is then. -/
theorem run_feed_cons (draft : Draft) (event : Event) (rest : List Event) :
    (feed (event :: rest)).run draft =
      (((Change.take event).run draft).1 :: ((Change.take event).run draft).2.answers rest,
        ((Change.take event).run draft).2.after rest) := rfl

section Cons

variable {rest : List Event}

theorem answers_cons_of_ok (h : draft.accept event = .ok next) :
    draft.answers (event :: rest) = .ok () :: next.answers rest := by
  rw [answers, run_feed_cons, run_take, h]

theorem after_cons_of_ok (h : draft.accept event = .ok next) :
    draft.after (event :: rest) = next.after rest := by
  rw [after, run_feed_cons, run_take, h]

theorem answers_cons_of_error (h : draft.accept event = .error error) :
    draft.answers (event :: rest) = .error error :: draft.answers rest := by
  rw [answers, run_feed_cons, run_take, h]

theorem after_cons_of_error (h : draft.accept event = .error error) :
    draft.after (event :: rest) = draft.after rest := by
  rw [after, run_feed_cons, run_take, h]

theorem taken_cons_of_ok (h : draft.accept event = .ok next) :
    draft.taken (event :: rest) = event :: next.taken rest := by
  rw [taken, answers_cons_of_ok h]
  rfl

theorem taken_cons_of_error (h : draft.accept event = .error error) :
    draft.taken (event :: rest) = draft.taken rest := by
  rw [taken, answers_cons_of_error h]
  rfl

theorem acceptAll_cons_of_ok (h : draft.accept event = .ok next) :
    draft.acceptAll (event :: rest) = next.acceptAll rest := by
  simp only [acceptAll, h]

/-- None of some events is refused: not the first one, and none of the others after it. -/
theorem acceptAll_cons_eq_ok (h : draft.acceptAll (event :: rest) = .ok next) :
    ∃ middle, draft.accept event = .ok middle ∧ middle.acceptAll rest = .ok next := by
  cases haccept : draft.accept event with
  | ok middle => exact ⟨middle, rfl, by rwa [acceptAll_cons_of_ok haccept] at h⟩
  | error error =>
    simp only [acceptAll, haccept] at h
    cases h

end Cons

theorem after_append (draft : Draft) (front back : List Event) :
    draft.after (front ++ back) = (draft.after front).after back := by
  induction front generalizing draft with
  | nil => rfl
  | cons event rest ih =>
    rw [List.cons_append]
    cases haccept : draft.accept event with
    | ok next => rw [after_cons_of_ok haccept, after_cons_of_ok haccept, ih]
    | error error => rw [after_cons_of_error haccept, after_cons_of_error haccept, ih]

theorem taken_append (draft : Draft) (front back : List Event) :
    draft.taken (front ++ back) = draft.taken front ++ (draft.after front).taken back := by
  induction front generalizing draft with
  | nil => rfl
  | cons event rest ih =>
    rw [List.cons_append]
    cases haccept : draft.accept event with
    | ok next =>
      rw [taken_cons_of_ok haccept, taken_cons_of_ok haccept, after_cons_of_ok haccept, ih,
        List.cons_append]
    | error error =>
      rw [taken_cons_of_error haccept, taken_cons_of_error haccept, after_cons_of_error haccept, ih]

/-- **The refused events may as well be left out.** -/
theorem acceptAll_taken (draft : Draft) (events : List Event) :
    draft.acceptAll (draft.taken events) = .ok (draft.after events) := by
  induction events generalizing draft with
  | nil => rfl
  | cons event rest ih =>
    cases haccept : draft.accept event with
    | ok next =>
      rw [taken_cons_of_ok haccept, acceptAll_cons_of_ok haccept, after_cons_of_ok haccept, ih]
    | error error => rw [taken_cons_of_error haccept, after_cons_of_error haccept, ih]

/-- Events none of which is refused are answered so. -/
theorem run_feed_of_acceptAll (h : draft.acceptAll events = .ok next) :
    (feed events).run draft = (events.map fun _ => .ok (), next) := by
  induction events generalizing draft with
  | nil =>
    cases h
    rfl
  | cons event rest ih =>
    obtain ⟨middle, haccept, h⟩ := acceptAll_cons_eq_ok h
    have hrest := ih h
    rw [run_feed_cons, run_take, haccept]
    simp only [answers, after, hrest, List.map_cons]

/-! ## Open statements -/

/-- An event that is taken opens the statement that it enters and closes the one that it leaves. -/
theorem openCount_of_accept (h : draft.accept event = .ok next) :
    next.openCount + Event.exits [event] = draft.openCount + Event.enters [event] := by
  rcases accept_eq_ok h with ⟨kind, line, rfl, -, rfl⟩ | ⟨kind, line, rfl, hexit⟩
  · rfl
  · obtain ⟨id, outer, node, hpending, -, -, -, rfl⟩ := exit_eq_ok hexit
    rw [openCount, openCount, hpending]
    rfl

theorem openCount_of_acceptAll (h : draft.acceptAll events = .ok next) :
    next.openCount + Event.exits events = draft.openCount + Event.enters events := by
  induction events generalizing draft with
  | nil =>
    cases h
    rfl
  | cons event rest ih =>
    obtain ⟨middle, haccept, h⟩ := acceptAll_cons_eq_ok h
    have hevent := openCount_of_accept haccept
    have hrest := ih h
    have henters := Event.enters_append [event] rest
    have hexits := Event.exits_append [event] rest
    rw [List.singleton_append] at henters hexits
    omega

/-! ## The tree of what was taken -/

/-- A draft that is used further after refusals makes the tree of the events that it took. -/
theorem ofEvents_taken (events : List Event) :
    Tree.ofEvents (empty.taken events) = (empty.after events).toTree := by
  rw [Tree.ofEvents, acceptAll_taken]

theorem toTree_of_open (h : 0 < draft.openCount) :
    draft.toTree = .error (.unclosed draft.openCount) :=
  if_pos h

theorem exists_toTree (h : draft.openCount = 0) : ∃ tree, draft.toTree = .ok tree :=
  ⟨_, if_neg (Nat.not_lt.mpr (Nat.le_of_eq h))⟩

/-- **A draft that goes on after refusals is the draft of the events that it took.** Each further
event is either taken or leaves it as it is; the open statements are those entered and not left; and
it can be finished exactly when there are none, as the tree of the events that it took. -/
theorem feed_taken (events : List Event) :
    (feed (empty.taken events)).run empty =
        ((empty.taken events).map fun _ => .ok (), empty.after events) ∧
      (∀ event,
        (∃ next, (Change.take event).run (empty.after events) = (.ok (), next) ∧
          empty.after (events ++ [event]) = next ∧
          empty.taken (events ++ [event]) = empty.taken events ++ [event]) ∨
        ∃ error, (Change.take event).run (empty.after events) =
            (.error error, empty.after events) ∧
          empty.after (events ++ [event]) = empty.after events ∧
          empty.taken (events ++ [event]) = empty.taken events) ∧
      (empty.after events).openCount + Event.exits (empty.taken events) =
        Event.enters (empty.taken events) ∧
      (0 < (empty.after events).openCount ∧
          (empty.after events).toTree = .error (.unclosed (empty.after events).openCount) ∨
        (empty.after events).openCount = 0 ∧ ∃ tree, (empty.after events).toTree = .ok tree ∧
          Tree.ofEvents (empty.taken events) = .ok tree) := by
  have htaken := acceptAll_taken empty events
  refine ⟨run_feed_of_acceptAll htaken, fun event => ?_, ?_, ?_⟩
  · rw [run_take, after_append, taken_append]
    cases haccept : (empty.after events).accept event with
    | ok next =>
      exact .inl ⟨next, rfl, after_cons_of_ok haccept,
        by rw [taken_cons_of_ok haccept]; rfl⟩
    | error error =>
      exact .inr ⟨error, rfl, after_cons_of_error haccept,
        by rw [taken_cons_of_error haccept]; exact List.append_nil _⟩
  · have hcount := openCount_of_acceptAll htaken
    have hempty : empty.openCount = 0 := rfl
    omega
  · rcases Nat.eq_zero_or_pos (empty.after events).openCount with hnone | hopen
    · obtain ⟨tree, htree⟩ := exists_toTree hnone
      exact .inr ⟨hnone, tree, htree, by rw [ofEvents_taken, htree]⟩
    · exact .inl ⟨hopen, toTree_of_open hopen⟩

/-- Another kind is open, the root is entered, a statement ends early, nothing is open. -/
example :
    empty.taken [.enter .update 2, .exit .delete 3, .enter .root 3, .exit .update 1,
      .exit .update 4, .exit .update 5] = [.enter .update 2, .exit .update 4] := rfl

end Tree.Draft

end DmlOutline
