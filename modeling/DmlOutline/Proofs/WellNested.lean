import DmlOutline.Event
import DmlOutline.Outline

/-!
# Well nested walks

A complete walk through statements leaves each statement that it enters, the inner ones before the
outer ones. This is said in three ways, and they agree:

* `WellNested` — by the shape of the list of events.
* `Event.trackAll` — by a stack of openings that is empty at the beginning and at the end.
* `Outline.partsWalk` — by outlines whose walk the list is.

Principal results: `wellNested_iff_trackAll`, `wellNested_iff_partsWalk`.
-/

namespace DmlOutline

/-! ## The shape of a complete walk -/

/-- A list of events that leaves all that it enters, in the right order and on no earlier line. -/
inductive WellNested : List Event → Prop where
  | nil : WellNested []
  | cons {kind : StatementKind} {first last : Nat} {inner rest : List Event}
      (notRoot : kind ≠ .root) (inOrder : first ≤ last) (inside : WellNested inner)
      (after : WellNested rest) :
      WellNested (.enter kind first :: inner ++ .exit kind last :: rest)

namespace WellNested

theorem append {front back : List Event} (hf : WellNested front) (hb : WellNested back) :
    WellNested (front ++ back) := by
  induction hf with
  | nil => exact hb
  | cons notRoot inOrder inside _ _ ih =>
    rw [List.append_assoc, List.cons_append]
    exact cons notRoot inOrder inside ih

/-- One statement with what is inside it. -/
theorem single {kind : StatementKind} {first last : Nat} {inner : List Event}
    (notRoot : kind ≠ .root) (inOrder : first ≤ last) (inside : WellNested inner) :
    WellNested (.enter kind first :: inner ++ [.exit kind last]) :=
  cons notRoot inOrder inside nil

end WellNested

/-! ## Openings that wait for their end -/

namespace Event

/-- A statement that was entered on a line and not left yet. -/
structure Opening where
  kind : StatementKind
  line : Nat
  deriving DecidableEq, Repr

/-- The openings after an event, the innermost first, if the event fits them. -/
def track (opened : List Opening) : Event → Option (List Opening)
  | enter kind line => if kind = .root then none else some (⟨kind, line⟩ :: opened)
  | exit kind line =>
    match opened with
    | [] => none
    | opening :: outer =>
      if opening.kind = kind ∧ opening.line ≤ line then some outer else none

/-- The openings after a list of events, if all of them fit. -/
def trackAll (opened : List Opening) : List Event → Option (List Opening)
  | [] => some opened
  | event :: rest => (event.track opened).bind fun next => trackAll next rest

theorem trackAll_append (opened : List Opening) (front back : List Event) :
    trackAll opened (front ++ back) =
      (trackAll opened front).bind fun next => trackAll next back := by
  induction front generalizing opened with
  | nil => rfl
  | cons event rest ih =>
    simp only [List.cons_append, trackAll, Option.bind_assoc]
    cases event.track opened with
    | none => rfl
    | some next => exact ih next

/-- Events that fit lead on from where the ones before them led. -/
theorem trackAll_append_of_eq {opened middle : List Opening} {front : List Event}
    (hf : trackAll opened front = some middle) (back : List Event) :
    trackAll opened (front ++ back) = trackAll middle back := by
  rw [trackAll_append, hf, Option.bind_some]

theorem track_enter {kind : StatementKind} (notRoot : kind ≠ .root) (opened : List Opening)
    (line : Nat) : track opened (enter kind line) = some (⟨kind, line⟩ :: opened) := by
  simp [track, notRoot]

theorem track_exit {opening : Opening} {line : Nat} (inOrder : opening.line ≤ line)
    (outer : List Opening) : track (opening :: outer) (exit opening.kind line) = some outer := by
  simp [track, inOrder]

/-- What an event does to the openings. -/
theorem track_eq_some_iff {opened next : List Opening} {event : Event} :
    event.track opened = some next ↔
      (∃ kind line, event = enter kind line ∧ kind ≠ .root ∧ next = ⟨kind, line⟩ :: opened) ∨
      (∃ opening line, event = exit opening.kind line ∧ opened = opening :: next ∧
        opening.line ≤ line) := by
  constructor
  · intro h
    cases event with
    | enter kind line =>
      simp only [track] at h
      split at h
      · cases h
      · rename_i notRoot
        exact .inl ⟨kind, line, rfl, notRoot, (Option.some.inj h).symm⟩
    | exit kind line =>
      simp only [track] at h
      split at h
      · cases h
      · rename_i opening outer
        split at h
        · rename_i fits
          obtain ⟨rfl, inOrder⟩ := fits
          obtain rfl := Option.some.inj h
          exact .inr ⟨opening, line, rfl, rfl, inOrder⟩
        · cases h
  · rintro (⟨kind, line, rfl, notRoot, rfl⟩ | ⟨opening, line, rfl, rfl, inOrder⟩)
    · exact track_enter notRoot opened line
    · exact track_exit inOrder next

end Event

open Event

/-- A complete walk leaves the openings as they were. -/
theorem WellNested.trackAll {events : List Event} (h : WellNested events)
    (opened : List Event.Opening) : Event.trackAll opened events = some opened := by
  induction h generalizing opened with
  | nil => rfl
  | @cons kind first last inner rest notRoot inOrder _ _ ihInside ihAfter =>
    have hexit : track (⟨kind, first⟩ :: opened) (exit kind last) = some opened :=
      track_exit inOrder opened
    rw [List.cons_append, Event.trackAll, track_enter notRoot, Option.bind_some,
      trackAll_append_of_eq (ihInside _), Event.trackAll, hexit, Option.bind_some]
    exact ihAfter opened

/-- A list of events that leaves all openings, one after the other, with complete walks between
them. -/
def Closes : List Event.Opening → List Event → Prop
  | [], events => WellNested events
  | opening :: outer, events =>
    ∃ inner last rest, events = inner ++ .exit opening.kind last :: rest ∧ WellNested inner ∧
      opening.line ≤ last ∧ Closes outer rest

/-- A complete walk may come first. -/
theorem WellNested.append_closes {front back : List Event} {opened : List Event.Opening}
    (hf : WellNested front) (hb : Closes opened back) : Closes opened (front ++ back) := by
  cases opened with
  | nil => exact hf.append hb
  | cons opening outer =>
    obtain ⟨inner, last, rest, rfl, hi, inOrder, hr⟩ := hb
    exact ⟨front ++ inner, last, rest, by rw [List.append_assoc], hf.append hi, inOrder, hr⟩

/-- Events after which nothing is open leave all that was open before. -/
theorem closes_of_trackAll {opened : List Event.Opening} {events : List Event}
    (h : Event.trackAll opened events = some []) : Closes opened events := by
  induction events generalizing opened with
  | nil =>
    obtain rfl := Option.some.inj h
    exact .nil
  | cons event rest ih =>
    obtain ⟨next, hnext, hrest⟩ := Option.bind_eq_some_iff.mp h
    have hcloses := ih hrest
    rcases track_eq_some_iff.mp hnext with
      ⟨kind, line, rfl, notRoot, rfl⟩ | ⟨opening, line, rfl, rfl, inOrder⟩
    · -- what is entered here is left by the first of the exits that follow
      obtain ⟨inner, last, after, rfl, hi, inOrder, ha⟩ := hcloses
      have hone := WellNested.single notRoot inOrder hi
      simpa using hone.append_closes ha
    · exact ⟨[], line, rest, rfl, .nil, inOrder, hcloses⟩

/-- **A walk is complete when it starts and ends with nothing open.** -/
theorem wellNested_iff_trackAll {events : List Event} :
    WellNested events ↔ Event.trackAll [] events = some [] :=
  ⟨fun h => h.trackAll [], closes_of_trackAll⟩

/-! ## The walk of an outline -/

namespace Outline

mutual

/-- The walk through an outline: its top is entered, the parts are walked, its top is left. -/
def walk : Outline → List Event
  | node kind firstLine lastLine parts =>
    .enter kind firstLine :: partsWalk parts ++ [.exit kind lastLine]

/-- The walk through outlines in turn. -/
def partsWalk : List Outline → List Event
  | [] => []
  | part :: rest => walk part ++ partsWalk rest

end

mutual

/-- Every statement of an outline is of a kind that can be entered and ends no earlier than it
begins. -/
def Proper : Outline → Prop
  | node kind firstLine lastLine parts => kind ≠ .root ∧ firstLine ≤ lastLine ∧ PartsProper parts

/-- Outlines that are all proper. -/
def PartsProper : List Outline → Prop
  | [] => True
  | part :: rest => Proper part ∧ PartsProper rest

end

mutual

theorem Proper.wellNested : {outline : Outline} → outline.Proper → WellNested outline.walk
  | node _ _ _ _, ⟨notRoot, inOrder, hparts⟩ => .single notRoot inOrder hparts.wellNested

theorem PartsProper.wellNested : {parts : List Outline} → PartsProper parts →
    WellNested (partsWalk parts)
  | [], _ => .nil
  | _ :: _, ⟨hpart, hrest⟩ => hpart.wellNested.append hrest.wellNested

end

mutual

/-- Every statement of an outline is entered once and left once. -/
theorem length_walk : (outline : Outline) →
    outline.walk.length = 2 * (1 + outline.statementCount)
  | node _ _ _ parts => by
    rw [walk, List.length_append, List.length_cons, List.length_singleton, length_partsWalk,
      statementCount]
    omega

theorem length_partsWalk : (parts : List Outline) →
    (partsWalk parts).length = 2 * partsCount parts
  | [] => rfl
  | part :: rest => by
    rw [partsWalk, List.length_append, length_walk, length_partsWalk, partsCount]
    omega

end

end Outline

/-- **A complete walk is the walk through some outlines.** -/
theorem wellNested_iff_partsWalk {events : List Event} :
    WellNested events ↔ ∃ parts, Outline.PartsProper parts ∧ Outline.partsWalk parts = events := by
  constructor
  · intro h
    induction h with
    | nil => exact ⟨[], trivial, rfl⟩
    | @cons kind first last inner rest notRoot inOrder _ _ ihInside ihAfter =>
      obtain ⟨inside, hinside, rfl⟩ := ihInside
      obtain ⟨after, hafter, rfl⟩ := ihAfter
      refine ⟨.node kind first last inside :: after, ⟨⟨notRoot, inOrder, hinside⟩, hafter⟩, ?_⟩
      simp only [Outline.partsWalk, Outline.walk, List.cons_append, List.append_assoc,
        List.nil_append]
  · rintro ⟨parts, hparts, rfl⟩
    exact hparts.wellNested

end DmlOutline
