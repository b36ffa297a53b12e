import DmlOutline.Outline.Render
import DmlOutline.Proofs.HeaderParts
import DmlOutline.Text.Digits
import DmlOutline.Theme

/-!
# What is shown tells the outline

Without colours, the lines that an outline is shown with tell the outline. A line is read in one way
only, and where the statements inside one end is told by the level of the line that follows.

* `Outline.Row` — what a line shows of a statement; `Outline.Row.line` is the line.
* `Outline.rowsAt` — the rows of an outline.
* `Outline.plainLines` — the lines of an outline without colours.

Principal results: `Outline.Row.line_injective`: a line tells its row; `Outline.rowsAt_inj`: rows
tell the outline; `Outline.plainLines_inj`.
-/

namespace DmlOutline.Outline

open ProgramUnit

/-! ## Rows -/

/-- What a line shows of a statement: its level, its kind and its lines. -/
structure Row where
  level : Nat
  kind : StatementKind
  firstLine : Nat
  lastLine : Nat
  deriving DecidableEq, Repr

/-- The line that shows a row without colours. -/
def Row.line (row : Row) : String :=
  String.ofList (List.replicate (2 * row.level) ' ') ++ row.kind.tag ++ " "
    ++ toString row.firstLine ++ "-" ++ toString row.lastLine

mutual

/-- The rows of an outline whose top is on a level. -/
def rowsAt (level : Nat) : Outline → List Row
  | node kind firstLine lastLine parts =>
    ⟨level, kind, firstLine, lastLine⟩ :: partRowsAt (level + 1) parts

/-- The rows of outlines whose tops are on a level. -/
def partRowsAt (level : Nat) : List Outline → List Row
  | [] => []
  | part :: rest => rowsAt level part ++ partRowsAt level rest

end

/-- The lines of an outline without colours. -/
def plainLines (outline : Outline) : List String :=
  outline.render fun kind text => (Theme.plain.kind kind).apply text

/-- Without colours a text is shown as it is. -/
theorem apply_plain (kind : StatementKind) (text : String) :
    (Theme.plain.kind kind).apply text = text := by
  cases kind <;> rfl

mutual

theorem renderAt_plain (level : Nat) : (outline : Outline) →
    renderAt (fun kind text => (Theme.plain.kind kind).apply text) level outline =
      (rowsAt level outline).map Row.line
  | node kind firstLine lastLine parts => by
    rw [renderAt, rowsAt, List.map_cons, apply_plain, renderParts_plain]
    rfl

theorem renderParts_plain (level : Nat) : (parts : List Outline) →
    renderParts (fun kind text => (Theme.plain.kind kind).apply text) level parts =
      (partRowsAt level parts).map Row.line
  | [] => rfl
  | part :: rest => by
    rw [renderParts, partRowsAt, List.map_append, renderAt_plain, renderParts_plain]

end

/-- The lines of an outline without colours are those of its rows. -/
theorem plainLines_eq (outline : Outline) :
    outline.plainLines = (rowsAt 0 outline).map Row.line :=
  renderAt_plain 0 outline

/-! ## Lines tell their rows -/

/-- A text has one cut between characters that satisfy a test and a rest that does not go on with
one. -/
theorem append_inj_of_stops {test : Char → Bool} {front front' back back' : List Char}
    (hfront : ∀ c ∈ front, test c = true) (hfront' : ∀ c ∈ front', test c = true)
    (hback : Stops test back) (hback' : Stops test back')
    (h : front ++ back = front' ++ back') : front = front' ∧ back = back' := by
  have hcut : (front ++ back).span test = (front, back) := span_eq_iff.mpr ⟨rfl, hfront, hback⟩
  have hcut' : (front ++ back).span test = (front', back') :=
    span_eq_iff.mpr ⟨h, hfront', hback'⟩
  exact Prod.mk.inj (hcut.symm.trans hcut')

theorem isDigit_toDigits (n : Nat) : ∀ c ∈ Nat.toDigits 10 n, c.isDigit = true :=
  fun _ hc => Nat.isDigit_of_mem_toDigits (by decide) (by decide) hc

theorem isUpper_tag (kind : StatementKind) : ∀ c ∈ kind.tag.toList, c.isUpper = true :=
  List.all_eq_true.mp (by cases kind <;> rfl)

/-- A tag begins with a letter, so an indentation ends before it. -/
theorem stops_tag (kind : StatementKind) (rest : List Char) :
    Stops (· == ' ') (kind.tag.toList ++ rest) := by
  cases kind <;> exact stops_cons (by decide) _

theorem Row.toList_line (row : Row) :
    row.line.toList = List.replicate (2 * row.level) ' ' ++ (row.kind.tag.toList ++
      ' ' :: (Nat.toDigits 10 row.firstLine ++ '-' :: Nat.toDigits 10 row.lastLine)) := by
  simp [Row.line, toString]

/-- **A line tells its row.** -/
theorem Row.line_injective {a b : Row} (h : a.line = b.line) : a = b := by
  have hchars := congrArg String.toList h
  rw [toList_line, toList_line] at hchars
  have hblank : ∀ n, ∀ c ∈ List.replicate n ' ', (c == ' ') = true := by simp
  obtain ⟨hindent, hchars⟩ := append_inj_of_stops (hblank _) (hblank _) (stops_tag _ _)
    (stops_tag _ _) hchars
  obtain ⟨htag, hchars⟩ := append_inj_of_stops (isUpper_tag _) (isUpper_tag _)
    (stops_cons (by decide) _) (stops_cons (by decide) _) hchars
  obtain ⟨hfirst, hchars⟩ := append_inj_of_stops (isDigit_toDigits _) (isDigit_toDigits _)
    (stops_cons (by decide) _) (stops_cons (by decide) _) (List.cons.inj hchars).2
  have hlevel : a.level = b.level := by
    have hlength := congrArg List.length hindent
    rw [List.length_replicate, List.length_replicate] at hlength
    omega
  have hkind := StatementKind.tag_injective (String.toList_injective htag)
  have hlast := Text.toDigits_inj (List.cons.inj hchars).2
  cases a
  cases b
  cases hlevel
  cases hkind
  cases Text.toDigits_inj hfirst
  cases hlast
  rfl

/-! ## Rows tell their outline -/

/-- Rows that do not go on inside the statements of a level. -/
def Leaves (level : Nat) (rows : List Row) : Prop :=
  ∀ row ∈ rows.head?, row.level < level

/-- After an outline its siblings follow, on the level of its top. -/
theorem Leaves.partRowsAt {level : Nat} {rest : List Row} (h : Leaves level rest)
    (parts : List Outline) : Leaves (level + 1) (partRowsAt level parts ++ rest) := by
  intro row hrow
  cases parts with
  | nil => exact Nat.lt_succ_of_lt (h row hrow)
  | cons part others =>
    cases part with
    | node kind firstLine lastLine inner =>
      cases hrow
      exact Nat.lt_succ_self level

/-- An outline on a level is not left. -/
theorem Leaves.ne_partRowsAt {level : Nat} {rest : List Row} (h : Leaves level rest)
    (part : Outline) (others : List Outline) {rest' : List Row} :
    rest ≠ Outline.partRowsAt level (part :: others) ++ rest' := by
  rintro rfl
  cases part with
  | node kind firstLine lastLine inner => exact Nat.lt_irrefl level (h _ rfl)

mutual

/-- **The rows of an outline tell it,** whatever rows of its level or of outer ones follow. -/
theorem rowsAt_inj {level : Nat} {rest rest' : List Row} (hrest : Leaves (level + 1) rest)
    (hrest' : Leaves (level + 1) rest') : (a b : Outline) →
      rowsAt level a ++ rest = rowsAt level b ++ rest' → a = b ∧ rest = rest'
  | node _ _ _ parts, node _ _ _ parts', h => by
    obtain ⟨hrow, hrows⟩ := List.cons.inj h
    cases hrow
    obtain ⟨rfl, rfl⟩ := partRowsAt_inj hrest hrest' parts parts' hrows
    exact ⟨rfl, rfl⟩

theorem partRowsAt_inj {level : Nat} {rest rest' : List Row} (hrest : Leaves level rest)
    (hrest' : Leaves level rest') : (parts parts' : List Outline) →
      partRowsAt level parts ++ rest = partRowsAt level parts' ++ rest' →
        parts = parts' ∧ rest = rest'
  | [], [], h => ⟨rfl, h⟩
  | [], part' :: others', h => absurd h (hrest.ne_partRowsAt part' others')
  | part :: others, [], h => absurd h.symm (hrest'.ne_partRowsAt part others)
  | part :: others, part' :: others', h => by
    rw [partRowsAt, partRowsAt, List.append_assoc, List.append_assoc] at h
    obtain ⟨rfl, hothers⟩ :=
      rowsAt_inj (hrest.partRowsAt others) (hrest'.partRowsAt others') part part' h
    obtain ⟨rfl, rfl⟩ := partRowsAt_inj hrest hrest' others others' hothers
    exact ⟨rfl, rfl⟩

end

/-- **What is shown without colours tells the outline.** In any colours it is one line for the top
and one for each statement below it. -/
theorem plainLines_inj (a b : Outline) :
    (a.plainLines = b.plainLines ↔ a = b) ∧
      ∀ style, (a.render style).length = 1 + a.statementCount := by
  refine ⟨⟨fun h => ?_, fun h => h ▸ rfl⟩, fun style => length_render style a⟩
  rw [plainLines_eq, plainLines_eq] at h
  have hrows : rowsAt 0 a = rowsAt 0 b :=
    List.map_injective_iff.mpr (fun _ _ => Row.line_injective) h
  have hend : Leaves 1 [] := fun _ hrow => nomatch hrow
  exact (rowsAt_inj hend hend a b (by rw [hrows])).1

/-- Only the level of the last line tells whether it is inside the one before. -/
example :
    (node .root 0 2 [node .update 1 2 [node .select 1 1 []]]).plainLines =
      ["ROOT 0-2", "  UPDATE 1-2", "    SELECT 1-1"] ∧
    (node .root 0 2 [node .update 1 2 [], node .select 1 1 []]).plainLines =
      ["ROOT 0-2", "  UPDATE 1-2", "  SELECT 1-1"] := by
  decide +kernel

end DmlOutline.Outline
