import DmlOutline.Outline

/-!
# Showing outlines

An outline is shown with one line for each statement, indented by its level.

* `Outline.render` — the lines; each kind is shown as `style` wants it.
* `Outline.length_render` — there is one line for the top and one for each statement below it.
-/

namespace DmlOutline.Outline

mutual

/-- The lines of an outline whose top is on a level. -/
def renderAt (style : StatementKind → String → String) (level : Nat) : Outline → List String
  | node kind firstLine lastLine parts =>
    (String.ofList (List.replicate (2 * level) ' ') ++ style kind kind.tag ++ " "
      ++ toString firstLine ++ "-" ++ toString lastLine)
      :: renderParts style (level + 1) parts

/-- The lines of outlines whose tops are on a level. -/
def renderParts (style : StatementKind → String → String) (level : Nat) :
    List Outline → List String
  | [] => []
  | part :: rest => renderAt style level part ++ renderParts style level rest

end

/-- The lines of an outline. -/
def render (style : StatementKind → String → String) (outline : Outline) : List String :=
  renderAt style 0 outline

mutual

theorem length_renderAt (style : StatementKind → String → String) (level : Nat) :
    (outline : Outline) → (renderAt style level outline).length = 1 + outline.statementCount
  | node _ _ _ parts => by
    simp only [renderAt, List.length_cons, length_renderParts, statementCount]
    omega

theorem length_renderParts (style : StatementKind → String → String) (level : Nat) :
    (parts : List Outline) → (renderParts style level parts).length = partsCount parts
  | [] => rfl
  | part :: rest => by
    simp only [renderParts, List.length_append, length_renderAt, length_renderParts, partsCount]

end

/-- There is one line for the top and one for each statement below it. -/
theorem length_render (style : StatementKind → String → String) (outline : Outline) :
    (render style outline).length = 1 + outline.statementCount :=
  length_renderAt style 0 outline

end DmlOutline.Outline
