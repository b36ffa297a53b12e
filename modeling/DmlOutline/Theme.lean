import DmlOutline.Statement

/-!
# Themes

The colours in which a terminal shows messages. A style is a list of display attributes, which are
switched on before a text and off after it.

* `Style`, `Style.apply` — a style and the text it is applied to.
* `Theme` — the styles of the different messages; `Theme.plain` and `Theme.colored`.
* `Theme.kind` — the style of a kind of statement: queries and changes are told apart.
-/

namespace DmlOutline

/-- The numbers of display attributes; none for plain text. -/
abbrev Style := List Nat

/-- A text in a style. -/
def Style.apply (style : Style) (text : String) : String :=
  match style with
  | [] => text
  | codes => "\x1b[" ++ ";".intercalate (codes.map toString) ++ "m" ++ text ++ "\x1b[0m"

/-- The styles of messages. -/
structure Theme where
  header : Style
  success : Style
  warning : Style
  dim : Style
  query : Style
  change : Style

namespace Theme

/-- No colours at all. -/
def plain : Theme :=
  ⟨[], [], [], [], [], []⟩

/-- The colours of a terminal: the second attribute makes a text bold, or dim. -/
def colored : Theme where
  header := [36, 1]
  success := [32, 1]
  warning := [33, 1]
  dim := [37, 2]
  query := [34, 1]
  change := [35, 1]

/-- The style of a kind of statement. -/
def kind (theme : Theme) : StatementKind → Style
  | .root => theme.dim
  | .select => theme.query
  | _ => theme.change

end Theme

end DmlOutline
