import DmlOutline.Token.Lexeme

/-!
# Operators

The signs made of fixed characters. Where several begin at one place, the longest is meant.

* `operators` — all of them, longer ones first.
* `Lexeme.operator?` — the operator that a text begins with.
-/

namespace DmlOutline.Token

/-- All operators, longer ones first. -/
def operators : List String :=
  ["!~~*",
   "->>", "!~*", "!~~", "<=>", "||/", "~~*",
   "->", "//", "==", "=>", "!=", "!!", "!~", "<=", "<>", "<<", "<@", ">=", ">>", "::", ":=",
   "||", "|/", "|>", "&&", "^@", "~*", "~~",
   ",", "+", "*", "-", "/", "%", "=", "!", "<", ">", ":", "|", "&", "^", "[", "]", "\x7b", "\x7d",
   "\\", "~"]

/-- The text that an operator is shown with: the two spellings of "not equal" are one sign. -/
def operatorText (operator : String) : String :=
  if operator = "!=" then "<>" else operator

/-- The longest operator at the beginning of a text. -/
def Lexeme.operator? (text : List Char) : Option Lexeme :=
  (operators.find? fun operator => operator.toList.isPrefixOf text).map fun operator =>
    ⟨some .symbol, (operatorText operator).toList, operator.length⟩

end DmlOutline.Token
