import DmlOutline.Error
import DmlOutline.Text.Alphabetic
import DmlOutline.Text.Digits
import DmlOutline.Text.Numeric
import DmlOutline.Token

/-!
# Lexemes

A lexeme is what is found at one place of a source text: a token, or white space or a comment that
leaves none. It tells how many characters it takes, so that the place of the next one is known.

* `Lexeme` — a kind, a text and a length.
* `Fault` — what is wrong with a text, and how many characters were read when it was found.
* `isIdentStart`, `isIdentPart` — the characters that begin and continue a bare word.
* `Lexeme.word` — the bare word that a text begins with.
-/

namespace DmlOutline.Token

/-- What is found at one place of a text. `kind` is missing for what leaves no token. -/
structure Lexeme where
  kind : Option Kind
  text : List Char
  length : Nat
  deriving DecidableEq, Repr

/-- What is wrong with a text, found after `offset` of its characters. -/
structure Fault where
  cause : ParseFault
  offset : Nat
  deriving DecidableEq, Repr

/-- The characters that begin a bare word. -/
def isIdentStart (c : Char) : Bool :=
  Text.isAlphabetic c || c == '_'

/-- The characters that continue a bare word. -/
def isIdentPart (c : Char) : Bool :=
  Text.isAlphabetic c || c.isDigit || c == '@' || c == '$' || c == '#' || c == '_'

/-- The characters of the tag of a dollar-quoted text. -/
def isTagPart (c : Char) : Bool :=
  Text.isAlphabetic c || Text.isNumeric c || c == '_'

namespace Lexeme

/-- White space or a comment of some length. -/
def blank (length : Nat) : Lexeme :=
  ⟨none, [], length⟩

/-- A sign that stands for itself. -/
def sign (text : List Char) : Lexeme :=
  ⟨some .symbol, text, text.length⟩

/-- A bare word: the characters it starts with, whatever they are, and all that continue it. -/
def word (start : List Char) (rest : List Char) : Lexeme :=
  let text := start ++ rest.takeWhile isIdentPart
  ⟨some .word, text, text.length⟩

end Lexeme

end DmlOutline.Token
