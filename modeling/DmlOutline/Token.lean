/-!
# Tokens

A source text as its words, literals and signs, each with the line it begins on. White space and
comments leave no token.

* `Token.Kind`, `Token` — what a token is.
* `Token.isWord` — a bare word, compared without regard to ASCII case.
* `Token.isSymbol` — a sign with exactly this text.
-/

namespace DmlOutline

/-- What a token is. -/
inductive Token.Kind where
  /-- A bare identifier or keyword. -/
  | word
  /-- An identifier in quotes. -/
  | quotedIdent
  /-- A literal text. -/
  | literal
  | number
  | openParen
  | closeParen
  | semicolon
  /-- Any other sign. -/
  | symbol
  deriving DecidableEq, Repr

/-- A piece of a source text and the line it begins on. -/
structure Token where
  kind : Token.Kind
  text : String
  line : Nat
  deriving DecidableEq, Repr

namespace Token

/-- The text of a token with its ASCII letters in upper case. -/
def keyword (token : Token) : String :=
  String.ofList (token.text.toList.map Char.toUpper)

/-- Whether a token is a bare word that reads as this upper-case keyword. -/
def isWord (token : Token) (keyword : String) : Bool :=
  token.kind = .word && token.keyword = keyword

/-- Whether a token is exactly this sign. -/
def isSymbol (token : Token) (text : String) : Bool :=
  token.kind = .symbol && token.text = text

/-- Being a word depends on the kind and on the keyword alone. -/
theorem isWord_iff {token : Token} {keyword : String} :
    token.isWord keyword = true ↔ token.kind = .word ∧ token.keyword = keyword := by
  simp [isWord]

theorem isSymbol_iff {token : Token} {text : String} :
    token.isSymbol text = true ↔ token.kind = .symbol ∧ token.text = text := by
  simp [isSymbol]

end Token

end DmlOutline
