import DmlOutline.Text.Space
import DmlOutline.Token.Number
import DmlOutline.Token.Operator
import DmlOutline.Token.Quoted

/-!
# From text to tokens

A text is read lexeme by lexeme. The first character of a lexeme decides what it is, with some
help from the ones after it; a lexeme that is not closed, or is malformed, is an error at a line.

* `lexeme` — the lexeme at the beginning of a text.
* `Token.ofText` — the tokens of a text, or the first fault with the number of its line.
* `Token.lineCount` — how many lines a text has; their numbers are in order as long as they have 32
  bits.
-/

namespace DmlOutline.Token

/-! ## Lexemes with a closing -/

/-- A literal or sign with a body that ends in a quote: its text is shown between `opening` and
`closing`. -/
def closed (kind : Kind) (fault : ParseFault) (opening closing : String) :
    Option Body → Except Fault Lexeme
  | some (content, length) => .ok ⟨some kind, opening.toList ++ content ++ closing.toList, length⟩
  | none => .error ⟨fault, 0⟩

/-- A quoted identifier, from its opening quote on. -/
def quotedIdent (quote : Char) (rest : List Char) : Except Fault Lexeme :=
  closed .quotedIdent (.unclosedIdentifier quote) "" "" (quotedBody quote 1 rest)

/-- A text after a letter `b`, from its opening quote on. It is a sign with its quotes. -/
def byteString (quote : Char) (rest : List Char) : Except Fault Lexeme :=
  closed .symbol .unclosedString ("B" ++ String.singleton quote) (String.singleton quote)
    (quotedBody quote 2 rest)

/-- A text after a letter `r`, from its opening quote on: between single quotes or between triple
ones. It is a sign with its quotes. -/
def rawString (quote : Char) (rest : List Char) : Except Fault Lexeme :=
  let one := String.singleton quote
  if rest.take 1 = [quote] then
    if (rest.drop 1).take 1 = [quote] then
      closed .symbol .unclosedString ("R" ++ one ++ one ++ one) (one ++ one ++ one)
        (tripleBody quote 4 (rest.drop 2))
    else .ok ⟨some .symbol, ['R', quote, quote], 3⟩
  else closed .symbol .unclosedString ("R" ++ one) one (quotedBody quote 2 rest)

/-- A text after a letter `u` and an ampersand, from after its opening quote on. -/
def unicodeString (rest : List Char) : Except Fault Lexeme :=
  match unicodeBody 3 0 rest with
  | .ok (content, length) =>
    .ok ⟨some .symbol, ['U', '&', '\x27'] ++ content ++ ['\x27'], length⟩
  | .error fault => .error fault

/-- A text between dollars, or a dollar with a name, from after the first dollar on. -/
def dollar (rest : List Char) : Except Fault Lexeme :=
  if rest.head? = some '$' then
    match dollarBody 2 false rest.tail with
    | some (content, length) => .ok ⟨some .symbol, ['$', '$'] ++ content ++ ['$', '$'], length⟩
    | none => .error ⟨.unclosedDollar, rest.length + 1⟩
  else
    let tag := '$' :: rest.takeWhile isTagPart
    let afterTag := rest.drop (tag.length - 1)
    if afterTag.head? = some '$' then
      let fence := tag ++ ['$']
      match taggedBody fence fence.length afterTag.tail with
      | some (content, length) => .ok ⟨some .symbol, fence ++ content ++ fence, length⟩
      | none => .error ⟨.unclosedDollarTag, rest.length + 1⟩
    else .ok (Lexeme.sign tag)

/-! ## Comments -/

/-- The length of a comment up to the end of its line, the line break included. -/
def lineComment (text : List Char) : Nat :=
  let body := text.takeWhile (· ≠ '\n')
  body.length + ((text.drop body.length).take 1).length

/-- The position after a comment in which `depth` more comments than it are open. -/
def blockComment (pos : Nat) : Nat → List Char → Option Nat
  | _, [] => none
  | depth, '/' :: '*' :: rest => blockComment (pos + 2) (depth + 1) rest
  | 0, '*' :: '/' :: _ => some (pos + 2)
  | depth + 1, '*' :: '/' :: rest => blockComment (pos + 2) depth rest
  | depth, _ :: rest => blockComment (pos + 1) depth rest

/-! ## Words that begin with a sign -/

/-- What begins with a number sign, from after it on. -/
def numberSign : List Char → Lexeme
  | '-' :: _ => Lexeme.sign ['#', '-']
  | '>' :: '>' :: _ => Lexeme.sign ['#', '>', '>']
  | '>' :: _ => Lexeme.sign ['#', '>']
  | ' ' :: _ => Lexeme.sign ['#']
  | [] => Lexeme.sign ['#']
  | c :: rest => Lexeme.word ['#', c] rest

/-- What begins with an at sign, from after it on. -/
def atSign : List Char → Lexeme
  | '>' :: _ => Lexeme.sign ['@', '>']
  | '?' :: _ => Lexeme.sign ['@', '?']
  | '@' :: [] => Lexeme.sign ['@', '@']
  | '@' :: ' ' :: _ => Lexeme.sign ['@', '@']
  | '@' :: c :: rest => Lexeme.word ['@', '@', c] rest
  | [] => Lexeme.sign ['@']
  | c :: rest =>
    if c ∈ [' ', '\x27', '"', '\x60'] then Lexeme.sign ['@'] else Lexeme.word ['@', c] rest

/-! ## One lexeme -/

/-- What begins with a letter that may announce a quoted text, from after the letter on. -/
def lettered (letter : Char) (rest : List Char) : Except Fault Lexeme :=
  let plain := .ok (Lexeme.word [letter] rest)
  match letter.toUpper, rest with
  | 'B', '\x27' :: body => byteString '\x27' body
  | 'B', '"' :: body => byteString '"' body
  | 'R', '\x27' :: body => rawString '\x27' body
  | 'R', '"' :: body => rawString '"' body
  | 'N', '\x27' :: body => closed .literal .unclosedString "" "" (quotedBody '\x27' 2 body)
  | 'X', '\x27' :: body => closed .literal .unclosedString "" "" (backslashBody 2 body)
  | 'E', '\x27' :: body => closed .literal .badEscapedString "" "" (escapedBody 2 0 body)
  | 'U', '&' :: '\x27' :: body => unicodeString body
  | _, _ => plain

/-- What begins with a sign, a character that has no other rule included. -/
def signed (c : Char) (rest : List Char) : Lexeme :=
  match Lexeme.operator? (c :: rest) with
  | some found => found
  | none => Lexeme.sign [c]

/-- The lexeme at the beginning of a text that is not empty. `afterIdent` tells whether the lexeme
before was an identifier, which a dot may follow even before an underscore. -/
def lexeme (afterIdent : Bool) (c : Char) (rest : List Char) : Except Fault Lexeme :=
  if Text.isSpace c then .ok (Lexeme.blank 1)
  else if c.isDigit then .ok (Lexeme.number (c :: rest))
  else if isIdentStart c then lettered c rest
  else
    match c, rest with
    | '\x27', body => closed .literal .unclosedString "" "" (quotedBody '\x27' 1 body)
    | '"', body => quotedIdent '"' body
    | '\x60', body => quotedIdent '\x60' body
    | '.', '_' :: _ =>
      if afterIdent then .ok (Lexeme.sign ['.']) else .error ⟨.strayUnderscore, 0⟩
    | '.', _ => .ok (Lexeme.number (c :: rest))
    | '(', _ => .ok ⟨some .openParen, ['('], 1⟩
    | ')', _ => .ok ⟨some .closeParen, [')'], 1⟩
    | ';', _ => .ok ⟨some .semicolon, [';'], 1⟩
    | '-', '-' :: body => .ok (Lexeme.blank (lineComment body + 2))
    | '/', '*' :: body =>
      match blockComment 2 0 body with
      | some length => .ok (Lexeme.blank length)
      | none => .error ⟨.unclosedComment, rest.length + 1⟩
    | '#', _ => .ok (numberSign rest)
    | '@', _ => .ok (atSign rest)
    | '?', _ => .ok (Lexeme.sign ('?' :: rest.takeWhile Text.isNumeric))
    | '$', _ => dollar rest
    | _, _ => .ok (signed c rest)

/-! ## All tokens -/

/-- The line after a character. -/
def lineAfter (line : Nat) (c : Char) : Nat :=
  if c = '\n' then line + 1 else line

/-- The number of a line. Numbers have 32 bits: after the greatest they begin again with zero. -/
def lineNumber (line : Nat) : Nat :=
  line % UInt32.size

/-- How many lines a text has. -/
def lineCount (text : String) : Nat :=
  text.toList.count '\n' + 1

/-- Whether a lexeme is an identifier. -/
def Lexeme.isIdent (found : Lexeme) : Bool :=
  found.kind = some .word || found.kind = some .quotedIdent

/-- The tokens of a text that begins on a line. The first `skip` characters belong to a lexeme that
was already read, and `afterIdent` tells whether that was an identifier. -/
def ofLines (afterIdent : Bool) (line : Nat) : Nat → List Char → Except Error (List Token)
  | _, [] => .ok []
  | skip + 1, c :: rest => ofLines afterIdent (lineAfter line c) skip rest
  | 0, c :: rest =>
    match lexeme afterIdent c rest with
    | .error fault =>
      let reached := ((c :: rest).take fault.offset).foldl lineAfter line
      .error (.parse (lineNumber reached) fault.cause)
    | .ok found =>
      match ofLines found.isIdent (lineAfter line c) (found.length - 1) rest with
      | .error fault => .error fault
      | .ok tokens =>
        .ok (match found.kind with
          | some kind => ⟨kind, String.ofList found.text, lineNumber line⟩ :: tokens
          | none => tokens)

/-- The tokens of a text, whose first line has number one. -/
def ofText (text : String) : Except Error (List Token) :=
  ofLines false 1 0 text.toList

end DmlOutline.Token
