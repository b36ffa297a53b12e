import DmlOutline.Token.Lexeme

/-!
# Quoted texts

The bodies of literals and quoted identifiers. Each reader starts after the opening quote and
gives the content together with the position after the closing quote; `pos` is the number of
characters of the lexeme that were read before.

* `quotedBody` — up to a quote; a doubled quote stands for one.
* `tripleBody` — up to three quotes in a row.
* `backslashBody` — like `quotedBody`, with a backslash before a character.
* `escapedBody` — like `quotedBody`, with the escapes of `Escape.read`.
* `unicodeBody` — like `quotedBody`, with characters given by their number.
* `dollarBody`, `taggedBody` — between dollars.
-/

namespace DmlOutline.Token

/-- The content of a quoted text and the position after it. -/
abbrev Body := List Char × Nat

/-- A body with more characters in front of its content. -/
def Body.after (front : List Char) (body : Body) : Body :=
  (front ++ body.1, body.2)

/-! ## Doubled quotes -/

/-- A text up to a quote, in which a doubled quote stands for one. -/
def quotedBody (quote : Char) (pos : Nat) : List Char → Option Body
  | [] => none
  | [c] => if c = quote then some ([], pos + 1) else none
  | c :: d :: rest =>
    if c = quote then
      if d = quote then (quotedBody quote (pos + 2) rest).map (Body.after [quote])
      else some ([], pos + 1)
    else (quotedBody quote (pos + 1) (d :: rest)).map (Body.after [c])

/-- A text up to three quotes in a row; fewer quotes belong to it. -/
def tripleBody (quote : Char) (pos : Nat) : List Char → Option Body
  | [] => none
  | c :: rest =>
    if c = quote && rest.take 2 = [quote, quote] then some ([], pos + 3)
    else (tripleBody quote (pos + 1) rest).map (Body.after [c])

/-! ## Escapes -/

/-- The character that a backslash and a character stand for. -/
def backslashed : Char → Char
  | '0' => '\x00'
  | 'a' => '\x07'
  | 'b' => '\x08'
  | 'f' => '\x0c'
  | 'n' => '\n'
  | 'r' => '\r'
  | 't' => '\t'
  | 'Z' => '\x1a'
  | c => c

/-- A text up to a single quote, in which a backslash stands before a character. -/
def backslashBody (pos : Nat) : List Char → Option Body
  | [] => none
  | '\x27' :: '\x27' :: rest => (backslashBody (pos + 2) rest).map (Body.after ['\x27'])
  | '\x27' :: _ => some ([], pos + 1)
  | '\\' :: c :: rest => (backslashBody (pos + 2) rest).map (Body.after [backslashed c])
  | c :: rest => (backslashBody (pos + 1) rest).map (Body.after [c])

/-- The number that hexadecimal digits stand for; a plus sign may stand before them. -/
def hexNumber? (text : List Char) : Option Nat :=
  let digits := if text.head? = some '+' then text.tail else text
  if digits ≠ [] && digits.all Text.isHexDigit then some (Text.digitsValue 16 digits) else none

/-- The character of a byte, which must be ASCII. -/
def asciiByte? (code : Nat) : Option Char :=
  if code % 256 ≤ 127 then some (Char.ofNat (code % 256)) else none

/-- The character given by its number in a fixed count of hexadecimal digits. -/
def numbered? (count : Nat) (rest : List Char) : Option (Char × Nat) :=
  if (rest.take count).length = count then
    ((hexNumber? (rest.take count)).bind Text.charOfCode?).map (·, count + 1)
  else none

/-- What the characters after a backslash stand for, and how many they are. -/
def escape? : List Char → Option (Char × Nat)
  | [] => none
  | 'b' :: _ => some ('\x08', 1)
  | 'f' :: _ => some ('\x0c', 1)
  | 'n' :: _ => some ('\n', 1)
  | 'r' :: _ => some ('\r', 1)
  | 't' :: _ => some ('\t', 1)
  | 'u' :: rest => numbered? 4 rest
  | 'U' :: rest => numbered? 8 rest
  | 'x' :: rest =>
    let digits := (rest.take 2).takeWhile Text.isHexDigit
    if digits = [] then some ('x', 1)
    else (asciiByte? (Text.digitsValue 16 digits)).map (·, digits.length + 1)
  | c :: rest =>
    if Text.isOctalDigit c then
      let digits := c :: (rest.take 2).takeWhile Text.isOctalDigit
      (asciiByte? (Text.digitsValue 8 digits)).map (·, digits.length)
    else some (c, 1)

/-- A text up to a single quote with escapes. The first `skip` characters belong to an escape that
was already read. No escape stands for the NUL character. -/
def escapedBody (pos : Nat) : Nat → List Char → Option Body
  | _, [] => none
  | skip + 1, _ :: rest => escapedBody (pos + 1) skip rest
  | 0, '\x27' :: '\x27' :: rest => (escapedBody (pos + 2) 0 rest).map (Body.after ['\x27'])
  | 0, '\x27' :: _ => some ([], pos + 1)
  | 0, '\\' :: rest =>
    match escape? rest with
    | none => none
    | some (c, count) =>
      if c = '\x00' then none else (escapedBody (pos + 1) count rest).map (Body.after [c])
  | 0, c :: rest => (escapedBody (pos + 1) 0 rest).map (Body.after [c])

/-! ## Characters by number -/

/-- The character given by exactly `count` hexadecimal digits; `value` is that of the digits
before. -/
def unicodeNumber (pos value : Nat) : Nat → List Char → Except Fault Char
  | 0, _ =>
    match Text.charOfCode? value with
    | some c => .ok c
    | none => .error ⟨.badCharacter value, pos⟩
  | _ + 1, [] => .error ⟨.numberCutShort, pos⟩
  | count + 1, c :: rest =>
    match Text.hexDigit? c with
    | some digit => unicodeNumber (pos + 1) (value * 16 + digit) count rest
    | none => .error ⟨.badHexDigit c, pos + 1⟩

/-- A text up to a single quote in which a backslash and four digits, or a backslash, a plus sign
and six digits, stand for a character. The first `skip` characters belong to a number that was
already read. -/
def unicodeBody (pos : Nat) : Nat → List Char → Except Fault Body
  | _, [] => .error ⟨.unclosedUnicodeString, pos⟩
  | skip + 1, _ :: rest => unicodeBody (pos + 1) skip rest
  | 0, '\x27' :: '\x27' :: rest => (unicodeBody (pos + 2) 0 rest).map (Body.after ['\x27'])
  | 0, '\x27' :: _ => .ok ([], pos + 1)
  | 0, '\\' :: '\\' :: rest => (unicodeBody (pos + 2) 0 rest).map (Body.after ['\\'])
  | 0, '\\' :: '+' :: rest =>
    match unicodeNumber (pos + 2) 0 6 rest with
    | .ok c => (unicodeBody (pos + 2) 6 rest).map (Body.after [c])
    | .error fault => .error fault
  | 0, '\\' :: rest =>
    match unicodeNumber (pos + 1) 0 4 rest with
    | .ok c => (unicodeBody (pos + 1) 4 rest).map (Body.after [c])
    | .error fault => .error fault
  | 0, c :: rest => (unicodeBody (pos + 1) 0 rest).map (Body.after [c])

/-! ## Dollars -/

/-- A text up to two dollars in a row; `single` tells that one dollar was just read, which belongs
to the text if another character follows. -/
def dollarBody (pos : Nat) (single : Bool) : List Char → Option Body
  | [] => none
  | '$' :: rest =>
    if single then some ([], pos + 1) else dollarBody (pos + 1) true rest
  | c :: rest =>
    (dollarBody (pos + 1) false rest).map (Body.after (if single then ['$', c] else [c]))

/-- A text up to a closing tag. -/
def taggedBody (closing : List Char) (pos : Nat) : List Char → Option Body
  | [] => none
  | c :: rest =>
    if closing.isPrefixOf (c :: rest) then some ([], pos + closing.length)
    else (taggedBody closing (pos + 1) rest).map (Body.after [c])

end DmlOutline.Token
