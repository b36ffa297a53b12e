import DmlOutline.Json
import DmlOutline.Text.Digits

/-!
# Reading JSON

The grammar of JSON texts: one value, with white space around it and between its parts.

* `Json.stringBody`, `Json.numeral` — texts and numbers.
* `Json.value`, `Json.items`, `Json.fields` — values and the insides of arrays and objects.
* `Json.parse?` — the value of a whole text.
-/

namespace DmlOutline.Json

/-- Whether a character may stand between the parts of a text. -/
def isBlank (c : Char) : Bool :=
  c == ' ' || c == '\n' || c == '\r' || c == '\t'

/-- A text without the white space at its beginning. -/
def skipBlank (text : List Char) : List Char :=
  text.dropWhile isBlank

/-! ## Texts -/

/-- The code unit that four hexadecimal digits stand for. -/
def codeUnit? (a b c d : Char) : Option Nat := do
  let a ← Text.hexDigit? a
  let b ← Text.hexDigit? b
  let c ← Text.hexDigit? c
  let d ← Text.hexDigit? d
  some (((a * 16 + b) * 16 + c) * 16 + d)

/-- Whether a code unit is the first of a surrogate pair. -/
def isLeading (unit : Nat) : Bool :=
  0xD800 ≤ unit && unit < 0xDC00

/-- Whether a code unit is the second of a surrogate pair. -/
def isTrailing (unit : Nat) : Bool :=
  0xDC00 ≤ unit && unit < 0xE000

/-- The character of a surrogate pair. -/
def pairChar (leading trailing : Nat) : Char :=
  Char.ofNat (0x10000 + (leading - 0xD800) * 0x400 + (trailing - 0xDC00))

/-- The character that a letter stands for after a backslash. -/
def unescape? : Char → Option Char
  | '"' => some '"'
  | '\\' => some '\\'
  | '/' => some '/'
  | 'b' => some '\x08'
  | 'f' => some '\x0c'
  | 'n' => some '\n'
  | 'r' => some '\r'
  | 't' => some '\t'
  | _ => none

/-- A text with one more character at its front; without the character it is no text. -/
def consText (c : Option Char) : Option (List Char) × List Char → Option (List Char) × List Char
  | (text, rest) => (c.bind fun c => text.map (c :: ·), rest)

/-- The content of a text from somewhere inside it on, and what follows its closing quote. `leading`
is the first half of a surrogate pair, if one was just read. The content is missing when a surrogate
has no partner. -/
def stringBody (leading : Option Nat) : List Char → Option (Option (List Char) × List Char)
  | [] => none
  | '"' :: rest => some (if leading.isSome then none else some [], rest)
  | '\\' :: 'u' :: a :: b :: c :: d :: rest =>
    match codeUnit? a b c d, leading with
    | none, _ => none
    | some unit, some first =>
      if isTrailing unit then (stringBody none rest).map (consText (some (pairChar first unit)))
      else if isLeading unit then (stringBody (some unit) rest).map (consText none)
      else (stringBody none rest).map (consText none)
    | some unit, none =>
      if isTrailing unit then (stringBody none rest).map (consText none)
      else if isLeading unit then stringBody (some unit) rest
      else (stringBody none rest).map (consText (some (Char.ofNat unit)))
  | '\\' :: c :: rest =>
    match unescape? c with
    | none => none
    | some c => (stringBody none rest).map (consText (if leading.isSome then none else some c))
  | c :: rest =>
    if c.toNat < 0x20 || c == '\\' then none
    else (stringBody none rest).map (consText (if leading.isSome then none else some c))

/-! ## Numbers -/

/-- The digits at the beginning of a text, if there are any, and what follows them. -/
def digits? (text : List Char) : Option (List Char × List Char) :=
  let digits := text.takeWhile Char.isDigit
  if digits = [] then none else some (digits, text.drop digits.length)

/-- What follows a fraction, if the text begins with one; the flag tells whether it does. -/
def fraction? (text : List Char) : Option (Bool × List Char) :=
  match text with
  | '.' :: rest => (digits? rest).map fun (_, rest) => (true, rest)
  | _ => some (false, text)

/-- What follows an exponent, if the text begins with one; the flag tells whether it does. -/
def exponent? (text : List Char) : Option (Bool × List Char) :=
  match text with
  | c :: rest =>
    if c == 'e' || c == 'E' then
      let unsigned := match rest with
        | '+' :: rest => rest
        | '-' :: rest => rest
        | _ => rest
      (digits? unsigned).map fun (_, rest) => (true, rest)
    else some (false, text)
  | [] => some (false, text)

/-- A number without its sign. Digits alone are a natural number, which begins with a zero only
if it is zero. -/
def unsigned (text : List Char) : Option (Json × List Char) :=
  match digits? text with
  | none => none
  | some (digits, rest) =>
    if digits.head? = some '0' && digits.length ≠ 1 then none
    else
      match fraction? rest with
      | none => none
      | some (isFraction, rest) =>
        match exponent? rest with
        | none => none
        | some (isPower, rest) =>
          if isFraction || isPower then some (foreign, rest)
          else some (nat (Nat.ofDigitChars 10 digits 0), rest)

/-- A number. -/
def numeral : List Char → Option (Json × List Char)
  | '-' :: rest => (unsigned rest).map fun (_, rest) => (foreign, rest)
  | text => unsigned text

/-! ## Values -/

/-- An object with these fields; a name that is no text makes it foreign. -/
def ofFields (fields : List (Option String × Json)) : Json :=
  match fields.mapM fun (name, value) => name.map (·, value) with
  | some fields => object fields
  | none => foreign

mutual

/-- The value at the beginning of a text without leading white space, and what follows it. -/
def value : Nat → List Char → Option (Json × List Char)
  | 0, _ => none
  | fuel + 1, text =>
    match text with
    | 'n' :: 'u' :: 'l' :: 'l' :: rest => some (null, rest)
    | 't' :: 'r' :: 'u' :: 'e' :: rest => some (bool true, rest)
    | 'f' :: 'a' :: 'l' :: 's' :: 'e' :: rest => some (bool false, rest)
    | '"' :: rest =>
      (stringBody none rest).map fun (text, rest) =>
        ((text.map fun text => string (String.ofList text)).getD foreign, rest)
    | '[' :: rest =>
      match skipBlank rest with
      | ']' :: rest => some (array [], rest)
      | rest => (items fuel rest).map fun (items, rest) => (array items, rest)
    | '\x7b' :: rest =>
      match skipBlank rest with
      | '\x7d' :: rest => some (object [], rest)
      | rest => (fields fuel rest).map fun (fields, rest) => (ofFields fields, rest)
    | _ => numeral text

/-- The items of an array from one of them on, and what follows its closing bracket. -/
def items : Nat → List Char → Option (List Json × List Char)
  | 0, _ => none
  | fuel + 1, text =>
    match value fuel text with
    | none => none
    | some (item, rest) =>
      match skipBlank rest with
      | ']' :: rest => some ([item], rest)
      | ',' :: rest => (items fuel (skipBlank rest)).map fun (more, rest) => (item :: more, rest)
      | _ => none

/-- The fields of an object from one of them on, and what follows its closing brace. -/
def fields : Nat → List Char → Option (List (Option String × Json) × List Char)
  | 0, _ => none
  | fuel + 1, '"' :: text =>
    match stringBody none text with
    | none => none
    | some (name, rest) =>
      match skipBlank rest with
      | ':' :: rest =>
        match value fuel (skipBlank rest) with
        | none => none
        | some (item, rest) =>
          let field := (name.map String.ofList, item)
          match skipBlank rest with
          | '\x7d' :: rest => some ([field], rest)
          | ',' :: rest =>
            (fields fuel (skipBlank rest)).map fun (more, rest) => (field :: more, rest)
          | _ => none
      | _ => none
  | _ + 1, _ => none

end

/-- The value of a text. Between two characters that are read at most two readers begin, so the
length of the text bounds their nesting. -/
def parse? (text : String) : Option Json :=
  match value (2 * text.toList.length + 2) (skipBlank text.toList) with
  | some (result, rest) => if skipBlank rest = [] then some result else none
  | none => none

end DmlOutline.Json
