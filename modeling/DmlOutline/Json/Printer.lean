import DmlOutline.Json

/-!
# Writing JSON

A value is written compactly, without any white space, or with one line for every item and two
spaces for every level.

* `Json.quote` — a text in quotes; only the quote, the backslash and control characters are escaped.
* `Json.compact`, `Json.pretty` — the two forms of a value.
-/

namespace DmlOutline.Json

/-! ## Texts -/

/-- The escape of a character inside quotes. -/
def escape (c : Char) : List Char :=
  match c with
  | '"' => ['\\', '"']
  | '\\' => ['\\', '\\']
  | '\x08' => ['\\', 'b']
  | '\t' => ['\\', 't']
  | '\n' => ['\\', 'n']
  | '\x0c' => ['\\', 'f']
  | '\r' => ['\\', 'r']
  | c =>
    if c.toNat < 0x20 then
      ['\\', 'u', '0', '0', Nat.digitChar (c.toNat / 16), Nat.digitChar (c.toNat % 16)]
    else [c]

/-- A text in quotes. -/
def quote (text : String) : List Char :=
  '"' :: (text.toList.flatMap escape ++ ['"'])

/-! ## Compact form -/

mutual

/-- The characters of a value without white space. -/
def compactChars : Json → List Char
  | null => ['n', 'u', 'l', 'l']
  | bool true => ['t', 'r', 'u', 'e']
  | bool false => ['f', 'a', 'l', 's', 'e']
  | nat value => Nat.toDigits 10 value
  | string text => quote text
  | array items => '[' :: (compactItems items ++ [']'])
  | object fields => '\x7b' :: (compactFields fields ++ ['\x7d'])
  | foreign => ['n', 'u', 'l', 'l']

/-- Items with commas between them. -/
def compactItems : List Json → List Char
  | [] => []
  | [item] => compactChars item
  | item :: next :: rest => compactChars item ++ ',' :: compactItems (next :: rest)

/-- Fields with commas between them. -/
def compactFields : List (String × Json) → List Char
  | [] => []
  | [field] => compactField field
  | field :: next :: rest => compactField field ++ ',' :: compactFields (next :: rest)

/-- A name and its value. -/
def compactField : String × Json → List Char
  | (name, value) => quote name ++ ':' :: compactChars value

end

/-- A value without white space. -/
def compact (value : Json) : String :=
  String.ofList (compactChars value)

/-! ## Indented form -/

/-- A line break and the indentation of a level. -/
def newline (level : Nat) : List Char :=
  '\n' :: List.replicate (2 * level) ' '

mutual

/-- The characters of a value that begins on a line of some level. -/
def prettyChars (level : Nat) : Json → List Char
  | array [] => ['[', ']']
  | array (item :: rest) =>
    '[' :: (prettyItems (level + 1) (item :: rest) ++ newline level ++ [']'])
  | object [] => ['\x7b', '\x7d']
  | object (field :: rest) =>
    '\x7b' :: (prettyFields (level + 1) (field :: rest) ++ newline level ++ ['\x7d'])
  | null => ['n', 'u', 'l', 'l']
  | bool true => ['t', 'r', 'u', 'e']
  | bool false => ['f', 'a', 'l', 's', 'e']
  | nat value => Nat.toDigits 10 value
  | string text => quote text
  | foreign => ['n', 'u', 'l', 'l']

/-- Items on lines of their own, with commas between them. -/
def prettyItems (level : Nat) : List Json → List Char
  | [] => []
  | [item] => newline level ++ prettyChars level item
  | item :: next :: rest =>
    newline level ++ prettyChars level item ++ ',' :: prettyItems level (next :: rest)

/-- Fields on lines of their own, with commas between them. -/
def prettyFields (level : Nat) : List (String × Json) → List Char
  | [] => []
  | [field] => prettyField level field
  | field :: next :: rest => prettyField level field ++ ',' :: prettyFields level (next :: rest)

/-- A name and its value on a line of their own. -/
def prettyField (level : Nat) : String × Json → List Char
  | (name, value) => newline level ++ quote name ++ ':' :: ' ' :: prettyChars level value

end

/-- A value with one line for every item and two spaces for every level. -/
def pretty (value : Json) : String :=
  String.ofList (prettyChars 0 value)

end DmlOutline.Json
