import DmlOutline.Toml
import DmlOutline.Toml.Quoted
import DmlOutline.Toml.Scalar

/-!
# Reading configuration files

A configuration file is a list of lines, each of which is empty, the header of a table, or a key with
its value. Comments reach to the end of their line.

* `Toml.lineEnd?`, `Toml.skipBreaks?` — what may stand between the parts of a file.
* `Toml.keyPath?` — a key, which may have dots.
* `Toml.value?` — a value.
* `Toml.parse?` — the table that a whole file describes.
-/

namespace DmlOutline.Toml

/-! ## Between the parts -/

/-- A text without the blanks at its beginning. -/
def skipBlanks (text : List Char) : List Char :=
  text.dropWhile isBlank

/-- What follows the end of a line: blanks, a comment, and a line break or the end of the file. -/
def lineEnd? (text : List Char) : Option (List Char) :=
  let rest := skipBlanks text
  let rest := if rest.head? = some '#' then rest.dropWhile isTextChar else rest
  match rest with
  | [] => some []
  | '\n' :: rest => some rest
  | '\r' :: '\n' :: rest => some rest
  | _ => none

/-- What follows blanks, line breaks and comments; `inComment` tells whether the text begins inside a
comment. -/
def skipBreaks? : Bool → List Char → Option (List Char)
  | _, [] => some []
  | _, '\n' :: rest => skipBreaks? false rest
  | _, '\r' :: '\n' :: rest => skipBreaks? false rest
  | true, c :: rest => if isTextChar c then skipBreaks? true rest else none
  | false, c :: rest =>
    if isBlank c then skipBreaks? false rest
    else if c = '#' then skipBreaks? true rest
    else some (c :: rest)

/-! ## Keys -/

/-- Whether a character belongs to a key without quotes. -/
def isKeyChar (c : Char) : Bool :=
  c.isAlphanum || c == '_' || c == '-'

/-- A key without dots, and what follows it. -/
def simpleKey? (text : List Char) : Option (String × List Char) :=
  let bare := text.takeWhile isKeyChar
  match text with
  | '"' :: rest => (basicBody 0 rest).map fun (key, rest) => (String.ofList key, rest)
  | '\x27' :: rest => (literalBody rest).map fun (key, rest) => (String.ofList key, rest)
  | _ => if bare = [] then none else some (String.ofList bare, text.drop bare.length)

/-- The keys of a key with dots, and what follows them and the blanks after them. -/
def keyPath? : Nat → List Char → Option (List String × List Char)
  | 0, _ => none
  | fuel + 1, text =>
    match simpleKey? text with
    | none => none
    | some (key, rest) =>
      match skipBlanks rest with
      | '.' :: rest =>
        (keyPath? fuel (skipBlanks rest)).map fun (keys, rest) => (key :: keys, rest)
      | rest => some ([key], rest)

/-- How many keys may stand one inside the other, and how many arrays and tables. -/
def maxNesting : Nat := 79

/-! ## Values -/

mutual

/-- The value at the beginning of a text, and what follows it. `depth` is how many arrays and tables
may still be opened. -/
def value? : Nat → Nat → List Char → Option (Toml × List Char)
  | 0, _, _ => none
  | fuel + 1, depth, text =>
    match text, depth with
    | '[' :: _, 0 => none
    | '\x7b' :: _, 0 => none
    | '[' :: rest, depth + 1 =>
      match skipBreaks? false rest with
      | none => none
      | some (']' :: rest) => some (array [], rest)
      | some rest => (items? fuel depth rest).map fun (items, rest) => (array items, rest)
    | '\x7b' :: rest, depth + 1 =>
      match skipBlanks rest with
      | '\x7d' :: rest => some (table .inline [], rest)
      | rest => (pairs? fuel depth [] rest).map fun (pairs, rest) => (table .inline pairs, rest)
    | _, _ =>
      if text.head? = some '"' || text.head? = some '\x27' then
        (quoted? text).map fun (text, rest) => (string (String.ofList text), rest)
      else (scalarLength? text).map fun length => (other, text.drop length)

/-- The items of an array from one of them on, and what follows its closing bracket. -/
def items? : Nat → Nat → List Char → Option (List Toml × List Char)
  | 0, _, _ => none
  | fuel + 1, depth, text =>
    match value? fuel depth text with
    | none => none
    | some (item, rest) =>
      match skipBreaks? false rest with
      | some (']' :: rest) => some ([item], rest)
      | some (',' :: rest) =>
        match skipBreaks? false rest with
        | some (']' :: rest) => some ([item], rest)
        | some rest => (items? fuel depth rest).map fun (items, rest) => (item :: items, rest)
        | none => none
      | _ => none

/-- The entries of a table in braces from one of them on, after those before, and what follows its
closing brace. -/
def pairs? : Nat → Nat → Entries → List Char → Option (Entries × List Char)
  | 0, _, _, _ => none
  | fuel + 1, depth, entries, text =>
    match pair? fuel depth text with
    | none => none
    | some (keys, item, rest) =>
      match insert? (keys.getLastD "") item keys.dropLast entries with
      | none => none
      | some entries =>
        match skipBlanks rest with
        | '\x7d' :: rest => some (entries, rest)
        | ',' :: rest => pairs? fuel depth entries (skipBlanks rest)
        | _ => none

/-- A key with its value, and what follows them. -/
def pair? : Nat → Nat → List Char → Option (List String × Toml × List Char)
  | 0, _, _ => none
  | fuel + 1, depth, text =>
    match keyPath? text.length text with
    | some (keys, '=' :: rest) =>
      if maxNesting < keys.length then none
      else (value? fuel depth (skipBlanks rest)).map fun (item, rest) => (keys, item, rest)
    | _ => none

end

/-! ## Files -/

/-- The keys of the header of a table between its brackets, and what follows them. -/
def headerKeys? (closing text : List Char) : Option (List String × List Char) :=
  match keyPath? text.length (skipBlanks text) with
  | some (keys, rest) =>
    if keys.length ≤ maxNesting && closing.isPrefixOf rest then
      some (keys, rest.drop closing.length)
    else none
  | none => none

/-- What a line does to the table that the file describes, the path of the present table, and what
follows the line, up to its end. -/
def line? (entries : Entries) (present : List String) (text : List Char) :
    Option (Entries × List String × List Char) :=
  match text with
  | '[' :: '[' :: rest => do
    let (keys, rest) ← headerKeys? [']', ']'] rest
    let entries ← within? (openElement? (keys.getLastD "")) keys.dropLast entries
    some (entries, keys, rest)
  | '[' :: rest => do
    let (keys, rest) ← headerKeys? [']'] rest
    let entries ← within? (openTable? (keys.getLastD "")) keys.dropLast entries
    some (entries, keys, rest)
  | _ => do
    let (keys, item, rest) ← pair? (2 * text.length + 2) maxNesting text
    let entries ← within? (insert? (keys.getLastD "") item keys.dropLast) present entries
    some (entries, present, rest)

/-- Whether only blanks, a comment or nothing stands before the end of a line. -/
def isEmptyLine (text : List Char) : Bool :=
  match text with
  | [] => true
  | c :: _ => c == '#' || startsBreak text

/-- Reads lines, given the table so far and the path of the present table. -/
def lines? : Nat → Entries → List String → List Char → Option Entries
  | 0, _, _, _ => none
  | fuel + 1, entries, present, text =>
    match skipBlanks text with
    | [] => some entries
    | text =>
      if isEmptyLine text then
        match lineEnd? text with
        | some rest => lines? fuel entries present rest
        | none => none
      else
        match line? entries present text with
        | none => none
        | some (entries, present, rest) =>
          match lineEnd? rest with
          | some rest => lines? fuel entries present rest
          | none => none

/-- The table that a file describes. A byte-order mark at its beginning does not count. -/
def parse? (text : String) : Option Entries :=
  let text := match text.toList with
    | '\ufeff' :: rest => rest
    | text => text
  lines? (text.length + 1) [] [] text

end DmlOutline.Toml
