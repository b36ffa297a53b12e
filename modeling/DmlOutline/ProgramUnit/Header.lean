import DmlOutline.Text.Space
import DmlOutline.Text.WordChar

/-!
# Declarations of program units

A program unit is declared by `CREATE`, some optional words, the kind of the unit and its name.
Words may be in any case and have any white space between them; the name may be in quotes and may
have a schema before it.

* `foldChar`, `word?`, `space?` — words without regard to case, and the white space between them.
* `segment?`, `declared?` — a name, bare or in quotes, and a name with its schema.
* `Header.at?` — the declaration that a text begins with.
* `Header.find?` — the first declaration in a text.
-/

namespace DmlOutline.ProgramUnit

/-! ## Words -/

/-- A character without its case, as far as ASCII letters are concerned: the Kelvin sign and the long
s are forms of two of them. -/
def foldChar (c : Char) : Char :=
  if c = '\u212a' then 'k' else if c = '\u017f' then 's' else c.toLower

/-- The characters at the beginning of a text that make a word, and what follows them. -/
def word? (word : String) (text : List Char) : Option (List Char × List Char) :=
  if (text.take word.length).map foldChar = word.toList.map Char.toLower then
    some (text.splitAt word.length)
  else none

/-- The white space at the beginning of a text, at least one character, and what follows it. -/
def space? (text : List Char) : Option (List Char × List Char) :=
  match text.span Text.isSpace with
  | ([], _) => none
  | found => some found

/-- What follows a word and white space. -/
def afterWord? (word : String) (text : List Char) : Option (List Char) := do
  let (_, rest) ← word? word text
  let (_, rest) ← space? rest
  some rest

/-- What follows words that may be left out. -/
def skip (read : List Char → Option (List Char)) (text : List Char) : List Char :=
  (read text).getD text

/-! ## Names -/

/-- Whether a character belongs to a bare name. -/
def isNameChar (c : Char) : Bool :=
  Text.isWordChar c || c == '$'

/-- A bare name at the beginning of a text, and what follows it. -/
def bare? (text : List Char) : Option (List Char × List Char) :=
  match text.span isNameChar with
  | ([], _) => none
  | found => some found

/-- A name in quotes at the beginning of a text, with its quotes, and what follows it. The name may
not be empty. -/
def quoted? : List Char → Option (List Char × List Char)
  | '"' :: rest =>
    match rest.span (· ≠ '"') with
    | ([], _) => none
    | (content, '"' :: rest) => some ('"' :: (content ++ ['"']), rest)
    | _ => none
  | _ => none

/-- A name at the beginning of a text. -/
def segment? (text : List Char) : Option (List Char × List Char) :=
  (quoted? text).or (bare? text)

/-- A dot and a name, with any white space around the dot. -/
def dotSegment? (text : List Char) : Option (List Char × List Char) :=
  let (before, rest) := text.span Text.isSpace
  match rest with
  | '.' :: rest =>
    let (after, rest) := rest.span Text.isSpace
    (segment? rest).map fun (name, rest) => (before ++ '.' :: (after ++ name), rest)
  | _ => none

/-- A name and, if a dot and a further name follow, these too. -/
def declared? (text : List Char) : Option (List Char) :=
  (segment? text).map fun (first, rest) =>
    match dotSegment? rest with
    | some (second, _) => first ++ second
    | none => first

/-! ## Declarations -/

/-- A declaration: the words for the kind of the unit, and its name as it is written. -/
structure Header where
  words : List Char
  declared : List Char
  deriving DecidableEq, Repr

namespace Header

/-- The words for a package body at the beginning of a text, and what follows them. -/
def packageBody? (text : List Char) : Option (List Char × List Char) := do
  let (package, rest) ← word? "PACKAGE" text
  let (space, rest) ← space? rest
  let (body, rest) ← word? "BODY" rest
  some (package ++ space ++ body, rest)

/-- The words for the kinds of units, in the order in which they are tried. -/
def kinds : List (List Char → Option (List Char × List Char)) :=
  [packageBody?, word? "PACKAGE", word? "PROCEDURE", word? "FUNCTION", word? "TRIGGER"]

/-- The kind and the name at the beginning of a text. -/
def unit? (text : List Char) : Option Header :=
  kinds.findSome? fun kind? => do
    let (words, rest) ← kind? text
    let (_, rest) ← space? rest
    let declared ← declared? rest
    some ⟨words, declared⟩

/-- What follows `OR REPLACE`. -/
def orReplace? (text : List Char) : Option (List Char) :=
  (afterWord? "OR" text).bind (afterWord? "REPLACE")

/-- What follows `EDITIONABLE` or `NONEDITIONABLE`. -/
def editionable? (text : List Char) : Option (List Char) :=
  (afterWord? "EDITIONABLE" text).or (afterWord? "NONEDITIONABLE" text)

/-- The declaration at the beginning of a text. -/
def at? (text : List Char) : Option Header :=
  (afterWord? "CREATE" text).bind fun rest => unit? (skip editionable? (skip orReplace? rest))

/-- The first declaration in a text, given the character before it. A declaration begins a word. -/
def find? (before : Option Char) : List Char → Option Header
  | [] => none
  | c :: rest =>
    let here := if before.any Text.isWordChar then none else at? (c :: rest)
    here.or (find? (some c) rest)

end Header

end DmlOutline.ProgramUnit
