import DmlOutline.Text.Digits

/-!
# Texts of a configuration file

A text is written in one of four ways: between double quotes with escapes or between single quotes
without, and in either case between one quote or between three, where it may have several lines.

* `basicBody`, `linesBody` — texts with escapes.
* `literalBody`, `literalLinesBody` — texts without.
* `quoted?` — the text at the beginning of a text.
* `write` — a text in the plainest way that can hold it.
-/

namespace DmlOutline.Toml

/-- Whether a character may stand in a text on one line. -/
def isTextChar (c : Char) : Bool :=
  c == '\t' || (0x20 ≤ c.toNat && c.toNat ≠ 0x7F)

/-- Whether a character is a blank within a line. -/
def isBlank (c : Char) : Bool :=
  c == ' ' || c == '\t'

/-- A text with more characters at its front. -/
def withFront (front : List Char) : List Char × List Char → List Char × List Char
  | (text, rest) => (front ++ text, rest)

/-! ## Escapes -/

/-- The character given by its number in a fixed count of hexadecimal digits. -/
def numbered? (count : Nat) (text : List Char) : Option Char := do
  let digits ← (text.take count).mapM Text.hexDigit?
  if digits.length = count then
    Text.charOfCode? (digits.foldl (fun value digit => value * 16 + digit) 0)
  else none

/-- The character that stands for itself or another after a backslash. -/
def escaped? : Char → Option Char
  | 'b' => some '\x08'
  | 't' => some '\t'
  | 'n' => some '\n'
  | 'f' => some '\x0c'
  | 'r' => some '\r'
  | '"' => some '"'
  | '\\' => some '\\'
  | _ => none

/-- What the characters after a backslash stand for, and how many they are. -/
def escape? : List Char → Option (Char × Nat)
  | [] => none
  | 'u' :: rest => (numbered? 4 rest).map (·, 5)
  | 'U' :: rest => (numbered? 8 rest).map (·, 9)
  | c :: _ => (escaped? c).map (·, 1)

/-! ## Reading -/

/-- A text up to a double quote. The first `skip` characters belong to an escape that was already
read. -/
def basicBody : Nat → List Char → Option (List Char × List Char)
  | _, [] => none
  | skip + 1, _ :: rest => basicBody skip rest
  | 0, c :: rest =>
    if c = '"' then some ([], rest)
    else if c = '\\' then
      match escape? rest with
      | some (c, count) => (basicBody count rest).map (withFront [c])
      | none => none
    else if isTextChar c then (basicBody 0 rest).map (withFront [c])
    else none

/-- Whether a line break begins a text. -/
def startsBreak : List Char → Bool
  | '\n' :: _ => true
  | '\r' :: '\n' :: _ => true
  | _ => false

/-- A text up to three quotes of a kind. One or two more quotes right before these belong to it. -/
def closing? (quote : Char) (text : List Char) : Option (List Char × List Char) :=
  let run := min 5 (text.takeWhile (· = quote)).length
  if run < 3 then none else some (List.replicate (run - 3) quote, text.drop run)

/-- A text of several lines up to three double quotes. The first `skip` characters belong to an
escape that was already read; while `trimming`, blanks and line breaks are left out. -/
def linesBody : Nat → Bool → List Char → Option (List Char × List Char)
  | _, _, [] => none
  | skip + 1, trimming, _ :: rest => linesBody skip trimming rest
  | 0, trimming, c :: rest =>
    if trimming && (isBlank c || startsBreak (c :: rest)) then linesBody 0 true rest
    else
      match closing? '"' (c :: rest) with
      | some found => some found
      | none =>
        if c = '\\' then
          if startsBreak (rest.dropWhile isBlank) then linesBody 0 true rest
          else
            match escape? rest with
            | some (c, count) => (linesBody count false rest).map (withFront [c])
            | none => none
        else if c = '\r' && startsBreak (c :: rest) then linesBody 0 false rest
        else if isTextChar c || c = '\n' then (linesBody 0 false rest).map (withFront [c])
        else none

/-- A text up to a single quote. -/
def literalBody : List Char → Option (List Char × List Char)
  | [] => none
  | c :: rest =>
    if c = '\x27' then some ([], rest)
    else if isTextChar c then (literalBody rest).map (withFront [c])
    else none

/-- A text of several lines up to three single quotes. -/
def literalLinesBody : List Char → Option (List Char × List Char)
  | [] => none
  | c :: rest =>
    match closing? '\x27' (c :: rest) with
    | some found => some found
    | none =>
      if c = '\r' && startsBreak (c :: rest) then literalLinesBody rest
      else if isTextChar c || c = '\n' then (literalLinesBody rest).map (withFront [c])
      else none

/-- A text without a line break at its beginning. -/
def skipBreak : List Char → List Char
  | '\n' :: rest => rest
  | '\r' :: '\n' :: rest => rest
  | text => text

/-- The text in quotes at the beginning of a text, and what follows it. -/
def quoted? (text : List Char) : Option (List Char × List Char) :=
  match text with
  | '"' :: '"' :: '"' :: rest => linesBody 0 false (skipBreak rest)
  | '"' :: rest => basicBody 0 rest
  | '\x27' :: '\x27' :: '\x27' :: rest => literalLinesBody (skipBreak rest)
  | '\x27' :: rest => literalBody rest
  | _ => none

/-! ## Writing -/

/-- Whether a character can only be written by an escape. -/
def needsEscape (c : Char) : Bool :=
  c ≠ '\t' && c ≠ '\n' && (c.toNat < 0x20 || c.toNat = 0x7F)

/-- The length of the longest run of a character; `run` is that of the run right before. -/
def longestRun (c : Char) (run : Nat) : List Char → Nat
  | [] => run
  | d :: rest => if d = c then longestRun c (run + 1) rest else max run (longestRun c 0 rest)

/-- The escape of a character between double quotes. -/
def writeChar (c : Char) : List Char :=
  match c with
  | '\x08' => ['\\', 'b']
  | '\t' => ['\\', 't']
  | '\n' => ['\\', 'n']
  | '\x0c' => ['\\', 'f']
  | '\r' => ['\\', 'r']
  | '"' => ['\\', '"']
  | '\\' => ['\\', '\\']
  | c =>
    if needsEscape c then
      ['\\', 'u', '0', '0', Nat.digitChar (c.toNat / 16), (Nat.digitChar (c.toNat % 16)).toUpper]
    else [c]

/-- A text of several lines between double quotes: line breaks stay, and of three quotes in a row
the third is escaped. `run` is the number of quotes right before. -/
def writeLines (run : Nat) : List Char → List Char
  | [] => []
  | c :: rest =>
    if c = '"' && run < 2 then '"' :: writeLines (run + 1) rest
    else if c = '\n' then '\n' :: writeLines 0 rest
    else writeChar c ++ writeLines 0 rest

/-- A text in the plainest way that can hold it: between double quotes without escapes, between
single quotes, over several lines with escapes or without, and else with escapes. -/
def write (text : List Char) : List Char :=
  let breaks := text.contains '\n'
  let controls := text.any needsEscape
  let backslashes := text.contains '\\'
  let doubles := longestRun '"' 0 text
  let singles := longestRun '\x27' 0 text
  let start := if breaks then ['\n'] else []
  let three (quote : Char) : List Char := [quote, quote, quote]
  if !controls && !backslashes && doubles = 0 && !breaks then
    '"' :: (text.flatMap writeChar ++ ['"'])
  else if !controls && singles = 0 && !breaks then '\x27' :: (text ++ ['\x27'])
  else if !controls && !backslashes && doubles ≤ 2 then
    three '"' ++ start ++ writeLines 0 text ++ three '"'
  else if !controls && singles ≤ 2 then
    three '\x27' ++ start ++ text ++ three '\x27'
  else if breaks then three '"' ++ start ++ writeLines 0 text ++ three '"'
  else '"' :: (text.flatMap writeChar ++ ['"'])

end DmlOutline.Toml
