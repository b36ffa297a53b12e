import DmlOutline.Text.Digits

/-!
# Numbers, truth values and dates

What a value without quotes or brackets may look like. Only its form is checked, and that dates
exist and numbers fit.

* `isNumber` — integers in four bases, and numbers with a fraction or an exponent.
* `isMoment` — dates, times, and both together.
* `scalarLength?` — how much of a text such a value takes.
-/

namespace DmlOutline.Toml

/-! ## Numbers -/

/-- The digits of a group in which single underscores may stand between digits. -/
def ungroup? (isDigit : Char → Bool) : List Char → Option (List Char)
  | [] => none
  | [c] => if isDigit c then some [c] else none
  | c :: '_' :: rest => if isDigit c then (ungroup? isDigit rest).map (c :: ·) else none
  | c :: rest => if isDigit c then (ungroup? isDigit rest).map (c :: ·) else none

/-- Whether a character is a binary digit. -/
def isBinary (c : Char) : Bool :=
  c == '0' || c == '1'

/-- Whether digits in a base are an integer of at most some size. -/
def isIntegerIn (base : Nat) (isDigit : Char → Bool) (limit : Nat) (text : List Char) : Bool :=
  (ungroup? isDigit text).any fun digits => Text.digitsValue base digits ≤ limit

/-- Whether a text is digits without a zero before others. -/
def isWhole (text : List Char) : Bool :=
  text = ['0'] || (text.head? ≠ some '0' && (ungroup? Char.isDigit text).isSome)

/-- A text without a sign at its beginning. -/
def unsigned : List Char → List Char
  | '+' :: rest => rest
  | '-' :: rest => rest
  | text => text

/-- Whether a text is an integer that fits sixty-four bits. -/
def isInteger (text : List Char) : Bool :=
  match text with
  | '0' :: 'x' :: rest => isIntegerIn 16 Text.isHexDigit (UInt64.size / 2 - 1) rest
  | '0' :: 'o' :: rest => isIntegerIn 8 Text.isOctalDigit (UInt64.size / 2 - 1) rest
  | '0' :: 'b' :: rest => isIntegerIn 2 isBinary (UInt64.size / 2 - 1) rest
  | _ =>
    let limit := if text.head? = some '-' then UInt64.size / 2 else UInt64.size / 2 - 1
    isWhole (unsigned text) && isIntegerIn 10 Char.isDigit limit (unsigned text)

/-- Whether a text is an exponent after its letter. -/
def isExponent (text : List Char) : Bool :=
  (ungroup? Char.isDigit (unsigned text)).isSome

/-- Whether a text is a number with a fraction, an exponent or both, or is not finite. -/
def isFloat (text : List Char) : Bool :=
  let text := unsigned text
  let isPower (c : Char) : Bool := c == 'e' || c == 'E'
  let (mantissa, power) := text.span (!isPower ·)
  let (whole, fraction) := mantissa.span (· ≠ '.')
  text = ['i', 'n', 'f'] || text = ['n', 'a', 'n'] ||
    (isWhole whole && (fraction ≠ [] || power ≠ []) &&
      (fraction = [] || (ungroup? Char.isDigit fraction.tail).isSome) &&
      (power = [] || isExponent power.tail))

/-- Whether a text is a number. -/
def isNumber (text : List Char) : Bool :=
  isInteger text || isFloat text

/-! ## Dates and times -/

/-- The number that a fixed count of digits at the beginning of a text make, and what follows. -/
def fixed? (count : Nat) (text : List Char) : Option (Nat × List Char) :=
  let digits := text.take count
  if digits.length = count && digits.all Char.isDigit then
    some (Text.digitsValue 10 digits, text.drop count)
  else none

/-- What follows a character at the beginning of a text. -/
def after? (c : Char) : List Char → Option (List Char)
  | [] => none
  | d :: rest => if d = c then some rest else none

/-- How many days a month has. -/
def daysIn (year month : Nat) : Nat :=
  if month = 2 then
    if year % 4 = 0 ∧ (year % 100 ≠ 0 ∨ year % 400 = 0) then 29 else 28
  else if month ∈ [4, 6, 9, 11] then 30
  else 31

/-- What follows a date at the beginning of a text. -/
def date? (text : List Char) : Option (List Char) := do
  let (year, rest) ← fixed? 4 text
  let (month, rest) ← fixed? 2 (← after? '-' rest)
  let (day, rest) ← fixed? 2 (← after? '-' rest)
  if 1 ≤ month ∧ month ≤ 12 ∧ 1 ≤ day ∧ day ≤ daysIn year month then some rest else none

/-- What follows hours and minutes at the beginning of a text. -/
def hoursMinutes? (text : List Char) : Option (List Char) := do
  let (hours, rest) ← fixed? 2 text
  let (minutes, rest) ← fixed? 2 (← after? ':' rest)
  if hours ≤ 23 ∧ minutes ≤ 59 then some rest else none

/-- What follows a time at the beginning of a text. -/
def time? (text : List Char) : Option (List Char) := do
  let rest ← hoursMinutes? text
  let (seconds, rest) ← fixed? 2 (← after? ':' rest)
  if 60 < seconds then none
  else
    match rest with
    | '.' :: digits =>
      let fraction := digits.takeWhile Char.isDigit
      if fraction = [] then none else some (digits.drop fraction.length)
    | _ => some rest

/-- Whether a text is nothing or the distance from universal time. -/
def isOffset : List Char → Bool
  | [] => true
  | ['Z'] => true
  | ['z'] => true
  | '+' :: rest => hoursMinutes? rest = some []
  | '-' :: rest => hoursMinutes? rest = some []
  | _ => false

/-- Whether a text is a time and possibly an offset. -/
def isTimeWithOffset (text : List Char) : Bool :=
  (time? text).any isOffset

/-- Whether a text is a date, a time or both. -/
def isMoment (text : List Char) : Bool :=
  time? text = some [] ||
    (date? text).any fun rest =>
      match rest with
      | [] => true
      | c :: time => (c == 'T' || c == 't') && isTimeWithOffset time

/-! ## All of them -/

/-- Whether a character belongs to such a value. -/
def isScalarChar (c : Char) : Bool :=
  c.isAlphanum || c ∈ ['+', '-', '_', '.', ':']

/-- How many characters of a text a number, a truth value or a date takes. A blank may stand between
a date and a time. -/
def scalarLength? (text : List Char) : Option Nat :=
  let first := text.takeWhile isScalarChar
  let second := (text.drop (first.length + 1)).takeWhile isScalarChar
  if date? first = some [] && (text.drop first.length).head? = some ' ' &&
      isTimeWithOffset second then
    some (first.length + 1 + second.length)
  else if first = "true".toList || first = "false".toList || isNumber first || isMoment first then
    some first.length
  else none

end DmlOutline.Toml
