import DmlOutline.Token.Lexeme

/-!
# Numbers

A number is digits with at most one dot among them, an exponent if one is complete, and a length
mark that is not part of its text. A lone dot is a sign, and digits after `0x` are a literal.

* `exponent` — the exponent that a text begins with, or nothing.
* `Lexeme.number` — the number, literal or dot that a text begins with.
-/

namespace DmlOutline.Token

/-- The exponent at the beginning of a text: a letter e, a sign or none, and at least one digit. -/
def exponent (text : List Char) : List Char :=
  match text with
  | [] => []
  | e :: rest =>
    let sign := (rest.take 1).filter fun c => c == '+' || c == '-'
    let digits := (rest.drop sign.length).takeWhile Char.isDigit
    if (e == 'e' || e == 'E') && digits ≠ [] then e :: (sign ++ digits) else []

/-- What a text that begins with a digit or a dot has at its beginning. -/
def Lexeme.number (text : List Char) : Lexeme :=
  let whole := text.takeWhile Char.isDigit
  let afterWhole := text.drop whole.length
  if whole = ['0'] && afterWhole.head? = some 'x' then
    let digits := afterWhole.tail.takeWhile Text.isHexDigit
    ⟨some .literal, digits, digits.length + 2⟩
  else
    let dot := (afterWhole.take 1).filter (· == '.')
    let afterDot := afterWhole.drop dot.length
    let fraction := afterDot.takeWhile Char.isDigit
    let mantissa := whole ++ dot ++ fraction
    if mantissa = ['.'] then Lexeme.sign ['.']
    else
      let power := exponent (afterDot.drop fraction.length)
      let digits := mantissa ++ power
      let mark := ((text.drop digits.length).take 1).filter (· == 'L')
      ⟨some .number, digits, digits.length + mark.length⟩

end DmlOutline.Token
