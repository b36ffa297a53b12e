/-!
# Text in sixteen-bit units

A character is one unit, or a leading and a trailing surrogate.

* `units?` — the units of a text in either byte order; the number of bytes must be even.
* `charsOfUnits?` — the characters of units; surrogates must come in pairs.
-/

namespace DmlOutline.Encoding

/-- The units of a text. -/
def units? (bigEndian : Bool) : List UInt8 → Option (List Nat)
  | [] => some []
  | [_] => none
  | a :: b :: rest =>
    let unit := if bigEndian then a.toNat * 256 + b.toNat else b.toNat * 256 + a.toNat
    (units? bigEndian rest).map (unit :: ·)

/-- Whether a unit is a leading surrogate. -/
def isLeadingUnit (unit : Nat) : Bool :=
  0xD800 ≤ unit && unit < 0xDC00

/-- Whether a unit is a trailing surrogate. -/
def isTrailingUnit (unit : Nat) : Bool :=
  0xDC00 ≤ unit && unit < 0xE000

/-- The characters of units, given a leading surrogate that was just read. -/
def charsOfUnits? : Option Nat → List Nat → Option (List Char)
  | none, [] => some []
  | some _, [] => none
  | none, unit :: rest =>
    if isLeadingUnit unit then charsOfUnits? (some unit) rest
    else if isTrailingUnit unit then none
    else (charsOfUnits? none rest).map (Char.ofNat unit :: ·)
  | some leading, unit :: rest =>
    if isTrailingUnit unit then
      let code := 0x10000 + (leading - 0xD800) * 0x400 + (unit - 0xDC00)
      (charsOfUnits? none rest).map (Char.ofNat code :: ·)
    else none

end DmlOutline.Encoding
