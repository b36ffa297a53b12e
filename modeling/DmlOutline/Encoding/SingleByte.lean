/-!
# Single-byte text

Encodings in which every byte is a character, so that no text is refused.

* `windows1252Char` — Western European text: Latin-1 with typographic signs in the place of the
  second set of control characters.
* `userDefinedChar` — bytes from 0x80 on are private characters.
-/

namespace DmlOutline.Encoding

/-- The characters of the bytes 0x80 to 0x9F in Western European text; five of them stay control
characters. -/
def windows1252High : List Nat :=
  [0x20AC, 0x81, 0x201A, 0x192, 0x201E, 0x2026, 0x2020, 0x2021,
   0x2C6, 0x2030, 0x160, 0x2039, 0x152, 0x8D, 0x17D, 0x8F,
   0x90, 0x2018, 0x2019, 0x201C, 0x201D, 0x2022, 0x2013, 0x2014,
   0x2DC, 0x2122, 0x161, 0x203A, 0x153, 0x9D, 0x17E, 0x178]

/-- The character of a byte in Western European text. -/
def windows1252Char (byte : UInt8) : Char :=
  let code := byte.toNat
  if 0x80 ≤ code ∧ code < 0xA0 then Char.ofNat (windows1252High.getD (code - 0x80) code)
  else Char.ofNat code

/-- The character of a byte in text whose high bytes have a meaning of the user's own. -/
def userDefinedChar (byte : UInt8) : Char :=
  let code := byte.toNat
  if code < 0x80 then Char.ofNat code else Char.ofNat (code - 0x80 + 0xF780)

end DmlOutline.Encoding
