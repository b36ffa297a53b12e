import DmlOutline.Encoding.KsX1001

/-!
# Extended Korean text

Each character is one ASCII byte or two bytes. The places of KS X 1001 take pairs of high bytes; the
8822 Hangul syllables that it lacks fill the other pairs in the order of their code points.

* `extensionSyllables` — the syllables outside KS X 1001.
* `extensionIndex?` — the number of a pair among the pairs for them.
* `pairChar?` — the character of a pair of bytes.
* `decodeEucKr` — the characters of a text, unless some byte has no meaning.
-/

namespace DmlOutline.Encoding

/-! ## The syllables outside the standard -/

/-- The numbers from `first` on, `count` of them, without those of an increasing list. -/
def without (listed : List Nat) (first : Nat) : Nat → List Nat
  | 0 => []
  | count + 1 =>
    match listed with
    | [] => first :: without [] (first + 1) count
    | next :: later =>
      if next = first then without later (first + 1) count
      else first :: without listed (first + 1) count

/-- The Hangul syllables that KS X 1001 lacks, in the order of their code points. -/
def extensionSyllables : Array Nat :=
  let listed := syllableRows.flatMap fun row => row.toList.map Char.toNat
  (without listed 0xAC00 11172).toArray

/-- The number of a second byte among those that may follow the first byte of an extension: letters
of either case, then bytes from 0x81 on. -/
def trailIndex? (trail : Nat) : Option Nat :=
  if 0x41 ≤ trail ∧ trail ≤ 0x5A then some (trail - 0x41)
  else if 0x61 ≤ trail ∧ trail ≤ 0x7A then some (trail - 0x61 + 26)
  else if 0x81 ≤ trail ∧ trail ≤ 0xFE then some (trail - 0x81 + 52)
  else none

/-- The number of a pair among the pairs for extension syllables: 178 for each first byte below 0xA1,
and 84 for each from there on, where the higher second bytes belong to the standard. -/
def extensionIndex? (lead trail : Nat) : Option Nat :=
  (trailIndex? trail).map fun index =>
    if lead < 0xA1 then (lead - 0x81) * 178 + index
    else 32 * 178 + (lead - 0xA1) * 84 + index

/-! ## Texts -/

/-- The character of a pair of bytes. -/
def pairChar? (lead trail : Nat) : Option Char :=
  if lead < 0x81 ∨ 0xFE < lead then none
  else if 0xA1 ≤ lead ∧ 0xA1 ≤ trail then
    if trail ≤ 0xFE then ksChar? (lead - 0xA0) (trail - 0xA0) else none
  else ((extensionIndex? lead trail).bind fun index => extensionSyllables[index]?).map Char.ofNat

/-- The characters of a text. -/
def decodeEucKr : List UInt8 → Option (List Char)
  | [] => some []
  | [byte] => if byte < 0x80 then some [Char.ofNat byte.toNat] else none
  | lead :: trail :: rest =>
    if lead < 0x80 then (decodeEucKr (trail :: rest)).map (Char.ofNat lead.toNat :: ·)
    else
      match pairChar? lead.toNat trail.toNat with
      | some c => (decodeEucKr rest).map (c :: ·)
      | none => none

end DmlOutline.Encoding
