import Mathlib.Data.String.Basic

/-!
# Texts in the order of their bytes

Texts are compared by the codes of their characters. Where they stand on a disk, they are compared
byte by byte. Both orders are the same one: the bytes of a character are the digits of its code, the
highest first, and the first of them also tells how many there are.

* `Text.Precedes` — bytes that come before others, whatever follows either.
* `Text.Form` — how many bytes there are for a code, and what its first byte may be.

Principal results: `Text.precedes_of_lt`: the bytes of characters; `Text.bytes_le_iff`.
-/

namespace DmlOutline.Text

/-! ## Bytes that decide -/

/-- These bytes come before the others, whatever follows either. -/
def Precedes (first second : List UInt8) : Prop :=
  ∀ front back, first ++ front < second ++ back

/-- A smaller byte decides. -/
theorem precedes_of_byte {a b : Nat} (h : a < b) (hb : b < 256) (front back : List UInt8) :
    Precedes (UInt8.ofNat a :: front) (UInt8.ofNat b :: back) := by
  intro front back
  refine List.cons_lt_cons_iff.mpr (.inl (UInt8.lt_iff_toNat_lt.mpr ?_))
  rwa [UInt8.toNat_ofNat_of_lt' hb, UInt8.toNat_ofNat_of_lt' (Nat.lt_trans h hb)]

/-- The byte of the last digit of a code. -/
def lastByte (code : Nat) : UInt8 :=
  .ofNat (code % 64 + 128)

/-- One more digit keeps the order of the bytes of those before it. -/
theorem precedes_concat {high : Nat → List UInt8} {bound m n : Nat}
    (hhigh : ∀ {m n}, m < n → n < bound → Precedes (high m) (high n)) (h : m < n)
    (hn : n < bound * 64) :
    Precedes (high (m / 64) ++ [lastByte m]) (high (n / 64) ++ [lastByte n]) := by
  intro front back
  rw [List.append_assoc, List.append_assoc]
  rcases Nat.lt_or_ge (m / 64) (n / 64) with hlt | hge
  · exact hhigh hlt (Nat.div_lt_of_lt_mul (Nat.mul_comm _ _ ▸ hn)) _ _
  · have hsame : m / 64 = n / 64 := by omega
    rw [hsame]
    exact List.append_left_lt (precedes_of_byte (by omega) (by omega) [] [] front back)

/-! ## Characters -/

/-- How a code is written: the least first byte, how many first bytes there are, and the number of
digits after it. -/
structure Form where
  lead : Nat
  width : Nat
  digits : Nat
  deriving DecidableEq

/-- How a code is written. -/
def Form.of (code : Nat) : Form :=
  if code ≤ 0x7F then ⟨0, 128, 0⟩
  else if code ≤ 0x7FF then ⟨192, 32, 1⟩
  else if code ≤ 0xFFFF then ⟨224, 16, 2⟩
  else ⟨240, 8, 3⟩

/-- The bytes of a code with so many digits after the first byte. -/
def bytesOf (lead width : Nat) : Nat → Nat → List UInt8
  | 0, code => [.ofNat (code % width + lead)]
  | digits + 1, code => bytesOf lead width digits (code / 64) ++ [lastByte code]

/-- The bytes of a code. -/
def Form.bytes (code : Nat) : List UInt8 :=
  bytesOf (of code).lead (of code).width (of code).digits code

theorem utf8EncodeChar_eq (c : Char) : String.utf8EncodeChar c = Form.bytes c.toNat := by
  change String.utf8EncodeChar c = Form.bytes c.val.toNat
  unfold String.utf8EncodeChar Form.bytes Form.of
  simp only
  split_ifs with hone
  · rw [bytesOf, Nat.mod_eq_of_lt (Nat.lt_succ_of_le hone), Nat.add_zero]
  all_goals
    simp only [bytesOf, lastByte, Nat.div_div_eq_div_mul, List.cons_append, List.nil_append,
      Nat.reduceMul]

/-- Codes of one form are in the order of their bytes. -/
theorem precedes_bytesOf {lead width : Nat} (hfits : width + lead ≤ 256) (digits : Nat) {m n : Nat}
    (h : m < n) (hn : n < width * 64 ^ digits) :
    Precedes (bytesOf lead width digits m) (bytesOf lead width digits n) := by
  induction digits generalizing m n with
  | zero =>
    rw [Nat.pow_zero, Nat.mul_one] at hn
    rw [bytesOf, bytesOf, Nat.mod_eq_of_lt hn, Nat.mod_eq_of_lt (Nat.lt_trans h hn)]
    exact precedes_of_byte (Nat.add_lt_add_right h lead) (by omega) [] []
  | succ digits ih => exact precedes_concat ih h (by rwa [Nat.mul_assoc, ← Nat.pow_succ])

/-- The first byte tells the form. -/
theorem bytesOf_eq_cons {width : Nat} (hwidth : 0 < width) (lead digits code : Nat) :
    ∃ byte rest, lead ≤ byte ∧ byte < width + lead ∧
      bytesOf lead width digits code = UInt8.ofNat byte :: rest := by
  induction digits generalizing code with
  | zero =>
    exact ⟨_, [], Nat.le_add_left _ _, Nat.add_lt_add_right (Nat.mod_lt code hwidth) lead, rfl⟩
  | succ digits ih =>
    obtain ⟨byte, rest, hle, hlt, hbytes⟩ := ih (code / 64)
    exact ⟨byte, rest ++ [lastByte code], hle, hlt, by rw [bytesOf, hbytes, List.cons_append]⟩

theorem Form.width_pos (code : Nat) : 0 < (Form.of code).width := by
  unfold Form.of
  split_ifs <;> exact Nat.succ_pos _

/-- First bytes are bytes. -/
theorem Form.lead_le (code : Nat) : (Form.of code).width + (Form.of code).lead ≤ 256 := by
  unfold Form.of
  split_ifs <;> exact Nat.le_of_ble_eq_true rfl

/-- A larger code is written in the same form, or in one with larger first bytes. -/
theorem Form.of_lt {m n : Nat} (h : m < n) (hn : n < 0x110000) :
    Form.of m = Form.of n ∧ n < (Form.of n).width * 64 ^ (Form.of n).digits ∨
      (Form.of m).width + (Form.of m).lead ≤ (Form.of n).lead := by
  unfold Form.of
  split_ifs <;> simp <;> omega

/-- **The bytes of characters are in the order of their codes.** -/
theorem precedes_of_lt {c d : Char} (h : c < d) :
    Precedes (String.utf8EncodeChar c) (String.utf8EncodeChar d) := by
  have hlt : c.toNat < d.toNat := h
  have hd : d.toNat < 0x110000 := by
    rcases d.valid with h | ⟨-, h⟩
    · exact Nat.lt_trans h (by decide)
    · exact h
  have hfits := Form.lead_le d.toNat
  rw [utf8EncodeChar_eq, utf8EncodeChar_eq, Form.bytes, Form.bytes]
  rcases Form.of_lt hlt hd with ⟨hsame, hbound⟩ | hbelow
  · rw [hsame]
    exact precedes_bytesOf hfits _ hlt hbound
  · obtain ⟨first, rest, -, hfirst, hc⟩ := bytesOf_eq_cons (Form.width_pos _) _ _ c.toNat
    obtain ⟨second, rest', hsecond, hend, hd⟩ := bytesOf_eq_cons (Form.width_pos _) _ _ d.toNat
    rw [hc, hd]
    exact precedes_of_byte (by omega) (Nat.lt_of_lt_of_le hend hfits) rest rest'

/-! ## Texts -/

theorem bytes_eq_flatMap (text : String) :
    text.toUTF8.data.toList = text.toList.flatMap String.utf8EncodeChar := by
  have hencode : text.toUTF8 = text.toList.utf8Encode := String.utf8Encode_toList.symm
  rw [hencode, List.utf8Encode, List.toList_data_toByteArray]

theorem flatMap_lt {first second : List Char} (h : first < second) :
    first.flatMap String.utf8EncodeChar < second.flatMap String.utf8EncodeChar := by
  induction h with
  | @nil c rest =>
    have hne : String.utf8EncodeChar c ≠ [] := by
      rw [← List.length_pos_iff, String.length_utf8EncodeChar]
      exact c.utf8Size_pos
    obtain ⟨byte, bytes, hbytes⟩ := List.exists_cons_of_ne_nil hne
    rw [List.flatMap_cons, hbytes]
    exact List.nil_lt_cons _ _
  | rel h => exact precedes_of_lt h _ _
  | cons _ ih => exact List.append_left_lt ih

/-- **Texts are in the order of their bytes.** -/
theorem bytes_le_iff {first second : String} :
    first.toUTF8.data.toList ≤ second.toUTF8.data.toList ↔ first ≤ second := by
  have hmono : ∀ {first second : String}, first < second →
      first.toUTF8.data.toList < second.toUTF8.data.toList := by
    intro first second h
    rw [bytes_eq_flatMap, bytes_eq_flatMap]
    exact flatMap_lt (String.lt_iff.mp h)
  constructor
  · intro hle
    exact String.not_lt.mp fun hlt => hle (hmono hlt)
  · intro hle hlt
    by_cases hge : second ≤ first
    · rw [String.le_antisymm hle hge] at hlt
      exact List.lt_irrefl _ hlt
    · exact List.lt_asymm hlt (hmono (String.not_le.mp hge))

end DmlOutline.Text
