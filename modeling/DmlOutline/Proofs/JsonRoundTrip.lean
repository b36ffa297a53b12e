import DmlOutline.Json.Parser
import DmlOutline.Json.Printer

/-!
# JSON texts are read back

Both forms in which values are written are one form with different white space. The reader gives the
value back from it, whatever the white space is.

* `Json.Plain` — values with nothing foreign in them.
* `Json.Layout`, `Json.Layout.chars` — the form of a value, given its white space.
* `Json.EndsNumeral` — what may follow a number.

Principal results: `Json.value_chars`: the reader inverts a layout; `Json.parse?_pretty`,
`Json.parse?_compact`.
-/

namespace DmlOutline.Json

variable {text rest gap : List Char} {fuel : Nat}

/-! ## Texts -/

/-- The escape of a control character is read as its number. -/
theorem codeUnit?_digitChars {n : Nat} (h : n < 0x20) :
    codeUnit? '0' '0' (Nat.digitChar (n / 16)) (Nat.digitChar (n % 16)) = some n := by
  have hzero : Text.hexDigit? '0' = some 0 := rfl
  have hhigh := (Text.hexDigit?_digitChar (n / 16) (by omega)).1
  have hlow := (Text.hexDigit?_digitChar (n % 16) (by omega)).1
  simp only [codeUnit?, hzero, hhigh, hlow, Option.bind_eq_bind, Option.bind_some]
  congr 1
  omega

/-- A number that is no surrogate is read as its character. -/
theorem stringBody_unit {a b c d : Char} {unit : Nat} (h : codeUnit? a b c d = some unit)
    (hunit : unit < 0xD800) (text : List Char) :
    stringBody none ('\\' :: 'u' :: a :: b :: c :: d :: text) =
      (stringBody none text).map (consText (some (Char.ofNat unit))) := by
  have htrailing : isTrailing unit = false := by
    simp only [isTrailing, Bool.and_eq_false_imp, decide_eq_true_eq]
    omega
  have hleading : isLeading unit = false := by
    simp only [isLeading, Bool.and_eq_false_imp, decide_eq_true_eq]
    omega
  rw [stringBody.eq_def]
  simp only [h, htrailing, hleading, Bool.false_eq_true, if_false]

/-- A character that needs no escape is read as itself. -/
theorem stringBody_cons {c : Char} (hquote : c ≠ '"') (hbackslash : c ≠ '\\')
    (hcontrol : 0x20 ≤ c.toNat) (text : List Char) :
    stringBody none (c :: text) = (stringBody none text).map (consText (some c)) := by
  have hplain : (decide (c.toNat < 0x20) || c == '\\') = false := by
    simp only [Nat.not_lt.mpr hcontrol, decide_false, Bool.false_or, beq_eq_false_iff_ne]
    exact hbackslash
  rw [stringBody.eq_def]
  split
  · rename_i heq
    cases heq
  · rename_i heq
    exact absurd (List.cons.inj heq).1 hquote
  · rename_i heq
    exact absurd (List.cons.inj heq).1 hbackslash
  · rename_i heq
    exact absurd (List.cons.inj heq).1 hbackslash
  · rename_i heq
    obtain ⟨rfl, rfl⟩ := List.cons.inj heq
    rw [hplain]
    rfl

/-- A character is read back from its escape. -/
theorem stringBody_escape (c : Char) (text : List Char) :
    stringBody none (escape c ++ text) = (stringBody none text).map (consText (some c)) := by
  unfold escape
  split
  all_goals try rfl
  rename_i hquote hbackslash _ _ _ _ _
  split
  · rename_i hcontrol
    have hunit := codeUnit?_digitChars hcontrol
    have hread := stringBody_unit hunit (by omega) text
    rw [Char.ofNat_toNat] at hread
    exact hread
  · rename_i hcontrol
    exact stringBody_cons hquote hbackslash (Nat.not_lt.mp hcontrol) text

/-- **A text in quotes is read back.** -/
theorem stringBody_escaped (text rest : List Char) :
    stringBody none (text.flatMap escape ++ '"' :: rest) = some (some text, rest) := by
  induction text with
  | nil => rfl
  | cons c text ih =>
    rw [List.flatMap_cons, List.append_assoc, stringBody_escape, ih]
    rfl

theorem quote_append (text : String) (rest : List Char) :
    quote text ++ rest = '"' :: (text.toList.flatMap escape ++ '"' :: rest) := by
  simp only [quote, List.cons_append, List.append_assoc, List.nil_append]

/-! ## Numbers -/

/-- What may follow a number: nothing that would go on with it. -/
def EndsNumeral (rest : List Char) : Prop :=
  ∀ c ∈ rest.head?, c.isDigit = false ∧ c ≠ '.' ∧ c ≠ 'e' ∧ c ≠ 'E'

theorem endsNumeral_nil : EndsNumeral [] := by
  intro c h
  cases h

theorem endsNumeral_cons {c : Char} (h : c.isDigit = false ∧ c ≠ '.' ∧ c ≠ 'e' ∧ c ≠ 'E') :
    EndsNumeral (c :: rest) := by
  intro other hother
  cases hother
  exact h

theorem digits?_append {digits : List Char} (hne : digits ≠ [])
    (hdigits : ∀ c ∈ digits, c.isDigit = true) (h : EndsNumeral rest) :
    digits? (digits ++ rest) = some (digits, rest) := by
  have htake : (digits ++ rest).takeWhile Char.isDigit = digits := by
    rw [List.takeWhile_append_of_pos hdigits]
    cases rest with
    | nil => simp
    | cons c more =>
      have hc := (h c rfl).1
      simp [hc]
  unfold digits?
  simp only [htake, hne, if_false, List.drop_left]

/-- A number is written with a digit in front. -/
theorem toDigits_eq_cons (n : Nat) :
    ∃ c more, Nat.toDigits 10 n = c :: more ∧ c.isDigit = true := by
  have hne : Nat.toDigits 10 n ≠ [] := Nat.toDigits_ne_nil
  obtain ⟨c, more, hdigits⟩ := List.exists_cons_of_ne_nil hne
  have hmem : c ∈ Nat.toDigits 10 n := by simp [hdigits]
  exact ⟨c, more, hdigits, Nat.isDigit_of_mem_toDigits (by decide) (by decide) hmem⟩

theorem ne_of_isDigit {c other : Char} (hc : c.isDigit = true) (hother : other.isDigit = false) :
    c ≠ other := by
  rintro rfl
  exact Bool.false_ne_true (hother.symm.trans hc)

/-- Only zero is written with a zero in front. -/
theorem eq_zero_of_head?_toDigits (n : Nat) (h : (Nat.toDigits 10 n).head? = some '0') : n = 0 := by
  induction n using Nat.strongRecOn with
  | ind n ih =>
    by_cases hsmall : n < 10
    · rw [Nat.toDigits_of_lt_base hsmall] at h
      exact Nat.digitChar_eq_zero.mp (Option.some.inj h)
    · rw [Nat.toDigits_of_base_le (by omega) (by omega), List.head?_append] at h
      cases hhead : (Nat.toDigits 10 (n / 10)).head? with
      | none => exact absurd (List.head?_eq_none_iff.mp hhead) Nat.toDigits_ne_nil
      | some c =>
        rw [hhead] at h
        have hfront := ih (n / 10) (by omega) (hhead.trans h)
        omega

/-- **A number is read back.** -/
theorem unsigned_toDigits (n : Nat) (h : EndsNumeral rest) :
    unsigned (Nat.toDigits 10 n ++ rest) = some (nat n, rest) := by
  have hdigits : digits? (Nat.toDigits 10 n ++ rest) = some (Nat.toDigits 10 n, rest) :=
    digits?_append Nat.toDigits_ne_nil
      (fun c hc => Nat.isDigit_of_mem_toDigits (by decide) (by decide) hc) h
  have hzero : ¬((Nat.toDigits 10 n).head? = some '0' ∧ (Nat.toDigits 10 n).length ≠ 1) := by
    rintro ⟨hhead, hlength⟩
    rw [eq_zero_of_head?_toDigits n hhead] at hlength
    exact hlength rfl
  have hfraction : fraction? rest = some (false, rest) := by
    unfold fraction?
    split
    · exact absurd rfl (h _ rfl).2.1
    · rfl
  have hexponent : exponent? rest = some (false, rest) := by
    cases rest with
    | nil => rfl
    | cons c more =>
      obtain ⟨-, -, hlower, hupper⟩ := h c rfl
      simp [exponent?, hlower, hupper]
  simp [unsigned, hdigits, hfraction, hexponent, hzero, Nat.ofDigitChars_ten_toDigits]

/-! ## Values and white space -/

mutual

/-- Whether there is nothing foreign in a value. -/
def Plain : Json → Prop
  | array items => PlainItems items
  | object fields => PlainFields fields
  | foreign => False
  | _ => True

/-- Whether there is nothing foreign in some values. -/
def PlainItems : List Json → Prop
  | [] => True
  | item :: rest => Plain item ∧ PlainItems rest

/-- Whether there is nothing foreign in some fields. -/
def PlainFields : List (String × Json) → Prop
  | [] => True
  | field :: rest => PlainField field ∧ PlainFields rest

/-- Whether there is nothing foreign in a field. -/
def PlainField : String × Json → Prop
  | (_, value) => Plain value

end

/-- The white space of a form of values. -/
structure Layout where
  /-- What stands before the items of a level, and before the end of what holds them. -/
  gap : Nat → List Char
  /-- What stands after a colon. -/
  pause : List Char
  blank_gap : ∀ level, ∀ c ∈ gap level, isBlank c = true
  blank_pause : ∀ c ∈ pause, isBlank c = true

namespace Layout

mutual

/-- The characters of a value that stands on a level. -/
def chars (layout : Layout) (level : Nat) : Json → List Char
  | array [] => ['[', ']']
  | array (item :: rest) =>
    '[' :: (layout.gap (level + 1) ++
      (layout.chars (level + 1) item ++ layout.afterItem level rest))
  | object [] => ['\x7b', '\x7d']
  | object (field :: rest) =>
    '\x7b' :: (layout.gap (level + 1) ++
      (layout.fieldChars (level + 1) field ++ layout.afterField level rest))
  | null => ['n', 'u', 'l', 'l']
  | bool true => ['t', 'r', 'u', 'e']
  | bool false => ['f', 'a', 'l', 's', 'e']
  | nat value => Nat.toDigits 10 value
  | string text => quote text
  | foreign => ['n', 'u', 'l', 'l']

/-- The rest of an array on a level after one of its items. -/
def afterItem (layout : Layout) (level : Nat) : List Json → List Char
  | [] => layout.gap level ++ [']']
  | item :: rest =>
    ',' :: (layout.gap (level + 1) ++
      (layout.chars (level + 1) item ++ layout.afterItem level rest))

/-- The rest of an object on a level after one of its fields. -/
def afterField (layout : Layout) (level : Nat) : List (String × Json) → List Char
  | [] => layout.gap level ++ ['\x7d']
  | field :: rest =>
    ',' :: (layout.gap (level + 1) ++
      (layout.fieldChars (level + 1) field ++ layout.afterField level rest))

/-- A name and its value. -/
def fieldChars (layout : Layout) (level : Nat) : String × Json → List Char
  | (name, value) => quote name ++ ':' :: (layout.pause ++ layout.chars level value)

end

/-- No white space at all. -/
def tight : Layout where
  gap _ := []
  pause := []
  blank_gap _ _ h := by cases h
  blank_pause _ h := by cases h

/-- A line for every item. -/
def indented : Layout where
  gap := newline
  pause := [' ']
  blank_gap level c h := by
    rcases List.mem_cons.mp h with rfl | h
    · rfl
    · rw [(List.mem_replicate.mp h).2]
      rfl
  blank_pause c h := by
    rw [List.mem_singleton.mp h]
    rfl

end Layout

open Layout

mutual

/-- The compact form is the one without white space. -/
theorem chars_tight (level : Nat) : ∀ v : Json, tight.chars level v = compactChars v
  | array [] => rfl
  | array (item :: rest) => by
    rw [chars, compactChars, compactItems_append level rest, ← chars_tight (level + 1) item]
    rfl
  | object [] => rfl
  | object ((name, v) :: rest) => by
    rw [chars, compactChars, compactFields_append level rest, fieldChars, compactField,
      ← chars_tight (level + 1) v]
    rfl
  | null => rfl
  | bool true => rfl
  | bool false => rfl
  | nat _ => rfl
  | string _ => rfl
  | foreign => rfl

theorem compactItems_append (level : Nat) : ∀ (rest : List Json) {item : Json},
    compactItems (item :: rest) ++ [']'] = compactChars item ++ tight.afterItem level rest
  | [], _ => rfl
  | next :: rest, item => by
    rw [compactItems, List.append_assoc, List.cons_append, compactItems_append level rest,
      ← chars_tight (level + 1) next]
    rfl

theorem compactFields_append (level : Nat) :
    ∀ (rest : List (String × Json)) {field : String × Json},
      compactFields (field :: rest) ++ ['\x7d'] =
        compactField field ++ tight.afterField level rest
  | [], _ => rfl
  | (name, v) :: rest, field => by
    have hfield : compactField (name, v) = tight.fieldChars (level + 1) (name, v) := by
      rw [fieldChars, chars_tight (level + 1) v, compactField]
      rfl
    rw [compactFields, List.append_assoc, List.cons_append, compactFields_append level rest, hfield]
    rfl

end

mutual

/-- The indented form is the one with a line for every item. -/
theorem chars_indented (level : Nat) : ∀ v : Json, indented.chars level v = prettyChars level v
  | array [] => rfl
  | array (item :: rest) => by
    rw [chars, prettyChars, prettyItems_append level rest, ← chars_indented (level + 1) item]
    rfl
  | object [] => rfl
  | object ((name, v) :: rest) => by
    rw [chars, prettyChars, prettyFields_append level rest, fieldChars, prettyField,
      ← chars_indented (level + 1) v]
    simp [indented]
  | null => rfl
  | bool true => rfl
  | bool false => rfl
  | nat _ => rfl
  | string _ => rfl
  | foreign => rfl

theorem prettyItems_append (level : Nat) : ∀ (rest : List Json) {item : Json},
    prettyItems (level + 1) (item :: rest) ++ newline level ++ [']'] =
      newline (level + 1) ++ (prettyChars (level + 1) item ++ indented.afterItem level rest)
  | [], item => by
    rw [prettyItems, afterItem]
    simp [indented]
  | next :: rest, item => by
    have hrest := @prettyItems_append level rest next
    rw [prettyItems, afterItem, chars_indented (level + 1) next]
    simp only [List.append_assoc, List.cons_append] at hrest ⊢
    rw [hrest]
    rfl

theorem prettyFields_append (level : Nat) :
    ∀ (rest : List (String × Json)) {field : String × Json},
      prettyFields (level + 1) (field :: rest) ++ newline level ++ ['\x7d'] =
        prettyField (level + 1) field ++ indented.afterField level rest
  | [], field => by
    rw [prettyFields, afterField]
    simp [indented]
  | (name, v) :: rest, field => by
    have hrest := @prettyFields_append level rest (name, v)
    rw [prettyFields, afterField, fieldChars, chars_indented (level + 1) v]
    simp only [List.append_assoc, List.cons_append, prettyField] at hrest ⊢
    rw [hrest]
    simp [indented]

end

/-! ## Reading a layout -/

theorem skipBlank_append (h : ∀ c ∈ gap, isBlank c = true) (text : List Char) :
    skipBlank (gap ++ text) = skipBlank text :=
  List.dropWhile_append_of_pos h

theorem skipBlank_cons {c : Char} (h : isBlank c = false) (text : List Char) :
    skipBlank (c :: text) = c :: text :=
  List.dropWhile_cons_of_neg (by simp [h])

/-- White space ends a number. -/
theorem endsNumeral_append (h : ∀ c ∈ gap, isBlank c = true) (hrest : EndsNumeral rest) :
    EndsNumeral (gap ++ rest) := by
  cases gap with
  | nil => exact hrest
  | cons c more =>
    refine endsNumeral_cons ?_
    have hc := h c List.mem_cons_self
    simp only [isBlank, Bool.or_eq_true, beq_iff_eq] at hc
    rcases hc with ((rfl | rfl) | rfl) | rfl <;> decide

theorem value_of_digit {c : Char} (h : c.isDigit = true) (fuel : Nat) (text : List Char) :
    value (fuel + 1) (c :: text) = unsigned (c :: text) := by
  have hne : c ≠ 'n' ∧ c ≠ 't' ∧ c ≠ 'f' ∧ c ≠ '"' ∧ c ≠ '[' ∧ c ≠ '\x7b' ∧ c ≠ '-' := by
    refine ⟨?_, ?_, ?_, ?_, ?_, ?_, ?_⟩ <;> exact ne_of_isDigit h (by decide)
  rw [value.eq_def]
  simp_all [numeral]

/-- What an array holds is read item by item. -/
theorem value_bracket {c : Char} {inside : List Char} (h : skipBlank text = c :: inside)
    (hc : c ≠ ']') (fuel : Nat) :
    value (fuel + 1) ('[' :: text) =
      (items fuel (c :: inside)).map fun (items, rest) => (array items, rest) := by
  rw [value.eq_def]
  simp only [h]
  split
  · rename_i heq
    exact absurd (List.cons.inj heq).1 hc
  · rfl

/-- What an object holds is read field by field. -/
theorem value_brace {inside : List Char} (h : skipBlank text = '"' :: inside) (fuel : Nat) :
    value (fuel + 1) ('\x7b' :: text) =
      (fields fuel ('"' :: inside)).map fun (fields, rest) => (ofFields fields, rest) := by
  rw [value.eq_def]
  simp only [h]
  rfl

/-- Fields as the reader gives them. -/
def named (fields : List (String × Json)) : List (Option String × Json) :=
  fields.map fun field => (some field.1, field.2)

theorem ofFields_named (fields : List (String × Json)) :
    ofFields (named fields) = object fields := by
  have hall : (named fields).mapM (fun field => field.1.map fun name => (name, field.2)) =
      some fields := by
    induction fields with
    | nil => rfl
    | cons field fields ih =>
      rw [named, List.map_cons, List.mapM_cons, ← named, ih]
      rfl
  simp only [ofFields, hall]

/-- No value begins with white space or with a closing bracket. -/
theorem chars_eq_cons (layout : Layout) (level : Nat) (v : Json) :
    ∃ c more, layout.chars level v = c :: more ∧ isBlank c = false ∧ c ≠ ']' := by
  match v with
  | array [] => exact ⟨_, _, rfl, by decide, by decide⟩
  | array (_ :: _) => exact ⟨_, _, rfl, by decide, by decide⟩
  | object [] => exact ⟨_, _, rfl, by decide, by decide⟩
  | object (_ :: _) => exact ⟨_, _, rfl, by decide, by decide⟩
  | null => exact ⟨_, _, rfl, by decide, by decide⟩
  | bool true => exact ⟨_, _, rfl, by decide, by decide⟩
  | bool false => exact ⟨_, _, rfl, by decide, by decide⟩
  | string _ => exact ⟨_, _, rfl, by decide, by decide⟩
  | foreign => exact ⟨_, _, rfl, by decide, by decide⟩
  | nat n =>
    obtain ⟨c, more, hdigits, hc⟩ := toDigits_eq_cons n
    refine ⟨c, more, hdigits, ?_, ne_of_isDigit hc (by decide)⟩
    simp only [isBlank, Bool.or_eq_false_iff, beq_eq_false_iff_ne]
    refine ⟨⟨⟨?_, ?_⟩, ?_⟩, ?_⟩ <;> exact ne_of_isDigit hc (by decide)

theorem skipBlank_chars (layout : Layout) (level : Nat) (v : Json)
    (h : ∀ c ∈ gap, isBlank c = true) (rest : List Char) :
    skipBlank (gap ++ (layout.chars level v ++ rest)) = layout.chars level v ++ rest := by
  obtain ⟨c, text, htext, hblank, -⟩ := chars_eq_cons layout level v
  rw [skipBlank_append h, htext, List.cons_append, skipBlank_cons hblank]

theorem skipBlank_quote (h : ∀ c ∈ gap, isBlank c = true) (name : String) (rest : List Char) :
    skipBlank (gap ++ (quote name ++ rest)) = quote name ++ rest := by
  rw [skipBlank_append h, quote_append, skipBlank_cons (by decide)]

theorem endsNumeral_afterItem (layout : Layout) (level : Nat) (items : List Json)
    (rest : List Char) : EndsNumeral (layout.afterItem level items ++ rest) := by
  cases items with
  | nil =>
    rw [afterItem, List.append_assoc]
    exact endsNumeral_append (layout.blank_gap level) (endsNumeral_cons (by decide))
  | cons item more => exact endsNumeral_cons (by decide)

theorem endsNumeral_afterField (layout : Layout) (level : Nat) (fields : List (String × Json))
    (rest : List Char) : EndsNumeral (layout.afterField level fields ++ rest) := by
  cases fields with
  | nil =>
    rw [afterField, List.append_assoc]
    exact endsNumeral_append (layout.blank_gap level) (endsNumeral_cons (by decide))
  | cons field more => exact endsNumeral_cons (by decide)

section Lists

variable {item : Json} {name : String} {after : List Char}

/-- An item before the end of its array is the last one. -/
theorem items_end (h : value fuel text = some (item, after))
    (hafter : skipBlank after = ']' :: rest) : items (fuel + 1) text = some ([item], rest) := by
  rw [items]
  simp only [h, hafter]

/-- An item before a comma is followed by others. -/
theorem items_comma (h : value fuel text = some (item, after))
    (hafter : skipBlank after = ',' :: rest) :
    items (fuel + 1) text =
      (items fuel (skipBlank rest)).map fun found => (item :: found.1, found.2) := by
  rw [items]
  simp only [h, hafter]

/-- A field before the end of its object is the last one. -/
theorem fields_end (h : value fuel (skipBlank text) = some (item, after))
    (hafter : skipBlank after = '\x7d' :: rest) :
    fields (fuel + 1) (quote name ++ ':' :: text) = some ([(some name, item)], rest) := by
  have hcolon : skipBlank (':' :: text) = ':' :: text := skipBlank_cons (by decide) text
  rw [quote_append, fields, stringBody_escaped]
  simp only [hcolon, h, hafter, Option.map_some, String.ofList_toList]

/-- A field before a comma is followed by others. -/
theorem fields_comma (h : value fuel (skipBlank text) = some (item, after))
    (hafter : skipBlank after = ',' :: rest) :
    fields (fuel + 1) (quote name ++ ':' :: text) =
      (fields fuel (skipBlank rest)).map fun found => ((some name, item) :: found.1, found.2) := by
  have hcolon : skipBlank (':' :: text) = ':' :: text := skipBlank_cons (by decide) text
  rw [quote_append, fields, stringBody_escaped]
  simp only [hcolon, h, hafter, Option.map_some, String.ofList_toList]

end Lists

mutual

/-- **A value is read back from every layout.** -/
theorem value_chars (layout : Layout) (level : Nat) : ∀ (v : Json) (fuel : Nat) (rest : List Char),
    Plain v → EndsNumeral rest → 2 * (layout.chars level v).length ≤ fuel →
      value fuel (layout.chars level v ++ rest) = some (v, rest) := by
  intro v fuel rest hplain hrest hfuel
  obtain ⟨c, more, hchars, -⟩ := chars_eq_cons layout level v
  have hpositive : 0 < (layout.chars level v).length := by simp [hchars]
  obtain ⟨fuel, rfl⟩ : ∃ less, fuel = less + 1 := ⟨fuel - 1, by omega⟩
  match v with
  | null => rfl
  | bool true => rfl
  | bool false => rfl
  | foreign => exact hplain.elim
  | nat n =>
    have hread := unsigned_toDigits n hrest
    obtain ⟨c, more, hdigits, hc⟩ := toDigits_eq_cons n
    rw [hdigits, List.cons_append] at hread
    rw [chars, hdigits, List.cons_append, value_of_digit hc]
    exact hread
  | string text =>
    rw [chars, quote_append]
    simp only [value, stringBody_escaped, Option.map_some, Option.getD_some, String.ofList_toList]
  | array [] => rfl
  | array (item :: more) =>
    simp only [chars, List.length_cons, List.length_append] at hfuel
    obtain ⟨fuel, rfl⟩ : ∃ less, fuel = less + 1 := ⟨fuel - 1, by omega⟩
    have hitem := value_chars layout (level + 1) item fuel (layout.afterItem level more ++ rest)
      hplain.1 (endsNumeral_afterItem layout level more rest) (by omega)
    have hread := items_afterItem layout level more hplain.2 (by omega) hitem
    have hskip := skipBlank_chars layout (level + 1) item (layout.blank_gap (level + 1))
      (layout.afterItem level more ++ rest)
    obtain ⟨c, text, htext, -, hc⟩ := chars_eq_cons layout (level + 1) item
    rw [htext, List.cons_append] at hskip hread
    simp only [chars, List.cons_append, List.append_assoc, htext]
    rw [value_bracket hskip hc, hread]
    rfl
  | object [] => rfl
  | object ((name, v) :: more) =>
    simp only [chars, fieldChars, List.length_cons, List.length_append] at hfuel
    obtain ⟨fuel, rfl⟩ : ∃ less, fuel = less + 1 := ⟨fuel - 1, by omega⟩
    have hitem := value_chars layout (level + 1) v fuel (layout.afterField level more ++ rest)
      hplain.1 (endsNumeral_afterField layout level more rest) (by omega)
    rw [← skipBlank_chars layout (level + 1) v layout.blank_pause] at hitem
    have hread := fields_afterField layout level more name hplain.2 (by omega) hitem
    have hskip := skipBlank_quote (layout.blank_gap (level + 1)) name (':' :: (layout.pause ++
      (layout.chars (level + 1) v ++ (layout.afterField level more ++ rest))))
    rw [quote_append] at hskip hread
    simp only [chars, fieldChars, List.cons_append, List.append_assoc]
    rw [quote_append, value_brace hskip, hread]
    simp only [Option.map_some, ofFields_named]

/-- Items are read up to the end of their array. -/
theorem items_afterItem (layout : Layout) (level : Nat) : ∀ (more : List Json) {item : Json}
    {fuel : Nat} {text rest : List Char}, PlainItems more →
      2 * (layout.afterItem level more).length ≤ fuel →
      value fuel text = some (item, layout.afterItem level more ++ rest) →
      items (fuel + 1) text = some (item :: more, rest)
  | [], item, fuel, text, rest => by
    intro _ _ hitem
    have hend : skipBlank (layout.afterItem level [] ++ rest) = ']' :: rest := by
      rw [afterItem, List.append_assoc, skipBlank_append (layout.blank_gap level)]
      exact skipBlank_cons (by decide) _
    exact items_end hitem hend
  | next :: more, item, fuel, text, rest => by
    intro hplain hfuel hitem
    have hcomma : skipBlank (layout.afterItem level (next :: more) ++ rest) =
        ',' :: (layout.gap (level + 1) ++ (layout.chars (level + 1) next ++
          (layout.afterItem level more ++ rest))) := by
      simp only [afterItem, List.cons_append, List.append_assoc]
      exact skipBlank_cons (by decide) _
    simp only [afterItem, List.length_cons, List.length_append] at hfuel
    obtain ⟨fuel, rfl⟩ : ∃ less, fuel = less + 1 := ⟨fuel - 1, by omega⟩
    have hnext := value_chars layout (level + 1) next fuel (layout.afterItem level more ++ rest)
      hplain.1 (endsNumeral_afterItem layout level more rest) (by omega)
    have hread := items_afterItem layout level more hplain.2 (by omega) hnext
    rw [items_comma hitem hcomma,
      skipBlank_chars layout (level + 1) next (layout.blank_gap (level + 1)), hread]
    rfl

/-- Fields are read up to the end of their object. -/
theorem fields_afterField (layout : Layout) (level : Nat) : ∀ (more : List (String × Json))
    (name : String) {item : Json} {fuel : Nat} {text rest : List Char}, PlainFields more →
      2 * (layout.afterField level more).length ≤ fuel →
      value fuel (skipBlank text) = some (item, layout.afterField level more ++ rest) →
      fields (fuel + 1) (quote name ++ ':' :: text) = some (named ((name, item) :: more), rest)
  | [], name, item, fuel, text, rest => by
    intro _ _ hitem
    have hend : skipBlank (layout.afterField level [] ++ rest) = '\x7d' :: rest := by
      rw [afterField, List.append_assoc, skipBlank_append (layout.blank_gap level)]
      exact skipBlank_cons (by decide) _
    exact fields_end hitem hend
  | (next, v) :: more, name, item, fuel, text, rest => by
    intro hplain hfuel hitem
    have hcomma : skipBlank (layout.afterField level ((next, v) :: more) ++ rest) =
        ',' :: (layout.gap (level + 1) ++ (quote next ++ ':' :: (layout.pause ++
          (layout.chars (level + 1) v ++ (layout.afterField level more ++ rest))))) := by
      simp only [afterField, fieldChars, List.cons_append, List.append_assoc]
      exact skipBlank_cons (by decide) _
    simp only [afterField, fieldChars, List.length_cons, List.length_append] at hfuel
    obtain ⟨fuel, rfl⟩ : ∃ less, fuel = less + 1 := ⟨fuel - 1, by omega⟩
    have hnext := value_chars layout (level + 1) v fuel (layout.afterField level more ++ rest)
      hplain.1 (endsNumeral_afterField layout level more rest) (by omega)
    rw [← skipBlank_chars layout (level + 1) v layout.blank_pause] at hnext
    have hread := fields_afterField layout level more next hplain.2 (by omega) hnext
    rw [fields_comma hitem hcomma, skipBlank_quote (layout.blank_gap (level + 1)), hread]
    rfl

end

/-- **A text that lays out a value is the text of that value,** also with white space after it. -/
theorem parse?_chars (layout : Layout) (level : Nat) {v : Json} (h : Plain v)
    (hgap : ∀ c ∈ gap, isBlank c = true) :
    parse? (String.ofList (layout.chars level v ++ gap)) = some v := by
  obtain ⟨c, text, htext, hblank, -⟩ := chars_eq_cons layout level v
  have hskip : skipBlank (layout.chars level v ++ gap) = layout.chars level v ++ gap := by
    rw [htext, List.cons_append, skipBlank_cons hblank]
  have hend : EndsNumeral gap := by
    rw [← List.append_nil gap]
    exact endsNumeral_append hgap endsNumeral_nil
  have hrest : skipBlank gap = [] := by
    rw [← List.append_nil gap, skipBlank_append hgap]
    rfl
  have hread := value_chars layout level v (2 * (layout.chars level v ++ gap).length + 2) gap h hend
    (by simp only [List.length_append]; omega)
  simp only [parse?, String.toList_ofList, hskip, hread, hrest]
  rfl

/-- **The indented form of a value is read back.** -/
theorem parse?_pretty {v : Json} (h : Plain v) : parse? v.pretty = some v := by
  rw [pretty, ← chars_indented, ← List.append_nil (Layout.chars ..)]
  exact parse?_chars indented 0 h fun _ hc => nomatch hc

/-- **The compact form of a value is read back.** -/
theorem parse?_compact {v : Json} (h : Plain v) : parse? v.compact = some v := by
  rw [compact, ← chars_tight 0, ← List.append_nil (Layout.chars ..)]
  exact parse?_chars tight 0 h fun _ hc => nomatch hc

/-- A line break after a text does not matter. -/
theorem parse?_pretty_line {v : Json} (h : Plain v) : parse? (v.pretty ++ "\n") = some v := by
  have hline : v.pretty ++ "\n" = String.ofList (indented.chars 0 v ++ ['\n']) := by
    rw [pretty, ← chars_indented, String.ofList_append]
  rw [hline]
  refine parse?_chars indented 0 h fun c hc => ?_
  rw [List.mem_singleton.mp hc]
  rfl

end DmlOutline.Json
