import DmlOutline.ConfigFile
import DmlOutline.Proofs.TomlTexts

/-!
# Configurations are read back from their texts

The text of a configuration has a line for the directory and a value for the encodings, each only if
there is one. A list of encodings is on one line or on several. The reader undoes all of it.

* `Toml.Spells` — a text is read as a value, whatever follows that cannot go on with it.

Principal results: `Toml.spells_write`, `FileConfig.spells_listText`: texts and lists are read back;
`Toml.lines?_keyLine`: so is a line; `FileConfig.ofText?_toText`: and so is the text of a configuration.
-/

namespace DmlOutline.Toml

variable {c : Char} {text rest more : List Char} {item : Toml} {key : String} {fuel depth : Nat}

/-! ## Between the parts -/

theorem endsText_cons (hdouble : c ≠ '"') (hsingle : c ≠ '\x27') (rest : List Char) :
    EndsText (c :: rest) := by
  constructor <;> intro h
  · exact hdouble (Option.some.inj h)
  · exact hsingle (Option.some.inj h)

theorem skipBlanks_cons (h : isBlank c = false) (rest : List Char) :
    skipBlanks (c :: rest) = c :: rest :=
  List.dropWhile_cons_of_neg (by simp [h])

/-- Nothing is passed over where a part begins. -/
theorem skipBreaks?_cons (hblank : isBlank c = false) (hbreak : c ≠ '\n') (hreturn : c ≠ '\r')
    (hcomment : c ≠ '#') (rest : List Char) : skipBreaks? false (c :: rest) = some (c :: rest) := by
  simp [skipBreaks?, hblank, hreturn, hcomment]

/-- A text with quotes begins with one. -/
theorem write_eq_cons (text : List Char) :
    ∃ quote more, write text = quote :: more ∧ (quote = '"' ∨ quote = '\x27') := by
  unfold write
  simp only
  repeat' split
  all_goals first
    | exact ⟨_, _, rfl, .inl rfl⟩
    | exact ⟨_, _, rfl, .inr rfl⟩

/-- What is written for a text does not end a list. -/
theorem write_append_ne (text rest more : List Char) : write text ++ rest ≠ ']' :: more := by
  obtain ⟨quote, front, hwrite, hquote⟩ := write_eq_cons text
  rw [hwrite]
  rintro heq
  obtain rfl := (List.cons.inj heq).1
  exact absurd hquote (by decide)

theorem skipBreaks?_write (text rest : List Char) :
    skipBreaks? false (write text ++ rest) = some (write text ++ rest) := by
  obtain ⟨quote, more, hwrite, hquote⟩ := write_eq_cons text
  rw [hwrite]
  rcases hquote with rfl | rfl <;>
    exact skipBreaks?_cons (by decide) (by decide) (by decide) (by decide) _

/-! ## Values -/

/-- **A text is read back as a value.** -/
theorem value?_write (text : String) (h : EndsText rest) (fuel depth : Nat) :
    value? (fuel + 1) depth (write text.toList ++ rest) = some (string text, rest) := by
  have hread := quoted?_write text.toList h
  obtain ⟨quote, more, hwrite, hquote⟩ := write_eq_cons text.toList
  rw [hwrite, List.cons_append] at hread ⊢
  rcases hquote with rfl | rfl <;> simp [value?, hread]

theorem skipBreaks?_comma (rest : List Char) :
    skipBreaks? false (',' :: rest) = some (',' :: rest) :=
  skipBreaks?_cons (by decide) (by decide) (by decide) (by decide) rest

theorem skipBreaks?_end (rest : List Char) :
    skipBreaks? false (']' :: rest) = some (']' :: rest) :=
  skipBreaks?_cons (by decide) (by decide) (by decide) (by decide) rest

/-- An item before the end of its array is the last one. -/
theorem items?_end (h : value? fuel depth text = some (item, ']' :: rest)) :
    items? (fuel + 1) depth text = some ([item], rest) := by
  rw [items?, h]
  simp only [skipBreaks?_end]

/-- So is an item with a comma before that end. -/
theorem items?_comma_end (h : value? fuel depth text = some (item, ',' :: more))
    (hmore : skipBreaks? false more = some (']' :: rest)) :
    items? (fuel + 1) depth text = some ([item], rest) := by
  rw [items?, h]
  simp only [skipBreaks?_comma, hmore]

/-- An item before a comma is followed by others. -/
theorem items?_comma {next : List Char} (h : value? fuel depth text = some (item, ',' :: more))
    (hmore : skipBreaks? false more = some next) (hnext : ∀ rest, next ≠ ']' :: rest) :
    items? (fuel + 1) depth text =
      (items? fuel depth next).map fun found => (item :: found.1, found.2) := by
  rw [items?, h]
  simp only [skipBreaks?_comma, hmore]

/-- What an array holds is read item by item. -/
theorem value?_bracket {inside : List Char} (h : skipBreaks? false text = some inside)
    (hinside : ∀ rest, inside ≠ ']' :: rest) :
    value? (fuel + 1) (depth + 1) ('[' :: text) =
      (items? fuel depth inside).map fun found => (array found.1, found.2) := by
  rw [value?]
  simp only [h]

/-- A text that is read as a value, whatever follows it that is no quote. -/
structure Spells (text : List Char) (item : Toml) : Prop where
  /-- No blank begins it. -/
  head : ∃ c more, text = c :: more ∧ isBlank c = false
  read : ∀ {fuel depth : Nat} {rest : List Char}, 2 * text.length ≤ fuel → EndsText rest →
    value? fuel (depth + 1) (text ++ rest) = some (item, rest)

theorem spells_write (text : String) : Spells (write text.toList) (string text) where
  head := by
    obtain ⟨quote, more, hwrite, hquote⟩ := write_eq_cons text.toList
    refine ⟨quote, more, hwrite, ?_⟩
    rcases hquote with rfl | rfl <;> decide
  read := by
    intro fuel depth rest hfuel hrest
    obtain ⟨quote, more, hwrite, -⟩ := write_eq_cons text.toList
    rw [hwrite, List.length_cons] at hfuel
    obtain ⟨fuel, rfl⟩ : ∃ less, fuel = less + 1 := ⟨fuel - 1, by omega⟩
    exact value?_write text hrest fuel (depth + 1)

/-! ## Lines -/

/-- A key that needs no quotes. -/
def IsBareKey (key : String) : Prop :=
  key.toList ≠ [] ∧ key.toList.all isKeyChar = true

instance (key : String) : Decidable (IsBareKey key) :=
  inferInstanceAs (Decidable (_ ∧ _))

/-- What no key has in it does not begin a line with a key. -/
theorem IsBareKey.exists_cons (h : IsBareKey key) (rest : List Char) :
    ∃ c more, key.toList ++ rest = c :: more ∧ isKeyChar c = true := by
  obtain ⟨c, more, hkey⟩ := List.exists_cons_of_ne_nil h.1
  exact ⟨c, more ++ rest, by rw [hkey, List.cons_append], List.all_eq_true.mp h.2 c (by simp [hkey])⟩

theorem ne_of_isKeyChar {d : Char} (hc : isKeyChar c = true) (hd : isKeyChar d = false) : c ≠ d := by
  rintro rfl
  exact Bool.false_ne_true (hd.symm.trans hc)

theorem simpleKey?_bare (h : IsBareKey key) (hc : isKeyChar c = false) (rest : List Char) :
    simpleKey? (key.toList ++ c :: rest) = some (key, c :: rest) := by
  have htake : (key.toList ++ c :: rest).takeWhile isKeyChar = key.toList := by
    rw [List.takeWhile_append_of_pos (List.all_eq_true.mp h.2),
      List.takeWhile_cons_of_neg (by simp [hc]), List.append_nil]
  obtain ⟨first, more, htext, hfirst⟩ := h.exists_cons (c :: rest)
  unfold simpleKey?
  rw [htake]
  split
  · rename_i heq
    rw [htext] at heq
    exact absurd (List.cons.inj heq).1 (ne_of_isKeyChar hfirst (by decide))
  · rename_i heq
    rw [htext] at heq
    exact absurd (List.cons.inj heq).1 (ne_of_isKeyChar hfirst (by decide))
  · simp [h.1]

theorem keyPath?_bare (h : IsBareKey key) (fuel : Nat) (rest : List Char) :
    keyPath? (fuel + 1) (key.toList ++ ' ' :: '=' :: rest) = some ([key], '=' :: rest) := by
  have hskip : skipBlanks (' ' :: '=' :: rest) = '=' :: rest := rfl
  simp [keyPath?, simpleKey?_bare h (c := ' ') (by decide), hskip]

/-- A key and its value are read up to the end of the line. -/
theorem pair?_bare (h : IsBareKey key) (hvalue : Spells text item) (hfuel : 2 * text.length ≤ fuel)
    (rest : List Char) :
    pair? (fuel + 1) (depth + 1) (key.toList ++ ' ' :: '=' :: ' ' :: (text ++ '\n' :: rest)) =
      some ([key], item, '\n' :: rest) := by
  obtain ⟨first, more, htext, -⟩ := h.exists_cons (' ' :: '=' :: ' ' :: (text ++ '\n' :: rest))
  obtain ⟨length, hlength⟩ : ∃ length,
      (key.toList ++ ' ' :: '=' :: ' ' :: (text ++ '\n' :: rest)).length = length + 1 :=
    ⟨more.length, by rw [htext, List.length_cons]⟩
  have hskip : skipBlanks (' ' :: (text ++ '\n' :: rest)) = text ++ '\n' :: rest := by
    obtain ⟨c, more, rfl, hblank⟩ := hvalue.head
    exact skipBlanks_cons hblank _
  have hread : value? fuel (depth + 1) (text ++ '\n' :: rest) = some (item, '\n' :: rest) :=
    hvalue.read hfuel (endsText_cons (by decide) (by decide) rest)
  rw [pair?, hlength, keyPath?_bare h]
  simp [maxNesting, hskip, hread]

/-- A line with a key adds it to the table that the file begins with, unless it is there. -/
theorem line?_bare {entries : Entries} (h : IsBareKey key) (hvalue : Spells text item)
    (hnew : entries.lookup key = none) (rest : List Char) :
    line? entries [] (key.toList ++ ' ' :: '=' :: ' ' :: (text ++ '\n' :: rest)) =
      some (entries ++ [(key, item)], [], '\n' :: rest) := by
  obtain ⟨first, more, htext, hfirst⟩ := h.exists_cons (' ' :: '=' :: ' ' :: (text ++ '\n' :: rest))
  have hbracket : first ≠ '[' := ne_of_isKeyChar hfirst (by decide)
  have hpair : pair? (2 * (first :: more).length + 2) maxNesting (first :: more) =
      some ([key], item, '\n' :: rest) := by
    rw [← htext]
    exact pair?_bare h hvalue (by simp; omega) rest
  rw [htext]
  unfold line?
  split
  · rename_i heq
    exact absurd (List.cons.inj heq).1 hbracket
  · rename_i heq
    exact absurd (List.cons.inj heq).1 hbracket
  · simp only [hpair]
    simp [within?, insert?, hnew]

/-- Such a line is read before the others. -/
theorem lines?_bare {entries : Entries} (h : IsBareKey key) (hvalue : Spells text item)
    (hnew : entries.lookup key = none) (fuel : Nat) (rest : List Char) :
    lines? (fuel + 1) entries [] (key.toList ++ ' ' :: '=' :: ' ' :: (text ++ '\n' :: rest)) =
      lines? fuel (entries ++ [(key, item)]) [] rest := by
  have hline := line?_bare h hvalue hnew rest
  obtain ⟨first, more, htext, hfirst⟩ := h.exists_cons (' ' :: '=' :: ' ' :: (text ++ '\n' :: rest))
  rw [htext] at hline ⊢
  have hblank : isBlank first = false := by
    simp only [isBlank, Bool.or_eq_false_iff, beq_eq_false_iff_ne]
    exact ⟨ne_of_isKeyChar hfirst (by decide), ne_of_isKeyChar hfirst (by decide)⟩
  -- No character of a key begins a comment or ends a line.
  have hfull : isEmptyLine (first :: more) = false := by
    have hcomment : first ≠ '#' := ne_of_isKeyChar hfirst (by decide)
    have hbreak : first ≠ '\n' := ne_of_isKeyChar hfirst (by decide)
    have hreturn : first ≠ '\r' := ne_of_isKeyChar hfirst (by decide)
    simp [isEmptyLine, startsBreak, hcomment, hbreak, hreturn]
  have hend : lineEnd? ('\n' :: rest) = some rest := rfl
  simp [lines?, skipBlanks_cons hblank, hfull, hline, hend]

end DmlOutline.Toml

namespace DmlOutline.FileConfig

open Toml

variable {fuel depth : Nat}

/-! ## Lists -/

/-- The line of a label in a list of several. -/
def labelLine (label : String) : List Char :=
  "    ".toList ++ Toml.write label.toList ++ ",\n".toList

theorem skipBreaks?_labelLine (label : String) (rest : List Char) :
    skipBreaks? false ('\n' :: (labelLine label ++ rest)) =
      some (write label.toList ++ ',' :: '\n' :: rest) := by
  have hline : labelLine label ++ rest =
      ' ' :: ' ' :: ' ' :: ' ' :: (write label.toList ++ ',' :: '\n' :: rest) := by
    simp [labelLine]
  rw [hline]
  exact skipBreaks?_write _ _

/-- The labels of a list of several are read line by line. -/
theorem items?_labelLines (fuel depth : Nat) (label : String) (labels : List String)
    (rest : List Char) (hfuel : labels.length + 2 ≤ fuel) :
    items? fuel depth
        (write label.toList ++ ',' :: '\n' :: (labels.flatMap labelLine ++ ']' :: rest)) =
      some ((label :: labels).map string, rest) := by
  induction labels generalizing label fuel with
  | nil =>
    obtain ⟨fuel, rfl⟩ : ∃ less, fuel = less + 2 := ⟨fuel - 2, by simp at hfuel; omega⟩
    exact items?_comma_end
      (value?_write label (endsText_cons (by decide) (by decide) _) fuel depth) rfl
  | cons next labels ih =>
    rw [List.length_cons] at hfuel
    obtain ⟨fuel, rfl⟩ : ∃ less, fuel = less + 2 := ⟨fuel - 2, by omega⟩
    have hskip := skipBreaks?_labelLine next (labels.flatMap labelLine ++ ']' :: rest)
    rw [List.flatMap_cons, List.append_assoc, items?_comma
      (value?_write label (endsText_cons (by decide) (by decide) _) fuel depth) hskip
      (write_append_ne _ _), ih (fuel + 1) next (by omega)]
    rfl

theorem listText_several (label next : String) (labels : List String) :
    listText (label :: next :: labels) =
      '[' :: '\n' :: ((label :: next :: labels).flatMap labelLine ++ [']']) :=
  rfl

theorem length_le_labelLines (labels : List String) :
    labels.length ≤ (labels.flatMap labelLine).length := by
  induction labels with
  | nil => exact Nat.le_refl 0
  | cons label labels ih =>
    have hlabel : 1 ≤ (labelLine label).length := by simp [labelLine]
    simp only [List.flatMap_cons, List.length_append, List.length_cons]
    omega

/-- **A list of labels is read back,** on one line or on several. -/
theorem spells_listText (labels : List String) :
    Spells (listText labels) (array (labels.map string)) where
  head := by
    match labels with
    | [] => exact ⟨_, _, rfl, by decide⟩
    | [_] => exact ⟨_, _, rfl, by decide⟩
    | _ :: _ :: _ => exact ⟨_, _, rfl, by decide⟩
  read := by
    intro fuel depth rest hfuel hrest
    match labels with
    | [] =>
      obtain ⟨fuel, rfl⟩ : ∃ less, fuel = less + 1 := ⟨fuel - 1, by simp [listText] at hfuel; omega⟩
      simp [listText, value?, skipBreaks?_end]
    | [label] =>
      simp only [listText, List.length_cons, List.length_append] at hfuel
      obtain ⟨fuel, rfl⟩ : ∃ less, fuel = less + 3 := ⟨fuel - 3, by simp at hfuel; omega⟩
      have htext : listText [label] ++ rest = '[' :: (write label.toList ++ ']' :: rest) := by
        simp [listText]
      rw [htext, value?_bracket (skipBreaks?_write _ _) (write_append_ne _ _), items?_end
        (value?_write label (endsText_cons (by decide) (by decide) rest) fuel depth)]
      rfl
    | label :: next :: labels =>
      -- Every item takes fuel for one more reader, which the line of its label pays for.
      have hlines := length_le_labelLines (label :: next :: labels)
      rw [listText_several] at hfuel ⊢
      simp only [List.length_cons, List.length_append, List.length_nil] at hfuel hlines
      obtain ⟨fuel, rfl⟩ : ∃ less, fuel = less + 1 := ⟨fuel - 1, by omega⟩
      have hskip := skipBreaks?_labelLine label ((next :: labels).flatMap labelLine ++ ']' :: rest)
      rw [List.flatMap_cons, List.cons_append, List.cons_append, List.append_assoc,
        List.append_assoc, List.singleton_append, value?_bracket hskip (write_append_ne _ _),
        items?_labelLines fuel depth label (next :: labels) rest (by rw [List.length_cons]; omega)]
      rfl

/-! ## Configurations -/

theorem keyLine_append (key : String) (value rest : List Char) :
    keyLine key value ++ rest = key.toList ++ ' ' :: '=' :: ' ' :: (value ++ '\n' :: rest) := by
  simp [keyLine]

theorem lines?_keyLine {entries : Entries} {key : String} {value : List Char} {item : Toml}
    (hkey : IsBareKey key) (hvalue : Spells value item) (hnew : entries.lookup key = none)
    (fuel : Nat) (rest : List Char) :
    lines? (fuel + 1) entries [] (keyLine key value ++ rest) =
      lines? fuel (entries ++ [(key, item)]) [] rest := by
  rw [keyLine_append, lines?_bare hkey hvalue hnew]

/-- The entries of the file that says this. -/
def entries (config : FileConfig) : Entries :=
  (config.baseDir.map fun dir => ("base_dir", string dir)).toList ++
    (config.encodings.map fun labels => ("encodings", array (labels.map string))).toList

theorem keyLine_pos (key : String) (value : List Char) : 0 < (keyLine key value).length := by
  simp only [keyLine, List.length_append, List.length_singleton]
  omega

/-- The line of the encodings, if there is one, is the last. -/
theorem lines?_encodings {before : Entries} (encodings : Option (List String))
    (hnew : before.lookup "encodings" = none)
    (hfuel : ((encodings.map fun labels => keyLine "encodings" (listText labels)).getD []).length <
      fuel) :
    lines? fuel before []
        ((encodings.map fun labels => keyLine "encodings" (listText labels)).getD []) =
      some (before ++
        (encodings.map fun labels => ("encodings", array (labels.map string))).toList) := by
  cases encodings with
  | none =>
    obtain ⟨fuel, rfl⟩ : ∃ less, fuel = less + 1 := ⟨fuel - 1, by omega⟩
    simp [lines?, skipBlanks]
  | some labels =>
    rw [Option.map_some, Option.getD_some] at hfuel ⊢
    have hpositive := keyLine_pos "encodings" (listText labels)
    obtain ⟨fuel, rfl⟩ : ∃ less, fuel = less + 2 := ⟨fuel - 2, by omega⟩
    have hline := lines?_keyLine (by decide) (spells_listText labels) hnew (fuel + 1) []
    rw [List.append_nil] at hline
    rw [hline]
    simp [lines?, skipBlanks]

theorem lines?_toText (config : FileConfig) (hfuel : config.toText.toList.length < fuel) :
    lines? fuel [] [] config.toText.toList = some config.entries := by
  rw [toText, String.toList_ofList] at hfuel ⊢
  rw [entries]
  cases hdir : config.baseDir with
  | none =>
    rw [hdir] at hfuel
    exact lines?_encodings config.encodings rfl hfuel
  | some dir =>
    rw [hdir, Option.map_some, Option.getD_some, List.length_append] at hfuel
    have hpositive := keyLine_pos "base_dir" (write dir.toList)
    obtain ⟨fuel, rfl⟩ : ∃ less, fuel = less + 1 := ⟨fuel - 1, by omega⟩
    rw [Option.map_some, Option.getD_some, lines?_keyLine (by decide) (spells_write dir) rfl]
    exact lines?_encodings config.encodings rfl (by omega)

/-- No byte-order mark begins the text of a configuration. -/
theorem toText_ne_mark (config : FileConfig) (rest : List Char) :
    config.toText.toList ≠ '\ufeff' :: rest := by
  obtain ⟨baseDir, encodings⟩ := config
  rw [toText, String.toList_ofList]
  cases baseDir <;> cases encodings <;> simp [keyLine]

theorem parse?_toText (config : FileConfig) : parse? config.toText = some config.entries := by
  unfold parse?
  split
  · rename_i heq
    exact absurd heq (toText_ne_mark config _)
  · exact lines?_toText config (Nat.lt_succ_self _)

theorem stringsOf?_map (labels : List String) :
    stringsOf? (array (labels.map string)) = some labels := by
  rw [stringsOf?]
  induction labels with
  | nil => rfl
  | cons label labels ih => simp [stringOf?, ih]

theorem ofEntries?_entries (config : FileConfig) : ofEntries? config.entries = some config := by
  obtain ⟨baseDir, encodings⟩ := config
  cases baseDir <;> cases encodings <;>
    simp [ofEntries?, entries, stringOf?, stringsOf?_map, List.lookup_cons]

/-- **A configuration is read back from its text.** -/
theorem ofText?_toText (config : FileConfig) : ofText? config.toText = some config := by
  rw [ofText?, parse?_toText, Option.bind_some, ofEntries?_entries]

end DmlOutline.FileConfig
