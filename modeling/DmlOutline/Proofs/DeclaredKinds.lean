import DmlOutline.Proofs.DeclaredNames

/-!
# The kind that is declared

The words for the kind of a unit are recognised twice: without regard to case when a header is
found, and by their upper case when the kind is read off them. The two agree on every character but
the Kelvin sign, a form of the letter K that is its own upper case. So the kind that is read is the
declared one exactly when there is no Kelvin sign in its words; with one, a package is taken for a
trigger.

* `UnitKind.Words` — the words that declare a kind.
* `kelvinSign` — the character on which the two disagree; `capital` — the upper case of a letter.

Principal results: `upper_of_spells`: the upper case of a word; `UnitKind.existsUnique_words`: the
declared kind; `ofText?_kind_iff`.
-/

namespace DmlOutline

open ProgramUnit

namespace ProgramUnit

variable {text words front rest : List Char} {word : String} {c : Char}

/-! ## Upper case of words -/

/-- A form of the letter K that is its own upper case. -/
def kelvinSign : Char := '\u212a'

/-- The upper case of a letter in any form; the Kelvin sign stays as it is. -/
def capital (c : Char) : Char :=
  if c = kelvinSign then c else (foldChar c).toUpper

/-- The upper case of a form of a letter is a letter, and that of a Kelvin sign is itself. -/
theorem upperChar_of_foldChar (h : (foldChar c).toNat < 128) : Text.upperChar c = [capital c] := by
  by_cases hkelvin : c = kelvinSign
  · rw [hkelvin]
    decide +kernel
  by_cases hlong : c = '\u017f'
  · rw [hlong]
    decide +kernel
  have hfold : foldChar c = c.toLower := (if_neg hkelvin).trans (if_neg hlong)
  rw [hfold] at h
  have hlt := toNat_lt_of_toLower h
  have hascii : ∀ n < 128, (Char.ofNat n).toUpper = (Char.ofNat n).toLower.toUpper := by decide
  have hupper := hascii c.toNat hlt
  rw [Char.ofNat_toNat] at hupper
  rw [Text.upperChar, if_pos hlt, capital, if_neg hkelvin, hfold, hupper]

/-- White space is its own upper case. -/
theorem upper_of_blank (h : Blank text) : Text.upper text = text := by
  have hspace : ∀ c ∈ text, Text.upperChar c = [c] := fun c hc =>
    of_isSpace (P := fun c => Text.upperChar c = [c]) (by decide +kernel) (h.2 c hc)
  rw [Text.upper, List.flatMap_congr hspace, List.flatMap_singleton']

/-- A word in ASCII capitals. -/
def IsCapital (word : String) : Prop :=
  word.toList.all Char.isUpper = true

instance (word : String) : Decidable (IsCapital word) :=
  inferInstanceAs (Decidable (word.toList.all Char.isUpper = true))

/-- A capital is the upper case of its lower case, which is an ASCII letter. -/
theorem IsCapital.letter (hword : IsCapital word) (hc : c ∈ word.toList) :
    c.toLower.toNat < 128 ∧ c.toLower.toUpper = c ∧ Text.isSpace c.toLower = false := by
  have hupper : c.isUpper = true := List.all_eq_true.mp hword c hc
  have hascii : ∀ n < 128, (Char.ofNat n).isUpper = true →
      (Char.ofNat n).toLower.toNat < 128 ∧ (Char.ofNat n).toLower.toUpper = Char.ofNat n ∧
        Text.isSpace (Char.ofNat n).toLower = false := by decide +kernel
  have hbounds : 'A'.val ≤ c.val ∧ c.val ≤ 'Z'.val := of_decide_eq_true hupper
  have hlt : c.toNat < 128 :=
    Nat.lt_of_le_of_lt (UInt32.le_iff_toNat_le.mp hbounds.2) (by decide)
  have hletter := hascii c.toNat hlt
  rw [Char.ofNat_toNat] at hletter
  exact hletter hupper

theorem upper_eq_map_of_spells (h : Spells word text) (hword : IsCapital word) :
    Text.upper text = text.map capital := by
  have hfold : ∀ c ∈ text, Text.upperChar c = [capital c] := by
    intro c hc
    have hmem : foldChar c ∈ word.toList.map Char.toLower := by
      rw [← h]
      exact List.mem_map_of_mem hc
    obtain ⟨letter, hletter, heq⟩ := List.mem_map.mp hmem
    exact upperChar_of_foldChar (by rw [← heq]; exact (hword.letter hletter).1)
  rw [Text.upper, List.flatMap_congr hfold, ← List.map_eq_flatMap]

/-- **A word in any case has the word in capitals as its upper case**, unless there is a Kelvin sign
in it. -/
theorem upper_of_spells (h : Spells word text) (hword : IsCapital word)
    (hkelvin : kelvinSign ∉ text) : Text.upper text = word.toList := by
  have hcapital : ∀ c ∈ text, capital c = (foldChar c).toUpper := by
    intro c hc
    rw [capital, if_neg]
    rintro rfl
    exact hkelvin hc
  rw [upper_eq_map_of_spells h hword, List.map_congr_left hcapital, ← Function.comp_def,
    ← List.map_map, h, List.map_map]
  exact (List.map_congr_left fun c hc => (hword.letter hc).2.1).trans (List.map_id _)

/-- A Kelvin sign stands for a K only. -/
theorem Spells.letter_of_kelvinSign (h : Spells word text) (hkelvin : kelvinSign ∈ text) :
    'k' ∈ word.toList.map Char.toLower := by
  rw [← h]
  exact List.mem_map.mpr ⟨kelvinSign, hkelvin, by decide⟩

theorem IsPackageBody.kelvinSign_mem (h : IsPackageBody words) (hkelvin : kelvinSign ∈ words) :
    ∃ package rest, words = package ++ rest ∧ Spells "PACKAGE" package ∧ kelvinSign ∈ package := by
  obtain ⟨package, blank, body, rfl, hpackage, hblank, hbody⟩ := h
  refine ⟨package, blank ++ body, rfl, hpackage, ?_⟩
  rcases List.mem_append.mp hkelvin with hmem | hmem
  · exact hmem
  · rcases List.mem_append.mp hmem with hmem | hmem
    · exact absurd (hblank.2 _ hmem) (by decide)
    · exact absurd (hbody.letter_of_kelvinSign hmem) (by decide)

end ProgramUnit

/-! ## The words for a kind -/

namespace UnitKind

variable {word : String} {words front : List Char} {kind other : UnitKind}

/-- The words that declare a unit of a kind. -/
def Words : UnitKind → List Char → Prop
  | packageBody, words => IsPackageBody words
  | kind, words => Spells kind.label words

/-- Words that are shown alike but for case are those of one kind. -/
theorem eq_of_spells_label (h : Spells kind.label words) (h' : Spells other.label words) :
    kind = other := by
  have hlower := h.symm.trans h'
  revert hlower
  cases kind <;> cases other <;> decide

/-- One word is no package body, since there is white space in that. -/
theorem not_isPackageBody (h : Spells word words) (hword : IsCapital word) :
    ¬IsPackageBody words := by
  rintro ⟨package, blank, body, rfl, -, ⟨hne, hblank⟩, -⟩
  obtain ⟨c, more, rfl⟩ := List.exists_cons_of_ne_nil hne
  have hspace := hblank c List.mem_cons_self
  have hmem : c ∈ (package ++ (c :: more ++ body)).map foldChar :=
    List.mem_map.mpr ⟨c, by simp, foldChar_of_isSpace hspace⟩
  rw [h] at hmem
  obtain ⟨letter, hletter, rfl⟩ := List.mem_map.mp hmem
  rw [(hword.letter hletter).2.2] at hspace
  cases hspace

/-- Every kind but one is declared by one word. -/
theorem Words.cases (h : kind.Words words) : kind = packageBody ∧ IsPackageBody words ∨
    kind.label ∈ singleWords ∧ Spells kind.label words := by
  cases kind with
  | packageBody => exact .inl ⟨rfl, h⟩
  | package => exact .inr ⟨by decide, h⟩
  | procedure => exact .inr ⟨by decide, h⟩
  | function => exact .inr ⟨by decide, h⟩
  | trigger => exact .inr ⟨by decide, h⟩

theorem isCapital_of_mem (h : word ∈ singleWords) : IsCapital word := by
  revert word
  decide

theorem Words.unique (h : kind.Words words) (h' : other.Words words) : kind = other := by
  rcases h.cases with ⟨rfl, h⟩ | ⟨hword, h⟩ <;> rcases h'.cases with ⟨rfl, h'⟩ | ⟨hword', h'⟩
  · rfl
  · exact (not_isPackageBody h' (isCapital_of_mem hword') h).elim
  · exact (not_isPackageBody h (isCapital_of_mem hword) h').elim
  · exact eq_of_spells_label h h'

/-- **The words for a kind declare one kind.** -/
theorem existsUnique_words (h : IsKind words) : ∃! kind : UnitKind, kind.Words words := by
  have hexists : ∃ kind : UnitKind, kind.Words words := by
    rcases h with hbody | ⟨word, hword, hspells⟩
    · exact ⟨packageBody, hbody⟩
    · simp only [singleWords, List.mem_cons, List.not_mem_nil, or_false] at hword
      rcases hword with rfl | rfl | rfl | rfl
      exacts [⟨package, hspells⟩, ⟨procedure, hspells⟩, ⟨function, hspells⟩, ⟨trigger, hspells⟩]
  obtain ⟨kind, hkind⟩ := hexists
  exact ⟨kind, hkind, fun other hother => hother.unique hkind⟩

/-! ## The kind that is read -/

/-- **Without a Kelvin sign, the kind that is read is the declared one.** -/
theorem ofWords_of_words (h : kind.Words words) (hkelvin : kelvinSign ∉ words) :
    ofWords words = kind := by
  rcases h.cases with ⟨rfl, package, blank, body, rfl, hpackage, hblank, hbody⟩ | ⟨hword, hspells⟩
  · simp only [List.mem_append, not_or] at hkelvin
    obtain ⟨hfirst, -, hlast⟩ := hkelvin
    have hupper : Text.upper (package ++ (blank ++ body)) =
        "PACKAGE".toList ++ (blank ++ "BODY".toList) := by
      rw [Text.upper_append, Text.upper_append, upper_of_spells hpackage (by decide) hfirst,
        upper_of_blank hblank, upper_of_spells hbody (by decide) hlast]
    have hends : "BODY".toList.isSuffixOf ("PACKAGE".toList ++ (blank ++ "BODY".toList)) = true :=
      List.isSuffixOf_iff_suffix.mpr ⟨"PACKAGE".toList ++ blank, List.append_assoc ..⟩
    have hbegins : "PACKAGE".toList.isPrefixOf ("PACKAGE".toList ++ (blank ++ "BODY".toList)) =
        true := List.isPrefixOf_iff_prefix.mpr (List.prefix_append _ _)
    rw [ofWords, hupper]
    simp only [hbegins, hends, Bool.and_self, if_true]
  · rw [ofWords, upper_of_spells hspells (isCapital_of_mem hword) hkelvin]
    cases kind with
    | packageBody => exact absurd hword (by decide)
    | package => decide
    | procedure => decide
    | function => decide
    | trigger => decide

/-- With a Kelvin sign, a package is taken for a trigger, and so is its body. -/
theorem ofWords_of_kelvinSign (h : Spells "PACKAGE" front) (hkelvin : kelvinSign ∈ front)
    (rest : List Char) : ofWords (front ++ rest) = trigger := by
  have hmem : kelvinSign ∈ front.map capital := List.mem_map.mpr ⟨kelvinSign, hkelvin, by decide⟩
  have hupper : Text.upper (front ++ rest) = front.map capital ++ Text.upper rest := by
    rw [Text.upper_append, upper_eq_map_of_spells h (by decide)]
  have hnot : "PACKAGE".toList.isPrefixOf (front.map capital ++ Text.upper rest) = false := by
    rw [← Bool.not_eq_true, List.isPrefixOf_iff_prefix]
    intro hbegins
    have hlength : "PACKAGE".toList.length = (front.map capital).length := by
      rw [List.length_map, h.length_eq]
      rfl
    have hsame := (List.prefix_of_prefix_length_le hbegins (List.prefix_append _ _)
      (Nat.le_of_eq hlength)).eq_of_length hlength
    rw [← hsame] at hmem
    exact absurd hmem (by decide)
  have hne : ∀ word : String, kelvinSign ∉ word.toList →
      front.map capital ++ Text.upper rest ≠ word.toList := by
    intro word hword heq
    exact hword (heq ▸ List.mem_append_left _ hmem)
  rw [ofWords, hupper]
  simp only [hnot, Bool.false_and, Bool.false_eq_true, if_false]
  rw [if_neg (hne _ (by decide)), if_neg (hne _ (by decide)), if_neg (hne _ (by decide))]

theorem Words.of_kelvinSign (h : kind.Words words) (hkelvin : kelvinSign ∈ words) :
    kind ∈ [package, packageBody] ∧ ofWords words = trigger := by
  cases kind with
  | package =>
    have hread := ofWords_of_kelvinSign h hkelvin []
    rw [List.append_nil] at hread
    exact ⟨by decide, hread⟩
  | packageBody =>
    obtain ⟨front, rest, rfl, hfront, hmem⟩ := IsPackageBody.kelvinSign_mem h hkelvin
    exact ⟨by decide, ofWords_of_kelvinSign hfront hmem rest⟩
  | procedure => exact absurd (Spells.letter_of_kelvinSign h hkelvin) (by decide)
  | function => exact absurd (Spells.letter_of_kelvinSign h hkelvin) (by decide)
  | trigger => exact absurd (Spells.letter_of_kelvinSign h hkelvin) (by decide)

end UnitKind

namespace ProgramUnit

/-- **The kind of a unit is the one that its header declares**, unless there is a Kelvin sign in the
words for it. That can be in a package or its body only, and the unit is then taken for a
trigger. -/
theorem ofText?_kind_iff {text : String} {before after words declared : List Char}
    (hfirst : FirstHeader text.toList before after) (hreads : Reads after words declared) :
    ∃ unit, ofText? text = some unit ∧ (∃! kind : UnitKind, kind.Words words) ∧
      ∀ kind : UnitKind, kind.Words words → (unit.kind = kind ↔ kelvinSign ∉ words) ∧
        (kelvinSign ∈ words → kind ∈ [.package, .packageBody] ∧ unit.kind = .trigger) := by
  have hread := ofText?_eq_some_iff.mpr ⟨before, after, words, declared, hfirst, hreads, rfl⟩
  refine ⟨_, hread, UnitKind.existsUnique_words hreads.isKind, fun kind hwords =>
    ⟨⟨?_, UnitKind.ofWords_of_words hwords⟩, hwords.of_kelvinSign⟩⟩
  intro hsame hkelvin
  obtain ⟨hpackage, htrigger⟩ := hwords.of_kelvinSign hkelvin
  obtain rfl : kind = .trigger := hsame.symm.trans htrigger
  exact absurd hpackage (by decide)

/-- A header of a package body in mixed case, with other white space than blanks. -/
def mixedHeader : String := "create or REPLACE\tPackage\u2003\u00a0bODY hr.pkg IS"

theorem reads_mixedHeader :
    Reads mixedHeader.toList "Package\u2003\u00a0bODY".toList "hr.pkg".toList := by
  have hread : Header.at? mixedHeader.toList =
      some ⟨"Package\u2003\u00a0bODY".toList, "hr.pkg".toList⟩ := by decide +kernel
  exact Header.at?_eq_some_iff.mp hread

/-- The kind is read in any case. -/
theorem ofText?_kind_iff_mixed :
    ∃ unit, ofText? mixedHeader = some unit ∧ unit.kind = .packageBody := by
  obtain ⟨unit, hunit, -, hkind⟩ := ofText?_kind_iff (.of_reads reads_mixedHeader) reads_mixedHeader
  have hwords : UnitKind.packageBody.Words "Package\u2003\u00a0bODY".toList := by
    change IsPackageBody ("Package".toList ++ ("\u2003\u00a0".toList ++ "bODY".toList))
    exact ⟨_, _, _, rfl, by decide, ⟨by decide, List.all_eq_true.mp (by decide)⟩, by decide⟩
  exact ⟨unit, hunit, (hkind _ hwords).1.mpr (by decide)⟩

/-- A header of a package that is spelled with a Kelvin sign. -/
def kelvinHeader : String := "CREATE PAC\u212aAGE p"

theorem reads_kelvinHeader : Reads kelvinHeader.toList "PAC\u212aAGE".toList "p".toList := by
  have hread : Header.at? kelvinHeader.toList = some ⟨"PAC\u212aAGE".toList, "p".toList⟩ := by
    decide +kernel
  exact Header.at?_eq_some_iff.mp hread

/-- A package that is spelled with a Kelvin sign is no package. -/
theorem ofText?_kind_not_declared :
    ¬∀ (text : String) (before after words declared : List Char) (kind : UnitKind),
      FirstHeader text.toList before after → Reads after words declared → kind.Words words →
      ∃ unit, ofText? text = some unit ∧ unit.kind = kind := by
  intro h
  obtain ⟨unit, hunit, hkind⟩ := h kelvinHeader [] _ _ _ .package
    (.of_reads reads_kelvinHeader) reads_kelvinHeader
    (by decide : Spells "PACKAGE" "PAC\u212aAGE".toList)
  have hread : ofText? kelvinHeader = some ⟨.trigger, none, "p"⟩ := by decide +kernel
  obtain rfl := Option.some.inj (hread.symm.trans hunit)
  cases hkind

end ProgramUnit

end DmlOutline
