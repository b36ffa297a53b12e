import DmlOutline.ProgramUnit.Header
import Mathlib.Data.List.TakeWhile
import Mathlib.Data.List.Infix

/-!
# The parts of a header

The readers of words, white space and names take as much as they can. What they take is said here
without them, by what the text looks like; each reader then succeeds exactly on the texts that begin
like that, and what follows is what a longer part would have taken in.

* `Spells`, `Blank` — a word without regard to case, and white space.
* `IsBare`, `IsQuoted`, `IsSegment` — a name, bare or in quotes.
* `TakesSegment` — a name as far as it goes; `Declared` — a name with what qualifies it.
* `Stops` — a text that does not go on with characters of some kind.

Principal results: `word?_eq_some_iff`, `space?_eq_some_iff`, `segment?_eq_some_iff`,
`declared?_eq_some_iff`: what each reader takes; `isSome_segment?_iff`: where a name can be read.
-/

namespace DmlOutline.ProgramUnit

variable {word : String} {text front rest name : List Char} {test : Char → Bool} {c : Char}

/-! ## Characters -/

/-- A text that does not go on with a character that satisfies a test. -/
def Stops (test : Char → Bool) (text : List Char) : Prop :=
  ∀ c, text.head? = some c → test c = false

instance (test : Char → Bool) (text : List Char) : Decidable (Stops test text) :=
  decidable_of_iff (text.head?.any test = false) (by cases h : text.head? <;> simp [Stops, h])

theorem stops_nil (test : Char → Bool) : Stops test [] := by
  intro c h
  cases h

theorem stops_cons (h : test c = false) (rest : List Char) : Stops test (c :: rest) := by
  intro first hfirst
  obtain rfl := Option.some.inj hfirst
  exact h

/-- **A text is cut where it stops satisfying a test.** -/
theorem span_eq_iff :
    text.span test = (front, rest) ↔
      text = front ++ rest ∧ (∀ c ∈ front, test c = true) ∧ Stops test rest := by
  rw [List.span_eq_takeWhile_dropWhile, Prod.mk.injEq]
  constructor
  · rintro ⟨rfl, rfl⟩
    refine ⟨List.takeWhile_append_dropWhile.symm, fun c hc => List.mem_takeWhile_imp hc, ?_⟩
    intro c hc
    have hhead := List.head?_dropWhile_not test text
    rw [hc] at hhead
    exact hhead
  · rintro ⟨rfl, hall, hstops⟩
    rw [List.takeWhile_append_of_pos hall, List.dropWhile_append_of_pos hall]
    cases rest with
    | nil => simp
    | cons c more =>
      have hc : test c = false := hstops c rfl
      simp [hc]

/-- A text that is cut there unless it stops at once. -/
theorem span_ne_nil_eq_some_iff :
    (match text.span test with
      | ([], _) => none
      | found => some found) = some (front, rest) ↔
      text = front ++ rest ∧ (front ≠ [] ∧ ∀ c ∈ front, test c = true) ∧ Stops test rest := by
  have hspan : text.span test = (front, rest) ↔ _ := span_eq_iff
  cases hcut : text.span test with
  | mk taken left =>
    rw [hcut] at hspan
    cases taken with
    | nil =>
      constructor
      · intro h
        cases h
      · rintro ⟨htext, ⟨hne, hall⟩, hstops⟩
        cases hspan.mpr ⟨htext, hall, hstops⟩
        exact absurd rfl hne
    | cons c more =>
      constructor
      · intro h
        obtain ⟨htext, hall, hstops⟩ := hspan.mp (Option.some.inj h)
        refine ⟨htext, ⟨?_, hall⟩, hstops⟩
        rintro rfl
        cases h
      · rintro ⟨htext, ⟨hne, hall⟩, hstops⟩
        exact congrArg some (hspan.mpr ⟨htext, hall, hstops⟩)

/-- A character that fails a test is not in a text that satisfies it. -/
theorem notMem_of_forall (hall : ∀ c ∈ text, test c = true) (hc : test c = false) : c ∉ text := by
  intro hmem
  rw [hall c hmem] at hc
  cases hc

/-- What holds of the code points of white space holds of all white space. -/
theorem of_isSpace {P : Char → Prop}
    (hranges : ∀ range ∈ Text.spaceRanges, ∀ n < range.2 - range.1 + 1,
      P (Char.ofNat (range.1 + n)))
    (h : Text.isSpace c = true) : P c := by
  obtain ⟨range, hmem, hfirst, hlast⟩ := Text.CodeRanges.contains_eq_true_iff.mp h
  have hc := hranges range hmem (c.toNat - range.1) (by omega)
  rwa [Nat.add_sub_cancel' hfirst, Char.ofNat_toNat] at hc

/-- No white space belongs to a name. -/
theorem isNameChar_of_isSpace (h : Text.isSpace c = true) : isNameChar c = false :=
  of_isSpace (P := fun c => isNameChar c = false) (by decide +kernel) h

theorem isSpace_of_isNameChar (h : isNameChar c = true) : Text.isSpace c = false := by
  cases hspace : Text.isSpace c with
  | false => rfl
  | true => exact absurd h (by rw [isNameChar_of_isSpace hspace]; exact Bool.false_ne_true)

/-- White space has no case. -/
theorem foldChar_of_isSpace (h : Text.isSpace c = true) : foldChar c = c :=
  of_isSpace (P := fun c => foldChar c = c) (by decide +kernel) h

/-- Only ASCII characters have one as their ASCII lower case. -/
theorem toNat_lt_of_toLower (h : c.toLower.toNat < 128) : c.toNat < 128 := by
  by_cases hcapital : c.val ≥ 'A'.val ∧ c.val ≤ 'Z'.val
  · exact Nat.lt_of_le_of_lt (UInt32.le_iff_toNat_le.mp hcapital.2) (by decide)
  · have hself : c.toLower = c := dif_neg hcapital
    rwa [hself] at h

/-! ## Words -/

/-- A text that is a word but for the case of its letters. -/
def Spells (word : String) (text : List Char) : Prop :=
  text.map foldChar = word.toList.map Char.toLower

instance (word : String) (text : List Char) : Decidable (Spells word text) :=
  inferInstanceAs (Decidable (text.map foldChar = word.toList.map Char.toLower))

theorem Spells.length_eq (h : Spells word text) : text.length = word.length := by
  have hlength := congrArg List.length h
  rwa [List.length_map, List.length_map, String.length_toList] at hlength

/-- **A word is read where the text begins with it.** -/
theorem word?_eq_some_iff :
    word? word text = some (front, rest) ↔ text = front ++ rest ∧ Spells word front := by
  unfold word?
  rw [List.splitAt_eq]
  constructor
  · intro h
    split at h
    · rename_i hword
      cases h
      exact ⟨(List.take_append_drop _ _).symm, hword⟩
    · cases h
  · rintro ⟨rfl, hword⟩
    rw [← hword.length_eq, List.take_left, List.drop_left]
    exact if_pos hword

/-- A text that begins with one of some letters, in any case. -/
def Begins (letters : List Char) (text : List Char) : Prop :=
  ∃ c, text.head? = some c ∧ foldChar c ∈ letters

theorem Begins.mono {letters more : List Char} (h : Begins letters text) (hsub : letters ⊆ more) :
    Begins more text := by
  obtain ⟨c, hc, hmem⟩ := h
  exact ⟨c, hc, hsub hmem⟩

theorem Spells.begins {letter : Char} {letters : List Char} (h : Spells word front)
    (hletter : (word.toList.map Char.toLower).head? = some letter) (hmem : letter ∈ letters)
    (rest : List Char) : Begins letters (front ++ rest) := by
  rw [← h] at hletter
  cases front with
  | nil => cases hletter
  | cons c more =>
    obtain rfl := Option.some.inj hletter
    exact ⟨c, rfl, hmem⟩

/-- A letter is no white space. -/
theorem Begins.stops {letters : List Char} (h : Begins letters text)
    (hletters : letters.any Text.isSpace = false) : Stops Text.isSpace text := by
  obtain ⟨first, hfirst, hmem⟩ := h
  intro c hc
  obtain rfl := Option.some.inj (hfirst.symm.trans hc)
  cases hspace : Text.isSpace first with
  | false => rfl
  | true =>
    rw [foldChar_of_isSpace hspace] at hmem
    exact absurd hspace (List.any_eq_false.mp hletters first hmem)

/-! ## White space -/

/-- White space, at least one character. -/
def Blank (text : List Char) : Prop :=
  text ≠ [] ∧ ∀ c ∈ text, Text.isSpace c = true

/-- **White space is read as far as it goes.** -/
theorem space?_eq_some_iff :
    space? text = some (front, rest) ↔
      text = front ++ rest ∧ Blank front ∧ Stops Text.isSpace rest :=
  span_ne_nil_eq_some_iff

/-- A word and white space are read together. -/
theorem afterWord?_eq_some_iff :
    afterWord? word text = some rest ↔ ∃ spelled blank, text = spelled ++ (blank ++ rest) ∧
      Spells word spelled ∧ Blank blank ∧ Stops Text.isSpace rest := by
  simp only [afterWord?, Option.bind_eq_bind, Option.bind_eq_some_iff, Option.some.injEq,
    Prod.exists]
  constructor
  · rintro ⟨spelled, left, hword, blank, last, hspace, rfl⟩
    obtain ⟨rfl, hspells⟩ := word?_eq_some_iff.mp hword
    obtain ⟨rfl, hblank, hstops⟩ := space?_eq_some_iff.mp hspace
    exact ⟨spelled, blank, rfl, hspells, hblank, hstops⟩
  · rintro ⟨spelled, blank, rfl, hspells, hblank, hstops⟩
    exact ⟨spelled, blank ++ rest, word?_eq_some_iff.mpr ⟨rfl, hspells⟩, blank, rest,
      space?_eq_some_iff.mpr ⟨rfl, hblank, hstops⟩, rfl⟩

/-- A word is not read where other letters come first. -/
theorem afterWord?_eq_none {letter : Char} {letters : List Char} (h : Begins letters text)
    (hletter : (word.toList.map Char.toLower).head? = some letter) (hmem : letter ∉ letters) :
    afterWord? word text = none := by
  cases hread : afterWord? word text with
  | none => rfl
  | some rest =>
    obtain ⟨spelled, blank, rfl, hspells, -⟩ := afterWord?_eq_some_iff.mp hread
    obtain ⟨c, hc, hfirst⟩ := h
    obtain ⟨d, hd, hword⟩ := hspells.begins hletter (List.mem_singleton_self letter) (blank ++ rest)
    obtain rfl := Option.some.inj (hc.symm.trans hd)
    rw [List.mem_singleton] at hword
    rw [hword] at hfirst
    exact absurd hfirst hmem

/-! ## Names -/

/-- A bare name. -/
def IsBare (name : List Char) : Prop :=
  name ≠ [] ∧ ∀ c ∈ name, isNameChar c = true

/-- A name in quotes, with its quotes: its content is not empty. -/
def IsQuoted (name : List Char) : Prop :=
  ∃ content, content ≠ [] ∧ '"' ∉ content ∧ name = '"' :: (content ++ ['"'])

/-- A name, bare or in quotes. -/
def IsSegment (name : List Char) : Prop :=
  IsBare name ∨ IsQuoted name

/-- A name that is read before the rest of a text: a bare one goes on as far as it can. -/
def TakesSegment (name rest : List Char) : Prop :=
  IsQuoted name ∨ IsBare name ∧ Stops isNameChar rest

theorem TakesSegment.isSegment (h : TakesSegment name rest) : IsSegment name := by
  rcases h with hquoted | ⟨hbare, -⟩
  · exact .inr hquoted
  · exact .inl hbare

theorem bare?_eq_some_iff :
    bare? text = some (name, rest) ↔ text = name ++ rest ∧ IsBare name ∧ Stops isNameChar rest :=
  span_ne_nil_eq_some_iff

theorem quoted?_eq_some_iff :
    quoted? text = some (name, rest) ↔ text = name ++ rest ∧ IsQuoted name := by
  constructor
  · intro h
    unfold quoted? at h
    split at h
    · rename_i more
      split at h
      · cases h
      · rename_i content last hne hspan
        cases h
        obtain ⟨rfl, hall, -⟩ := span_eq_iff.mp hspan
        refine ⟨by simp, content, ?_, ?_, rfl⟩
        · exact hne
        · exact notMem_of_forall hall (by simp)
      · cases h
    · cases h
  · rintro ⟨rfl, content, hne, hquote, rfl⟩
    have hspan : (content ++ '"' :: rest).span (· ≠ '"') = (content, '"' :: rest) := by
      refine span_eq_iff.mpr ⟨rfl, ?_, stops_cons (by simp) rest⟩
      intro c hc
      have hne : c ≠ '"' := by
        rintro rfl
        exact hquote hc
      simpa using hne
    have htext : '"' :: (content ++ ['"']) ++ rest = '"' :: (content ++ '"' :: rest) := by simp
    rw [htext]
    simp only [quoted?, hspan]

/-- A bare name does not begin with a quote. -/
theorem IsBare.quoted?_eq_none (h : IsBare name) (rest : List Char) :
    quoted? (name ++ rest) = none := by
  cases hread : quoted? (name ++ rest) with
  | none => rfl
  | some found =>
    obtain ⟨htext, content, -, -, hname⟩ := quoted?_eq_some_iff.mp hread
    obtain ⟨hne, hall⟩ := h
    obtain ⟨c, more, rfl⟩ := List.exists_cons_of_ne_nil hne
    rw [hname, List.cons_append, List.cons_append, List.cons.injEq] at htext
    rw [htext.1] at hall
    exact absurd List.mem_cons_self (notMem_of_forall hall (by decide))

/-- **A name is read as far as it goes.** -/
theorem segment?_eq_some_iff :
    segment? text = some (name, rest) ↔ text = name ++ rest ∧ TakesSegment name rest := by
  rw [segment?, Option.or_eq_some_iff, quoted?_eq_some_iff, bare?_eq_some_iff]
  constructor
  · rintro (⟨htext, hquoted⟩ | ⟨-, htext, hbare⟩)
    · exact ⟨htext, .inl hquoted⟩
    · exact ⟨htext, .inr hbare⟩
  · rintro ⟨rfl, hquoted | ⟨hbare, hstops⟩⟩
    · exact .inl ⟨rfl, hquoted⟩
    · exact .inr ⟨hbare.quoted?_eq_none rest, rfl, hbare, hstops⟩

/-- Where a name is, one can be read. -/
theorem IsSegment.exists_takesSegment (h : IsSegment name) (rest : List Char) :
    ∃ taken left, name ++ rest = taken ++ left ∧ TakesSegment taken left := by
  rcases h with ⟨hne, hall⟩ | hquoted
  · obtain ⟨htext, htaken, hstops⟩ := span_eq_iff.mp (Eq.refl ((name ++ rest).span isNameChar))
    refine ⟨_, _, htext, .inr ⟨⟨?_, htaken⟩, hstops⟩⟩
    intro hnil
    obtain ⟨c, more, rfl⟩ := List.exists_cons_of_ne_nil hne
    rw [hnil, List.nil_append] at htext
    rw [← htext] at hstops
    have hc := hall c List.mem_cons_self
    rw [hstops c rfl] at hc
    cases hc
  · exact ⟨name, rest, rfl, .inl hquoted⟩

theorem isSome_segment?_iff :
    (segment? text).isSome ↔ ∃ name rest, text = name ++ rest ∧ IsSegment name := by
  rw [Option.isSome_iff_exists]
  constructor
  · rintro ⟨⟨name, rest⟩, h⟩
    obtain ⟨htext, htakes⟩ := segment?_eq_some_iff.mp h
    exact ⟨name, rest, htext, htakes.isSegment⟩
  · rintro ⟨name, rest, rfl, hname⟩
    obtain ⟨taken, left, htext, htakes⟩ := hname.exists_takesSegment rest
    exact ⟨(taken, left), segment?_eq_some_iff.mpr ⟨htext, htakes⟩⟩

/-- A name begins with no white space. -/
theorem IsSegment.stops (h : IsSegment name) (rest : List Char) :
    Stops Text.isSpace (name ++ rest) := by
  rcases h with ⟨hne, hall⟩ | ⟨content, -, -, rfl⟩
  · obtain ⟨c, more, rfl⟩ := List.exists_cons_of_ne_nil hne
    exact stops_cons (isSpace_of_isNameChar (hall c List.mem_cons_self)) _
  · exact stops_cons (by decide) _

/-! ## Qualified names -/

/-- A dot, with any white space around it. -/
def IsDot (dot : List Char) : Prop :=
  ∃ before after, dot = before ++ '.' :: after ∧ (∀ c ∈ before, Text.isSpace c = true) ∧
    ∀ c ∈ after, Text.isSpace c = true

/-- A text that goes on with a dot and a name. -/
def GoesOn (text : List Char) : Prop :=
  ∃ dot name rest, text = dot ++ (name ++ rest) ∧ IsDot dot ∧ IsSegment name

/-- A declared name that is read before the rest of a text: its first part, as far as that goes, and
a second part whenever a dot and a further name follow. -/
inductive Declared : List Char → List Char → Prop
  | alone {name rest : List Char} (hname : TakesSegment name rest) (hrest : ¬GoesOn rest) :
    Declared name rest
  | qualified {first dot second rest : List Char}
    (hfirst : TakesSegment first (dot ++ (second ++ rest))) (hdot : IsDot dot)
    (hsecond : TakesSegment second rest) : Declared (first ++ (dot ++ second)) rest

theorem dotSegment?_eq_some_iff {dotted : List Char} :
    dotSegment? text = some (dotted, rest) ↔ ∃ dot name, dotted = dot ++ name ∧
      text = dot ++ (name ++ rest) ∧ IsDot dot ∧ TakesSegment name rest := by
  constructor
  · intro h
    unfold dotSegment? at h
    cases hspan : text.span Text.isSpace with
    | mk before left =>
      simp only [hspan] at h
      obtain ⟨rfl, hbefore, -⟩ := span_eq_iff.mp hspan
      split at h
      · rename_i more
        cases hmore : more.span Text.isSpace with
        | mk after last =>
          simp only [hmore, Option.map_eq_some_iff, Prod.exists] at h
          obtain ⟨rfl, hafter, -⟩ := span_eq_iff.mp hmore
          obtain ⟨name, tail, hname, hpair⟩ := h
          cases hpair
          obtain ⟨rfl, htakes⟩ := segment?_eq_some_iff.mp hname
          exact ⟨before ++ '.' :: after, name, by simp, by simp,
            ⟨before, after, rfl, hbefore, hafter⟩, htakes⟩
      · cases h
  · rintro ⟨dot, name, rfl, rfl, ⟨before, after, rfl, hbefore, hafter⟩, htakes⟩
    have htext : before ++ '.' :: after ++ (name ++ rest) =
        before ++ '.' :: (after ++ (name ++ rest)) := by simp
    have hspan : (before ++ '.' :: (after ++ (name ++ rest))).span Text.isSpace =
        (before, '.' :: (after ++ (name ++ rest))) :=
      span_eq_iff.mpr ⟨rfl, hbefore, stops_cons (by decide) _⟩
    have hmore : (after ++ (name ++ rest)).span Text.isSpace = (after, name ++ rest) :=
      span_eq_iff.mpr ⟨rfl, hafter, htakes.isSegment.stops rest⟩
    have hname : segment? (name ++ rest) = some (name, rest) :=
      segment?_eq_some_iff.mpr ⟨rfl, htakes⟩
    rw [htext]
    simp only [dotSegment?, hspan, hmore, hname, Option.map_some]
    simp

theorem dotSegment?_eq_none_iff : dotSegment? text = none ↔ ¬GoesOn text := by
  rw [← not_iff_not, not_not, ← ne_eq, Option.ne_none_iff_exists']
  constructor
  · rintro ⟨⟨dotted, rest⟩, h⟩
    obtain ⟨dot, name, -, rfl, hdot, htakes⟩ := dotSegment?_eq_some_iff.mp h
    exact ⟨dot, name, rest, rfl, hdot, htakes.isSegment⟩
  · rintro ⟨dot, name, rest, rfl, hdot, hname⟩
    obtain ⟨taken, left, htext, htakes⟩ := hname.exists_takesSegment rest
    rw [htext]
    exact ⟨(dot ++ taken, left), dotSegment?_eq_some_iff.mpr ⟨dot, taken, rfl, rfl, hdot, htakes⟩⟩

/-- **A declared name is read with all that belongs to it.** -/
theorem declared?_eq_some_iff {declared : List Char} :
    declared? text = some declared ↔ ∃ rest, text = declared ++ rest ∧ Declared declared rest := by
  rw [declared?, Option.map_eq_some_iff]
  constructor
  · rintro ⟨⟨first, more⟩, hfirst, hmatch⟩
    obtain ⟨rfl, htakes⟩ := segment?_eq_some_iff.mp hfirst
    cases hdot : dotSegment? more with
    | none =>
      simp only [hdot] at hmatch
      subst hmatch
      exact ⟨more, rfl, .alone htakes (dotSegment?_eq_none_iff.mp hdot)⟩
    | some found =>
      obtain ⟨dotted, rest⟩ := found
      simp only [hdot] at hmatch
      subst hmatch
      obtain ⟨dot, second, rfl, rfl, hdot, hsecond⟩ := dotSegment?_eq_some_iff.mp hdot
      exact ⟨rest, by simp, .qualified htakes hdot hsecond⟩
  · rintro ⟨rest, rfl, hdeclared⟩
    cases hdeclared with
    | alone hname hrest =>
      refine ⟨(declared, rest), segment?_eq_some_iff.mpr ⟨rfl, hname⟩, ?_⟩
      simp only [dotSegment?_eq_none_iff.mpr hrest]
    | @qualified first dot second _ hfirst hdot hsecond =>
      refine ⟨(first, dot ++ (second ++ rest)), segment?_eq_some_iff.mpr ⟨by simp, hfirst⟩, ?_⟩
      simp only [dotSegment?_eq_some_iff.mpr ⟨dot, second, rfl, rfl, hdot, hsecond⟩]

/-- A declared name begins with a name. -/
theorem Declared.exists_isSegment {declared : List Char} (h : Declared declared rest) :
    ∃ name more, declared ++ rest = name ++ more ∧ IsSegment name := by
  cases h with
  | alone hname hrest => exact ⟨declared, rest, rfl, hname.isSegment⟩
  | @qualified first dot second _ hfirst hdot hsecond =>
    exact ⟨first, dot ++ (second ++ rest), by simp, hfirst.isSegment⟩

/-- Where a name is, a declared name can be read. -/
theorem IsSegment.exists_declared (h : IsSegment name) (rest : List Char) :
    ∃ declared left, name ++ rest = declared ++ left ∧ Declared declared left := by
  have hsome := isSome_segment?_iff.mpr ⟨name, rest, rfl, h⟩
  obtain ⟨found, hfound⟩ := Option.isSome_iff_exists.mp hsome
  have hdeclared : (declared? (name ++ rest)).isSome := by
    rw [declared?, hfound]
    rfl
  obtain ⟨declared, hread⟩ := Option.isSome_iff_exists.mp hdeclared
  obtain ⟨left, htext, h⟩ := declared?_eq_some_iff.mp hread
  exact ⟨declared, left, htext, h⟩

end DmlOutline.ProgramUnit
