import DmlOutline.ProgramUnit
import DmlOutline.Proofs.HeaderParts

/-!
# The grammar of headers

A program unit is read from the first place in a text where its header begins. What counts as a
header is a matter of grammar, and the grammar leaves choices: where a name ends, whether `BODY` is
a word or the name of a package. What is read is settled by preferences, and they are stated here
apart from the reader: a package body goes before a package when a name still follows, a bare name
goes on as far as it can, and a second name is taken when a dot and a name follow.

* `StartsHeader` — the grammar; `WordBoundary` — where a header may begin.
* `FirstHeader` — the first place in a text where one begins.
* `Reads` — the words for the kind and the declared name that are read there.

Principal results: `Header.at?_eq_some_iff`: what is read from a header;
`Header.find?_eq_some_iff`: the first one is taken; `ofText?_reads_firstHeader`.
-/

namespace DmlOutline.ProgramUnit

variable {text rest words declared unit : List Char} {header : Header}

/-! ## The grammar -/

/-- The words for a package body. -/
def IsPackageBody (words : List Char) : Prop :=
  ∃ package blank body, words = package ++ (blank ++ body) ∧ Spells "PACKAGE" package ∧
    Blank blank ∧ Spells "BODY" body

/-- The kinds of units that are named by one word. -/
def singleWords : List String := ["PACKAGE", "PROCEDURE", "FUNCTION", "TRIGGER"]

/-- The words for the kind of a unit. -/
def IsKind (words : List Char) : Prop :=
  IsPackageBody words ∨ ∃ word ∈ singleWords, Spells word words

/-- `OR REPLACE`, with the white space after it. -/
def IsOrReplace (text : List Char) : Prop :=
  ∃ or blank replace after, text = or ++ (blank ++ (replace ++ after)) ∧ Spells "OR" or ∧
    Blank blank ∧ Spells "REPLACE" replace ∧ Blank after

/-- `EDITIONABLE` or `NONEDITIONABLE`, with the white space after it. -/
def IsEditionable (text : List Char) : Prop :=
  ∃ word blank, text = word ++ blank ∧ (Spells "EDITIONABLE" word ∨ Spells "NONEDITIONABLE" word) ∧
    Blank blank

/-- What stands before the kind of a unit. -/
def IsFront (front : List Char) : Prop :=
  ∃ create blank orReplace editionable, front = create ++ (blank ++ (orReplace ++ editionable)) ∧
    Spells "CREATE" create ∧ Blank blank ∧ (orReplace = [] ∨ IsOrReplace orReplace) ∧
    (editionable = [] ∨ IsEditionable editionable)

/-- A text that begins with the header of a unit. -/
def StartsHeader (text : List Char) : Prop :=
  ∃ front words blank name rest, text = front ++ (words ++ (blank ++ (name ++ rest))) ∧
    IsFront front ∧ IsKind words ∧ Blank blank ∧ IsSegment name

/-- A place in a text between a character of a word and something else. -/
def WordBoundary (before after : List Char) : Prop :=
  before.getLast?.any Text.isWordChar ≠ after.head?.any Text.isWordChar

/-- The first place in a text where a header begins. -/
structure FirstHeader (text before after : List Char) : Prop where
  text_eq : text = before ++ after
  boundary : WordBoundary before after
  starts : StartsHeader after
  first : ∀ before' after', text = before' ++ after' → WordBoundary before' after' →
    StartsHeader after' → before.length ≤ before'.length

/-! ## What is read -/

/-- A text that begins with the words for a package body and has a name after them. -/
def FollowsBody (text : List Char) : Prop :=
  ∃ words blank name rest, text = words ++ (blank ++ (name ++ rest)) ∧ IsPackageBody words ∧
    Blank blank ∧ IsSegment name

theorem followsBody_of_declared {blank : List Char}
    (htext : text = words ++ (blank ++ (declared ++ rest))) (hwords : IsPackageBody words)
    (hblank : Blank blank) (hdeclared : Declared declared rest) : FollowsBody text := by
  obtain ⟨name, more, hname, hsegment⟩ := hdeclared.exists_isSegment
  rw [hname] at htext
  exact ⟨words, blank, name, more, htext, hwords, hblank, hsegment⟩

/-- The kind and the declared name that are read from a text that begins with the kind: a package
body exactly when a name follows its words. -/
def ReadsUnit (text words declared : List Char) : Prop :=
  ∃ blank rest, text = words ++ (blank ++ (declared ++ rest)) ∧ IsKind words ∧ Blank blank ∧
    Declared declared rest ∧ (IsPackageBody words ↔ FollowsBody text)

/-- The kind and the declared name that are read from a text that begins with a header. -/
def Reads (text words declared : List Char) : Prop :=
  ∃ front unit, text = front ++ unit ∧ IsFront front ∧ ReadsUnit unit words declared

theorem Reads.isKind (h : Reads text words declared) : IsKind words := by
  obtain ⟨front, unit, -, -, blank, rest, -, hkind, -⟩ := h
  exact hkind

/-- Where there is a header, something is read, and nowhere else. -/
theorem startsHeader_iff : StartsHeader text ↔ ∃ words declared, Reads text words declared := by
  constructor
  · rintro ⟨front, words, blank, name, rest, rfl, hfront, hkind, hblank, hname⟩
    by_cases hbody : FollowsBody (words ++ (blank ++ (name ++ rest)))
    · have hfollows := hbody
      obtain ⟨body, space, second, last, htext, hwords, hspace, hsecond⟩ := hbody
      obtain ⟨declared, left, hleft, hdeclared⟩ := hsecond.exists_declared last
      rw [htext] at hfollows ⊢
      rw [hleft] at hfollows ⊢
      exact ⟨body, declared, front, _, rfl, hfront, space, left, rfl, .inl hwords, hspace,
        hdeclared, fun _ => hfollows, fun _ => hwords⟩
    · obtain ⟨declared, left, hleft, hdeclared⟩ := hname.exists_declared rest
      have hnot : ¬IsPackageBody words := fun hwords =>
        hbody ⟨words, blank, name, rest, rfl, hwords, hblank, hname⟩
      rw [hleft] at hbody ⊢
      exact ⟨words, declared, front, _, rfl, hfront, blank, left, rfl, hkind, hblank, hdeclared,
        fun hwords => absurd hwords hnot, fun hfollows => absurd hfollows hbody⟩
  · rintro ⟨words, declared, front, unit, rfl, hfront, hunit⟩
    obtain ⟨blank, rest, rfl, hkind, hblank, hdeclared, -⟩ := hunit
    obtain ⟨name, more, hname, hsegment⟩ := hdeclared.exists_isSegment
    rw [hname]
    exact ⟨front, words, blank, name, more, rfl, hfront, hkind, hblank, hsegment⟩

/-! ## First letters

The words that may be left out begin with other letters than all that may follow them, so there is
only one way to read what stands before a kind. -/

theorem IsKind.begins (h : IsKind words) (rest : List Char) :
    Begins ['p', 'f', 't'] (words ++ rest) := by
  rcases h with ⟨package, blank, body, rfl, hpackage, -, -⟩ | ⟨word, hword, hspells⟩
  · rw [List.append_assoc]
    exact hpackage.begins rfl (by decide) _
  · have hletters : ∀ word ∈ singleWords,
        ((word.toList.map Char.toLower).head?.any ['p', 'f', 't'].contains) = true := by decide
    obtain ⟨letter, hletter, hmem⟩ := (Option.any_eq_true _ _).mp (hletters word hword)
    exact hspells.begins hletter (List.contains_iff_mem.mp hmem) rest

theorem ReadsUnit.begins (h : ReadsUnit text words declared) : Begins ['p', 'f', 't'] text := by
  obtain ⟨blank, rest, rfl, hkind, -⟩ := h
  exact hkind.begins _

theorem IsEditionable.begins (h : IsEditionable text) : Begins ['e', 'n'] (text ++ rest) := by
  obtain ⟨word, blank, rfl, hword | hword, -⟩ := h <;> rw [List.append_assoc]
  · exact hword.begins rfl (by decide) _
  · exact hword.begins rfl (by decide) _

theorem IsOrReplace.begins (h : IsOrReplace text) : Begins ['o'] (text ++ rest) := by
  obtain ⟨or, blank, replace, after, rfl, hor, -⟩ := h
  rw [List.append_assoc]
  exact hor.begins rfl (by decide) _

/-! ## Reading the kind and the name -/

namespace Header

theorem packageBody?_eq_some_iff :
    packageBody? text = some (words, rest) ↔ text = words ++ rest ∧ IsPackageBody words := by
  simp only [packageBody?, Option.bind_eq_bind, Option.bind_eq_some_iff, Option.some.injEq,
    Prod.exists, Prod.mk.injEq]
  constructor
  · rintro ⟨package, left, hpackage, blank, last, hblank, body, tail, hbody, rfl, rfl⟩
    obtain ⟨rfl, hfirst⟩ := word?_eq_some_iff.mp hpackage
    obtain ⟨rfl, hspace, -⟩ := space?_eq_some_iff.mp hblank
    obtain ⟨rfl, hsecond⟩ := word?_eq_some_iff.mp hbody
    exact ⟨by simp, package, blank, body, by simp, hfirst, hspace, hsecond⟩
  · rintro ⟨rfl, package, blank, body, rfl, hpackage, hblank, hbody⟩
    have hletter : Begins ['b'] (body ++ rest) := hbody.begins rfl (by decide) rest
    have hstops : Stops Text.isSpace (body ++ rest) := hletter.stops (by decide)
    exact ⟨package, blank ++ (body ++ rest), word?_eq_some_iff.mpr ⟨by simp, hpackage⟩,
      blank, body ++ rest, space?_eq_some_iff.mpr ⟨rfl, hblank, hstops⟩,
      body, rest, word?_eq_some_iff.mpr ⟨rfl, hbody⟩, by simp, rfl⟩

/-- The kind that a reader takes, and the declared name after it. -/
def unitAfter (kind? : List Char → Option (List Char × List Char)) (text : List Char) :
    Option Header := do
  let (words, rest) ← kind? text
  let (_, rest) ← space? rest
  let declared ← declared? rest
  some ⟨words, declared⟩

theorem unitAfter_eq_some_iff {kind? : List Char → Option (List Char × List Char)}
    {P : List Char → Prop}
    (hkind : ∀ words rest, kind? text = some (words, rest) ↔ text = words ++ rest ∧ P words) :
    unitAfter kind? text = some header ↔ P header.words ∧ ∃ blank rest,
      text = header.words ++ (blank ++ (header.declared ++ rest)) ∧ Blank blank ∧
      Declared header.declared rest := by
  simp only [unitAfter, Option.bind_eq_bind, Option.bind_eq_some_iff, Option.some.injEq,
    Prod.exists]
  constructor
  · rintro ⟨words, left, hwords, blank, last, hblank, declared, hdeclared, rfl⟩
    obtain ⟨rfl, hP⟩ := (hkind _ _).mp hwords
    obtain ⟨rfl, hspace, -⟩ := space?_eq_some_iff.mp hblank
    obtain ⟨rest, rfl, hname⟩ := declared?_eq_some_iff.mp hdeclared
    exact ⟨hP, blank, rest, rfl, hspace, hname⟩
  · rintro ⟨hwords, blank, rest, htext, hblank, hdeclared⟩
    obtain ⟨name, more, hname, hsegment⟩ := hdeclared.exists_isSegment
    have hstops := hsegment.stops more
    rw [← hname] at hstops
    exact ⟨header.words, blank ++ (header.declared ++ rest), (hkind _ _).mpr ⟨htext, hwords⟩,
      blank, header.declared ++ rest, space?_eq_some_iff.mpr ⟨rfl, hblank, hstops⟩,
      header.declared, declared?_eq_some_iff.mpr ⟨rest, rfl, hdeclared⟩, rfl⟩

theorem unit?_eq (text : List Char) :
    unit? text = (unitAfter packageBody? text).or
      (singleWords.findSome? fun word => unitAfter (word? word) text) := by
  change (packageBody? :: singleWords.map word?).findSome? (unitAfter · text) = _
  rw [List.findSome?_cons, List.findSome?_map]
  cases unitAfter packageBody? text <;> rfl

/-- A text begins with at most one of the words. -/
theorem singleWords_unique {word other : String} (hword : word ∈ singleWords)
    (hother : other ∈ singleWords) (h : word? word text ≠ none) (h' : word? other text ≠ none) :
    word = other := by
  have hstarts : ∀ {word : String}, word? word text ≠ none →
      word.toList.map Char.toLower <+: text.map foldChar := by
    intro word hread
    obtain ⟨⟨front, rest⟩, hread⟩ := Option.ne_none_iff_exists'.mp hread
    obtain ⟨rfl, hspells⟩ := word?_eq_some_iff.mp hread
    rw [← hspells, List.map_append]
    exact List.prefix_append _ _
  have hdistinct : ∀ word ∈ singleWords, ∀ other ∈ singleWords,
      word.toList.map Char.toLower <+: other.toList.map Char.toLower → word = other := by decide
  rcases List.prefix_or_prefix_of_prefix (hstarts h) (hstarts h') with hbegins | hbegins
  · exact hdistinct word hword other hother hbegins
  · exact (hdistinct other hother word hword hbegins).symm

/-- The first of some readers that succeeds is any one that does, when no two of them do. -/
theorem findSome?_eq_some_of_unique {α β : Type} {f : α → Option β} {l : List α} {b : β}
    (hunique : ∀ a ∈ l, ∀ a' ∈ l, f a ≠ none → f a' ≠ none → a = a') :
    l.findSome? f = some b ↔ ∃ a ∈ l, f a = some b := by
  constructor
  · exact List.exists_of_findSome?_eq_some
  · rintro ⟨a, ha, hb⟩
    have hsome : (l.findSome? f).isSome := List.findSome?_isSome_iff.mpr ⟨a, ha, by rw [hb]; rfl⟩
    obtain ⟨other, hother⟩ := Option.isSome_iff_exists.mp hsome
    obtain ⟨a', ha', hb'⟩ := List.exists_of_findSome?_eq_some hother
    obtain rfl := hunique a ha a' ha' (by simp [hb]) (by simp [hb'])
    rw [hother, ← hb', hb]

theorem unitAfter_packageBody?_eq_none_iff :
    unitAfter packageBody? text = none ↔ ¬FollowsBody text := by
  have hsome : ∀ header, unitAfter packageBody? text = some header ↔ _ := fun header =>
    unitAfter_eq_some_iff fun _ _ => packageBody?_eq_some_iff
  rw [← not_iff_not, not_not, ← ne_eq, Option.ne_none_iff_exists']
  constructor
  · rintro ⟨header, h⟩
    obtain ⟨hwords, blank, rest, htext, hblank, hdeclared⟩ := (hsome header).mp h
    exact followsBody_of_declared htext hwords hblank hdeclared
  · rintro ⟨words, blank, name, rest, htext, hwords, hblank, hsegment⟩
    obtain ⟨declared, left, hleft, hdeclared⟩ := hsegment.exists_declared rest
    rw [hleft] at htext
    exact ⟨⟨words, declared⟩, (hsome _).mpr ⟨hwords, blank, left, htext, hblank, hdeclared⟩⟩

/-- **The kind and the name are read by preference.** -/
theorem unit?_eq_some_iff :
    unit? text = some header ↔ ReadsUnit text header.words header.declared := by
  have hbody : unitAfter packageBody? text = some header ↔ _ :=
    unitAfter_eq_some_iff fun _ _ => packageBody?_eq_some_iff
  have hsingle : ∀ word, unitAfter (word? word) text = some header ↔ _ := fun word =>
    unitAfter_eq_some_iff fun _ _ => word?_eq_some_iff
  have hunique : ∀ word ∈ singleWords, ∀ other ∈ singleWords,
      unitAfter (word? word) text ≠ none → unitAfter (word? other) text ≠ none → word = other := by
    intro word hword other hother h h'
    refine @singleWords_unique text _ _ hword hother ?_ ?_
    · intro hnone
      exact h (by rw [unitAfter, hnone]; rfl)
    · intro hnone
      exact h' (by rw [unitAfter, hnone]; rfl)
  rw [unit?_eq, Option.or_eq_some_iff, findSome?_eq_some_of_unique hunique, hbody,
    unitAfter_packageBody?_eq_none_iff]
  constructor
  · rintro (⟨hwords, blank, rest, htext, hblank, hdeclared⟩ | ⟨hnot, word, hword, hread⟩)
    · have hfollows := followsBody_of_declared htext hwords hblank hdeclared
      exact ⟨blank, rest, htext, .inl hwords, hblank, hdeclared, fun _ => hfollows, fun _ => hwords⟩
    · obtain ⟨hspells, blank, rest, htext, hblank, hdeclared⟩ := (hsingle word).mp hread
      exact ⟨blank, rest, htext, .inr ⟨word, hword, hspells⟩, hblank, hdeclared,
        fun hwords => followsBody_of_declared htext hwords hblank hdeclared,
        fun hfollows => absurd hfollows hnot⟩
  · rintro ⟨blank, rest, htext, hkind, hblank, hdeclared, hprefer⟩
    by_cases hwords : IsPackageBody header.words
    · exact .inl ⟨hwords, blank, rest, htext, hblank, hdeclared⟩
    · rcases hkind with hkind | ⟨word, hword, hspells⟩
      · exact absurd hkind hwords
      · exact .inr ⟨fun hfollows => hwords (hprefer.mpr hfollows), word, hword,
          (hsingle word).mpr ⟨hspells, blank, rest, htext, hblank, hdeclared⟩⟩

/-! ## Reading what stands before -/

theorem orReplace?_eq_some_iff :
    orReplace? text = some rest ↔
      ∃ taken, text = taken ++ rest ∧ IsOrReplace taken ∧ Stops Text.isSpace rest := by
  rw [orReplace?, Option.bind_eq_some_iff]
  constructor
  · rintro ⟨left, hor, hreplace⟩
    obtain ⟨or, blank, rfl, hfirst, hblank, -⟩ := afterWord?_eq_some_iff.mp hor
    obtain ⟨replace, after, rfl, hsecond, hafter, hstops⟩ := afterWord?_eq_some_iff.mp hreplace
    exact ⟨or ++ (blank ++ (replace ++ after)), by simp,
      ⟨or, blank, replace, after, rfl, hfirst, hblank, hsecond, hafter⟩, hstops⟩
  · rintro ⟨taken, rfl, ⟨or, blank, replace, after, rfl, hor, hblank, hreplace, hafter⟩, hstops⟩
    have hbegins : Begins ['r'] (replace ++ (after ++ rest)) := hreplace.begins rfl (by decide) _
    have hletter : Stops Text.isSpace (replace ++ (after ++ rest)) := hbegins.stops (by decide)
    exact ⟨replace ++ (after ++ rest),
      afterWord?_eq_some_iff.mpr ⟨or, blank, by simp, hor, hblank, hletter⟩,
      afterWord?_eq_some_iff.mpr ⟨replace, after, rfl, hreplace, hafter, hstops⟩⟩

theorem editionable?_eq_some_iff :
    editionable? text = some rest ↔
      ∃ taken, text = taken ++ rest ∧ IsEditionable taken ∧ Stops Text.isSpace rest := by
  rw [editionable?, Option.or_eq_some_iff]
  constructor
  · rintro (hread | ⟨-, hread⟩) <;>
      obtain ⟨word, blank, rfl, hword, hblank, hstops⟩ := afterWord?_eq_some_iff.mp hread
    · exact ⟨word ++ blank, by simp, ⟨word, blank, rfl, .inl hword, hblank⟩, hstops⟩
    · exact ⟨word ++ blank, by simp, ⟨word, blank, rfl, .inr hword, hblank⟩, hstops⟩
  · rintro ⟨taken, rfl, ⟨word, blank, rfl, hword | hword, hblank⟩, hstops⟩
    · exact .inl (afterWord?_eq_some_iff.mpr ⟨word, blank, by simp, hword, hblank, hstops⟩)
    · have hletter : Begins ['n'] (word ++ blank ++ rest) := by
        rw [List.append_assoc]
        exact hword.begins rfl (by decide) _
      exact .inr ⟨afterWord?_eq_none hletter rfl (by decide),
        afterWord?_eq_some_iff.mpr ⟨word, blank, by simp, hword, hblank, hstops⟩⟩

section Skip

variable {read : List Char → Option (List Char)} {P : List Char → Prop} {taken : List Char}
  (hread : ∀ {text rest}, read text = some rest ↔
    ∃ taken, text = taken ++ rest ∧ P taken ∧ Stops Text.isSpace rest)

include hread

/-- What follows the words that are skipped, whether they are there or not. -/
theorem exists_of_skip (text : List Char) :
    ∃ taken, text = taken ++ skip read text ∧ (taken = [] ∨ P taken) := by
  unfold skip
  cases h : read text with
  | none => exact ⟨[], rfl, .inl rfl⟩
  | some rest =>
    obtain ⟨taken, htext, htaken, -⟩ := hread.mp h
    exact ⟨taken, htext, .inr htaken⟩

/-- Words that may be left out are skipped, where what follows them is not read as they are. -/
theorem skip_append (hnone : read rest = none) (hstops : Stops Text.isSpace rest)
    (htaken : taken = [] ∨ P taken) : skip read (taken ++ rest) = rest := by
  unfold skip
  rcases htaken with rfl | htaken
  · rw [List.nil_append, hnone, Option.getD_none]
  · rw [hread.mpr ⟨taken, rfl, htaken, hstops⟩, Option.getD_some]

end Skip

/-- **From a header its kind and its name are read.** -/
theorem at?_eq_some_iff : at? text = some header ↔ Reads text header.words header.declared := by
  rw [at?, Option.bind_eq_some_iff]
  constructor
  · rintro ⟨left, hcreate, hunit⟩
    obtain ⟨create, blank, rfl, hcreates, hblank, -⟩ := afterWord?_eq_some_iff.mp hcreate
    obtain ⟨orReplace, hor, hskipped⟩ := exists_of_skip orReplace?_eq_some_iff left
    obtain ⟨editionable, heditionable, hpassed⟩ :=
      exists_of_skip editionable?_eq_some_iff (skip orReplace? left)
    refine ⟨create ++ (blank ++ (orReplace ++ editionable)), _, ?_,
      ⟨create, blank, orReplace, editionable, rfl, hcreates, hblank, hskipped, hpassed⟩,
      unit?_eq_some_iff.mp hunit⟩
    conv_lhs => rw [hor, heditionable]
    simp
  · rintro ⟨front, unit, rfl, ⟨create, blank, orReplace, editionable, rfl, hcreates, hblank,
      hskipped, hpassed⟩, hunit⟩
    -- the words that may be left out begin with other letters than what follows them
    have hletters := hunit.begins
    have hpast : Begins ['e', 'n', 'p', 'f', 't'] (editionable ++ unit) := by
      rcases hpassed with rfl | hword
      · exact hletters.mono (by decide)
      · exact hword.begins.mono (by decide)
    have hleft : Begins ['o', 'e', 'n', 'p', 'f', 't'] (orReplace ++ (editionable ++ unit)) := by
      rcases hskipped with rfl | hword
      · exact hpast.mono (by decide)
      · exact hword.begins.mono (by decide)
    have hor : skip orReplace? (orReplace ++ (editionable ++ unit)) = editionable ++ unit := by
      refine skip_append orReplace?_eq_some_iff ?_ (hpast.stops (by decide)) hskipped
      rw [orReplace?, afterWord?_eq_none hpast rfl (by decide), Option.bind_none]
    have heditionable : skip editionable? (editionable ++ unit) = unit := by
      refine skip_append editionable?_eq_some_iff ?_ (hletters.stops (by decide)) hpassed
      rw [editionable?, afterWord?_eq_none hletters rfl (by decide),
        afterWord?_eq_none hletters rfl (by decide), Option.none_or]
    refine ⟨orReplace ++ (editionable ++ unit), ?_, ?_⟩
    · exact afterWord?_eq_some_iff.mpr
        ⟨create, blank, by simp, hcreates, hblank, hleft.stops (by decide)⟩
    · rw [hor, heditionable]
      exact unit?_eq_some_iff.mpr hunit

/-! ## The first header -/

/-- A place that no character of a word stands before, given the one before the text. -/
def Opens (before : Option Char) (front : List Char) : Prop :=
  (front.getLast?.or before).any Text.isWordChar = false

theorem opens_cons {before : Option Char} {c : Char} {front : List Char} :
    Opens before (c :: front) ↔ Opens (some c) front := by
  unfold Opens
  cases front with
  | nil => rfl
  | cons d rest => rw [List.getLast?_cons_cons, List.getLast?_cons]; rfl

/-- What is read at the first character of a text. -/
theorem find?_cons (before : Option Char) (c : Char) (rest : List Char) :
    find? before (c :: rest) =
      (if before.any Text.isWordChar then none else at? (c :: rest)).or (find? (some c) rest) := rfl

theorem at?_of_here {before : Option Char}
    (h : (if before.any Text.isWordChar then none else at? text) = some header) :
    Opens before [] ∧ at? text = some header := by
  unfold Opens
  cases hbefore : before.any Text.isWordChar with
  | true => rw [hbefore] at h; cases h
  | false => rw [hbefore] at h; exact ⟨hbefore, h⟩

/-- **The first header in a text is read.** -/
theorem find?_eq_some_iff {before : Option Char} :
    find? before text = some header ↔ ∃ front back, text = front ++ back ∧ Opens before front ∧
      at? back = some header ∧ ∀ front' back', text = front' ++ back' → Opens before front' →
        front'.length < front.length → at? back' = none := by
  induction text generalizing before with
  | nil =>
    constructor
    · intro h
      cases h
    · rintro ⟨front, back, htext, -, hread, -⟩
      obtain ⟨rfl, rfl⟩ := List.append_eq_nil_iff.mp htext.symm
      cases hread
  | cons c rest ih =>
    rw [find?_cons, Option.or_eq_some_iff]
    constructor
    · rintro (hhere | ⟨hnone, hrest⟩)
      · obtain ⟨hopens, hread⟩ := at?_of_here hhere
        refine ⟨[], c :: rest, rfl, hopens, hread, ?_⟩
        intro front' back' _ _ hlength
        exact absurd hlength (Nat.not_lt_zero _)
      · obtain ⟨front, back, rfl, hopens, hread, hfirst⟩ := ih.mp hrest
        refine ⟨c :: front, back, rfl, opens_cons.mpr hopens, hread, ?_⟩
        intro front' back' htext hopens' hlength
        cases front' with
        | nil =>
          obtain rfl : c :: (front ++ back) = back' := htext
          rw [Opens, List.getLast?_nil, Option.none_or] at hopens'
          rw [hopens'] at hnone
          exact hnone
        | cons d front' =>
          obtain ⟨rfl, htail⟩ := List.cons.inj htext
          exact hfirst front' back' htail (opens_cons.mp hopens') (Nat.lt_of_succ_lt_succ hlength)
    · rintro ⟨front, back, htext, hopens, hread, hfirst⟩
      cases front with
      | nil =>
        obtain rfl : c :: rest = back := htext
        rw [Opens, List.getLast?_nil, Option.none_or] at hopens
        exact .inl (by rw [hopens]; exact hread)
      | cons d front =>
        rw [List.cons_append, List.cons.injEq] at htext
        obtain ⟨rfl, rfl⟩ := htext
        refine .inr ⟨?_, ih.mpr ⟨front, back, rfl, opens_cons.mp hopens, hread, ?_⟩⟩
        · cases hhere :
            (if before.any Text.isWordChar then none else at? (c :: (front ++ back))) with
          | none => rfl
          | some other =>
            obtain ⟨hopens', hread'⟩ := at?_of_here hhere
            have hnone := hfirst [] _ rfl hopens' (Nat.succ_pos _)
            rw [hread'] at hnone
            cases hnone
        · intro front' back' hrest hopens' hlength
          exact hfirst (c :: front') back' (by rw [hrest]; rfl) (opens_cons.mpr hopens')
            (Nat.succ_lt_succ hlength)

end Header

/-! ## Word boundaries -/

/-- The letter of a header's first word belongs to words, in either case. -/
theorem isWordChar_of_foldChar {c : Char} (h : foldChar c = 'c') : Text.isWordChar c = true := by
  have hlower : c.toLower = 'c' := by
    unfold foldChar at h
    split at h
    · cases h
    · split at h
      · cases h
      · exact h
  have hlt : c.toNat < 128 := toNat_lt_of_toLower (by rw [hlower]; decide)
  have hascii : ∀ n < 128, (Char.ofNat n).toLower = 'c' →
      Text.isWordChar (Char.ofNat n) = true := by decide
  have hc := hascii c.toNat hlt
  rw [Char.ofNat_toNat] at hc
  exact hc hlower

theorem StartsHeader.begins (h : StartsHeader text) : Begins ['c'] text := by
  obtain ⟨front, words, blank, name, rest, rfl, hfront, -⟩ := h
  obtain ⟨create, space, orReplace, editionable, rfl, hcreate, -⟩ := hfront
  rw [List.append_assoc]
  exact hcreate.begins rfl (by decide) _

/-- A header begins a word exactly where no character of a word stands before it. -/
theorem wordBoundary_iff {before after : List Char} (h : StartsHeader after) :
    WordBoundary before after ↔ Header.Opens none before := by
  obtain ⟨c, hc, hfirst⟩ := h.begins
  have hword : after.head?.any Text.isWordChar = true := by
    rw [hc]
    exact isWordChar_of_foldChar (List.mem_singleton.mp hfirst)
  rw [WordBoundary, Header.Opens, hword, Option.or_none, ne_eq, Bool.not_eq_true]

theorem at?_ne_none_iff : Header.at? text ≠ none ↔ StartsHeader text := by
  rw [startsHeader_iff, Option.ne_none_iff_exists']
  constructor
  · rintro ⟨header, h⟩
    exact ⟨header.words, header.declared, Header.at?_eq_some_iff.mp h⟩
  · rintro ⟨words, declared, h⟩
    exact ⟨⟨words, declared⟩, Header.at?_eq_some_iff.mpr h⟩

/-- **The kind and the name are read from the first header.** -/
theorem find?_eq_some_iff :
    Header.find? none text = some header ↔ ∃ before after, FirstHeader text before after ∧
      Reads after header.words header.declared := by
  rw [Header.find?_eq_some_iff]
  constructor
  · rintro ⟨before, after, rfl, hopens, hread, hfirst⟩
    have hstarts : StartsHeader after :=
      at?_ne_none_iff.mp (by rw [hread]; exact Option.some_ne_none _)
    refine ⟨before, after, ⟨rfl, (wordBoundary_iff hstarts).mpr hopens, hstarts, ?_⟩,
      Header.at?_eq_some_iff.mp hread⟩
    intro before' after' htext hboundary' hstarts'
    by_contra hlength
    have hnone := hfirst before' after' htext ((wordBoundary_iff hstarts').mp hboundary')
      (Nat.lt_of_not_le hlength)
    exact at?_ne_none_iff.mpr hstarts' hnone
  · rintro ⟨before, after, ⟨rfl, hboundary, hstarts, hfirst⟩, hreads⟩
    refine ⟨before, after, rfl, (wordBoundary_iff hstarts).mp hboundary,
      Header.at?_eq_some_iff.mpr hreads, ?_⟩
    intro before' after' htext hopens' hlength
    by_contra hsome
    have hstarts' := at?_ne_none_iff.mp hsome
    have hle := hfirst before' after' htext ((wordBoundary_iff hstarts').mpr hopens') hstarts'
    omega

/-- Where headers begin in a text, there is a first one. -/
theorem exists_firstHeader {before after : List Char} (htext : text = before ++ after)
    (hboundary : WordBoundary before after) (hstarts : StartsHeader after) :
    ∃ before after, FirstHeader text before after := by
  induction hlength : before.length using Nat.strong_induction_on generalizing before after with
  | h length ih =>
    by_cases hfirst : ∀ before' after', text = before' ++ after' → WordBoundary before' after' →
        StartsHeader after' → before.length ≤ before'.length
    · exact ⟨before, after, htext, hboundary, hstarts, hfirst⟩
    · push Not at hfirst
      obtain ⟨before', after', htext', hboundary', hstarts', hless⟩ := hfirst
      exact ih _ (hlength ▸ hless) htext' hboundary' hstarts' rfl

/-- The unit of a text is the one that its first header declares. -/
theorem ofText?_eq_some_iff {text : String} {unit : ProgramUnit} :
    ofText? text = some unit ↔ ∃ before after words declared,
      FirstHeader text.toList before after ∧ Reads after words declared ∧
      unit = ⟨UnitKind.ofWords words, (qualified declared).1, (qualified declared).2⟩ := by
  rw [ofText?, Option.map_eq_some_iff]
  constructor
  · rintro ⟨header, hfind, rfl⟩
    obtain ⟨before, after, hfirst, hreads⟩ := find?_eq_some_iff.mp hfind
    exact ⟨before, after, header.words, header.declared, hfirst, hreads, rfl⟩
  · rintro ⟨before, after, words, declared, hfirst, hreads, rfl⟩
    exact ⟨⟨words, declared⟩, find?_eq_some_iff.mpr ⟨before, after, hfirst, hreads⟩, rfl⟩

/-- **A unit is read exactly from the texts that have a header, and from the first one in them.** -/
theorem ofText?_reads_firstHeader (text : String) :
    ((ofText? text).isSome ↔ ∃ before after, text.toList = before ++ after ∧
      WordBoundary before after ∧ StartsHeader after) ∧
    ∀ unit, ofText? text = some unit ↔ ∃ before after words declared,
      FirstHeader text.toList before after ∧ Reads after words declared ∧
      unit = ⟨UnitKind.ofWords words, (qualified declared).1, (qualified declared).2⟩ := by
  refine ⟨?_, fun unit => ofText?_eq_some_iff⟩
  rw [Option.isSome_iff_exists]
  constructor
  · rintro ⟨unit, h⟩
    obtain ⟨before, after, words, declared, hfirst, -⟩ := ofText?_eq_some_iff.mp h
    exact ⟨before, after, hfirst.text_eq, hfirst.boundary, hfirst.starts⟩
  · rintro ⟨before, after, htext, hboundary, hstarts⟩
    obtain ⟨before, after, hfirst⟩ := exists_firstHeader htext hboundary hstarts
    obtain ⟨words, declared, hreads⟩ := startsHeader_iff.mp hfirst.starts
    exact ⟨_, ofText?_eq_some_iff.mpr ⟨before, after, words, declared, hfirst, hreads, rfl⟩⟩

/-- `BODY` is a word when a name follows it, and a name when none does. -/
example :
    ofText? "CREATE PACKAGE BODY IS" = some ⟨.packageBody, none, "IS"⟩ ∧
      ofText? "CREATE PACKAGE BODY" = some ⟨.package, none, "BODY"⟩ ∧
      ofText? "CREATE PACKAGE BODYGUARD IS" = some ⟨.package, none, "BODYGUARD"⟩ := by
  decide +kernel

end DmlOutline.ProgramUnit
