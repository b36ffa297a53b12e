import DmlOutline.Proofs.HeaderGrammar

/-!
# The parts of a declared name

A declared name is written as one or two segments, bare or in quotes. They are told apart by the
last dot of the text without its quotes, and white space next to a dot is dropped, also where dot
and space stood inside quotes. So a segment survives exactly when that does not touch it.

* `Content` — what a segment holds; `Names` — the contents of a declared name.
* `DotsTight` — a text with no white space next to its dots.

Principal results: `trimBefore_split_iff`: what trimming leaves alone; `qualified_eq_iff`,
`ofText?_keeps_segments`: when the contents are what is read.
-/

namespace DmlOutline.ProgramUnit

variable {text front back before after part name : List Char} {c : Char}

/-! ## White space at the ends of a text -/

theorem Stops.of_front {test : Char → Bool} (h : Stops test text) (hfront : front <+: text) :
    Stops test front := by
  obtain ⟨back, rfl⟩ := hfront
  intro c hc
  refine h c ?_
  rw [List.head?_append, hc]
  rfl

theorem trimStart_eq_self (h : Stops Text.isSpace text) : trimStart text = text := by
  cases text with
  | nil => rfl
  | cons c rest =>
    rw [trimStart, List.dropWhile_cons_of_neg (by rw [h c rfl]; exact Bool.false_ne_true)]

theorem trimStart_append (hblank : ∀ c ∈ before, Text.isSpace c = true) (text : List Char) :
    trimStart (before ++ text) = trimStart text :=
  List.dropWhile_append_of_pos hblank

theorem stops_trimStart (text : List Char) : Stops Text.isSpace (trimStart text) :=
  (span_eq_iff.mp (List.span_eq_takeWhile_dropWhile _ text)).2.2

theorem trimStart_suffix (text : List Char) : trimStart text <:+ text :=
  List.dropWhile_suffix _

theorem trimEnd_eq_reverse (text : List Char) :
    trimEnd text = (trimStart text.reverse).reverse := rfl

theorem trimEnd_front (text : List Char) : trimEnd text <+: text := by
  rw [trimEnd_eq_reverse, ← List.reverse_suffix, List.reverse_reverse]
  exact trimStart_suffix text.reverse

theorem trimEnd_append (hblank : ∀ c ∈ after, Text.isSpace c = true) (text : List Char) :
    trimEnd (text ++ after) = trimEnd text := by
  rw [trimEnd_eq_reverse, List.reverse_append, trimStart_append, ← trimEnd_eq_reverse]
  intro c hc
  exact hblank c (List.mem_reverse.mp hc)

/-- **White space is dropped at the end exactly of the texts that end with it.** -/
theorem trimEnd_append_eq_iff (hblank : ∀ c ∈ after, Text.isSpace c = true) :
    trimEnd (part ++ after) = part ↔ Stops Text.isSpace part.reverse := by
  rw [trimEnd_append hblank, trimEnd_eq_reverse]
  constructor
  · intro h
    rw [← h, List.reverse_reverse]
    exact stops_trimStart part.reverse
  · intro h
    rw [trimStart_eq_self h, List.reverse_reverse]

/-- White space is dropped at both ends exactly of the texts that begin or end with it. -/
theorem trim_append_eq_iff (hblank : ∀ c ∈ after, Text.isSpace c = true) :
    trimEnd (trimStart (part ++ after)) = part ↔
      Stops Text.isSpace part ∧ Stops Text.isSpace part.reverse := by
  constructor
  · intro h
    have hpart := (stops_trimStart (part ++ after)).of_front (trimEnd_front _)
    rw [h] at hpart
    refine ⟨hpart, ?_⟩
    rw [← h, trimEnd_eq_reverse, List.reverse_reverse]
    exact stops_trimStart _
  · rintro ⟨hbegin, hend⟩
    cases part with
    | nil =>
      have hnil : trimStart (after ++ []) = [] := trimStart_append hblank []
      rw [List.append_nil] at hnil
      rw [List.nil_append, hnil]
      rfl
    | cons c rest =>
      have hstops : Stops Text.isSpace (c :: rest ++ after) := stops_cons (hbegin c rfl) _
      rw [trimStart_eq_self hstops]
      exact (trimEnd_append_eq_iff hblank).mpr hend

/-! ## Dots -/

/-- A text with no white space next to its dots. -/
def DotsTight (text : List Char) : Prop :=
  ∀ front back, text = front ++ '.' :: back →
    Stops Text.isSpace front.reverse ∧ Stops Text.isSpace back

theorem dotsTight_of_notMem (h : '.' ∉ text) : DotsTight text := by
  rintro front back rfl
  simp at h

theorem stops_append_dot (front back : List Char) :
    Stops Text.isSpace (front ++ '.' :: back) ↔ Stops Text.isSpace front := by
  cases front with
  | nil => exact ⟨fun _ => stops_nil _, fun _ => stops_cons (by decide) back⟩
  | cons c rest => exact Iff.rfl

theorem stops_reverse_append_dot (front back : List Char) :
    Stops Text.isSpace (front ++ '.' :: back).reverse ↔ Stops Text.isSpace back.reverse := by
  rw [List.reverse_append, List.reverse_cons, List.append_assoc, List.singleton_append,
    stops_append_dot]

/-- The first dot of a text, and the dots after it. -/
theorem dotsTight_append_dot (h : '.' ∉ front) :
    DotsTight (front ++ '.' :: back) ↔
      Stops Text.isSpace front.reverse ∧ Stops Text.isSpace back ∧ DotsTight back := by
  constructor
  · intro htight
    obtain ⟨hfront, hback⟩ := htight front back rfl
    refine ⟨hfront, hback, ?_⟩
    rintro middle last rfl
    obtain ⟨hmiddle, hlast⟩ := htight (front ++ '.' :: middle) last (by simp)
    exact ⟨(stops_reverse_append_dot front middle).mp hmiddle, hlast⟩
  · rintro ⟨hfront, hback, htight⟩ first last htext
    rcases List.append_eq_append_iff.mp htext with ⟨middle, rfl, hmiddle⟩ | ⟨middle, rfl, hmiddle⟩
    · cases middle with
      | nil =>
        obtain ⟨-, rfl⟩ := List.cons.inj hmiddle
        rw [List.append_nil]
        exact ⟨hfront, hback⟩
      | cons c middle =>
        obtain ⟨rfl, rfl⟩ := List.cons.inj hmiddle
        obtain ⟨hbefore, hafter⟩ := htight middle last rfl
        exact ⟨(stops_reverse_append_dot front middle).mpr hbefore, hafter⟩
    · cases middle with
      | nil =>
        obtain ⟨-, rfl⟩ := List.cons.inj hmiddle
        rw [List.append_nil] at hfront
        exact ⟨hfront, hback⟩
      | cons c middle =>
        obtain ⟨rfl, -⟩ := List.cons.inj hmiddle
        simp at h

/-- What holds of the texts without dots, and of a text with one more dot before it, holds of every
text. -/
theorem dots_induction {P : List Char → Prop} (hplain : ∀ text, '.' ∉ text → P text)
    (hdot : ∀ front back, '.' ∉ front → P back → P (front ++ '.' :: back)) (text : List Char) :
    P text := by
  induction hlength : text.length using Nat.strong_induction_on generalizing text with
  | h length ih =>
    by_cases hmem : '.' ∈ text
    · obtain ⟨front, back, rfl, hfront⟩ := List.eq_append_cons_of_mem hmem
      refine hdot front back hfront (ih back.length ?_ back rfl)
      rw [← hlength, List.length_append, List.length_cons]
      omega
    · exact hplain text hmem

/-! ## Trimming at the dots -/

/-- Parts that a dot stands after, and before all but the first, without white space at the dots. -/
def trimBefore : List (List Char) → List (List Char)
  | [] => []
  | first :: rest => trimEnd first :: rest.map fun part => trimEnd (trimStart part)

theorem trimRest_concat (parts : List (List Char)) (last : List Char) :
    trimAtDots.trimRest (parts ++ [last]) =
      parts.map (fun part => trimEnd (trimStart part)) ++ [trimStart last] := by
  induction parts with
  | nil => rfl
  | cons part rest ih =>
    rw [List.map_cons, List.cons_append, List.cons_append, ← ih]
    cases rest <;> rfl

/-- Of some parts, the last one is trimmed at its beginning only. -/
theorem trimAtDots_concat {parts : List (List Char)} (h : parts ≠ []) (last : List Char) :
    trimAtDots (parts ++ [last]) = trimBefore parts ++ [trimStart last] := by
  cases parts with
  | nil => exact absurd rfl h
  | cons part rest =>
    rw [trimBefore, List.cons_append, List.cons_append, ← trimRest_concat]
    cases rest <;> rfl

theorem dot_notMem_blank (hblank : ∀ c ∈ before, Text.isSpace c = true) : '.' ∉ before :=
  notMem_of_forall hblank (by decide)

theorem split_plain_append (h : '.' ∉ text) (hblank : ∀ c ∈ before, Text.isSpace c = true) :
    Text.split '.' (text ++ before) = [text ++ before] := by
  refine Text.split_of_not_mem ?_
  rw [List.mem_append, not_or]
  exact ⟨h, dot_notMem_blank hblank⟩

theorem split_dot_append (h : '.' ∉ front) (back before : List Char) :
    Text.split '.' (front ++ '.' :: back ++ before) = front :: Text.split '.' (back ++ before) := by
  rw [List.append_assoc, List.cons_append, Text.split_append_cons, Text.split_of_not_mem h,
    List.singleton_append]

/-- The parts of a text are trimmed for nothing exactly when there is no white space next to its
dots and at its ends. -/
theorem map_trim_split_iff (hblank : ∀ c ∈ before, Text.isSpace c = true) (text : List Char) :
    (Text.split '.' (text ++ before)).map (fun part => trimEnd (trimStart part)) =
        Text.split '.' text ↔
      Stops Text.isSpace text ∧ Stops Text.isSpace text.reverse ∧ DotsTight text := by
  induction text using dots_induction with
  | hplain text h =>
    rw [split_plain_append h hblank, Text.split_of_not_mem h, List.map_singleton, List.cons.injEq,
      trim_append_eq_iff hblank]
    simp [dotsTight_of_notMem h]
  | hdot front back h ih =>
    have hfront : trimEnd (trimStart (front ++ [])) = front ↔ _ := trim_append_eq_iff (by simp)
    rw [List.append_nil] at hfront
    rw [split_dot_append h, Text.split_append_cons, Text.split_of_not_mem h, List.map_cons,
      List.singleton_append, List.cons.injEq, hfront, ih, stops_append_dot,
      stops_reverse_append_dot, dotsTight_append_dot h]
    tauto

/-- **Before the last dot, trimming leaves a text alone exactly when there is no white space next to
its dots.** -/
theorem trimBefore_split_iff (hblank : ∀ c ∈ before, Text.isSpace c = true)
    (hend : Stops Text.isSpace text.reverse) :
    trimBefore (Text.split '.' (text ++ before)) = Text.split '.' text ↔ DotsTight text := by
  by_cases hmem : '.' ∈ text
  · obtain ⟨front, back, rfl, h⟩ := List.eq_append_cons_of_mem hmem
    rw [stops_reverse_append_dot] at hend
    have hfront : trimEnd (front ++ []) = front ↔ _ := trimEnd_append_eq_iff (by simp)
    rw [List.append_nil] at hfront
    rw [split_dot_append h, Text.split_append_cons, Text.split_of_not_mem h, trimBefore,
      List.singleton_append, List.cons.injEq, hfront, map_trim_split_iff hblank,
      dotsTight_append_dot h]
    tauto
  · rw [split_plain_append hmem hblank, Text.split_of_not_mem hmem, trimBefore, List.map_nil,
      List.cons.injEq, trimEnd_append_eq_iff hblank]
    simp [dotsTight_of_notMem hmem, hend]

theorem dot_notMem_trimBefore {parts : List (List Char)} (h : ∀ part ∈ parts, '.' ∉ part) :
    ∀ part ∈ trimBefore parts, '.' ∉ part := by
  have htrim : ∀ part ∈ parts, '.' ∉ trimEnd (trimStart part) := fun part hpart hmem =>
    h part hpart ((trimStart_suffix part).subset ((trimEnd_front _).subset hmem))
  cases parts with
  | nil => exact h
  | cons first rest =>
    intro part hpart
    rcases List.mem_cons.mp hpart with rfl | hpart
    · exact fun hmem => h first List.mem_cons_self ((trimEnd_front first).subset hmem)
    · obtain ⟨other, hother, rfl⟩ := List.mem_map.mp hpart
      exact htrim other (List.mem_cons_of_mem _ hother)

/-! ## What is read from a declared name -/

theorem qualified_plain {declared : List Char} (hflat : declared.filter (· ≠ '"') = name)
    (h : '.' ∉ name) : qualified declared = (none, String.ofList name) := by
  simp only [qualified, hflat, Text.split_of_not_mem h, trimAtDots]
  rfl

theorem qualified_dot {declared schema : List Char}
    (hflat : declared.filter (· ≠ '"') = schema ++ (before ++ '.' :: (after ++ name)))
    (hafter : ∀ c ∈ after, Text.isSpace c = true) (h : '.' ∉ name)
    (hname : Stops Text.isSpace name) :
    qualified declared =
      (some (String.ofList (Text.joinWith '.' (trimBefore (Text.split '.' (schema ++ before))))),
        String.ofList name) := by
  have hlast : '.' ∉ after ++ name := by
    rw [List.mem_append, not_or]
    exact ⟨dot_notMem_blank hafter, h⟩
  have hparts : trimAtDots (Text.split '.' (declared.filter (· ≠ '"'))) =
      trimBefore (Text.split '.' (schema ++ before)) ++ [name] := by
    rw [hflat, ← List.append_assoc, Text.split_append_cons, Text.split_of_not_mem hlast,
      trimAtDots_concat (Text.split_ne_nil _ _), trimStart_append hafter, trimStart_eq_self hname]
  obtain ⟨first, rest, hfront⟩ :=
    List.exists_cons_of_ne_nil (Text.split_ne_nil '.' (schema ++ before))
  simp only [qualified, hparts, hfront, trimBefore, List.getLast?_concat, List.dropLast_concat,
    Option.getD_some]

/-- **A name that was read has no dot.** -/
theorem dot_notMem_qualified (declared : List Char) : '.' ∉ (qualified declared).2.toList := by
  have hparts : ∀ part ∈ Text.split '.' (declared.filter (· ≠ '"')), '.' ∉ part :=
    fun part hpart => Text.not_mem_of_mem_split hpart
  have hname : (qualified declared).2.toList =
      (trimAtDots (Text.split '.' (declared.filter (· ≠ '"')))).getLast?.getD [] := by
    simp only [qualified]
    split <;> exact String.toList_ofList
  rw [hname]
  rcases List.eq_nil_or_concat (Text.split '.' (declared.filter (· ≠ '"'))) with
    hnil | ⟨front, last, h⟩
  · exact absurd hnil (Text.split_ne_nil _ _)
  · rw [List.concat_eq_append] at h
    rw [h] at hparts ⊢
    have hlast := hparts last (by simp)
    by_cases hfront : front = []
    · subst hfront
      exact hlast
    · rw [trimAtDots_concat hfront, List.getLast?_concat]
      exact fun hmem => hlast ((trimStart_suffix last).subset hmem)

/-! ## Segments -/

/-- A text that neither begins nor ends with white space. -/
def Trimmed (text : List Char) : Prop :=
  Stops Text.isSpace text ∧ Stops Text.isSpace text.reverse

instance (text : List Char) : Decidable (Trimmed text) :=
  inferInstanceAs (Decidable (_ ∧ _))

/-- What a segment holds: a bare one itself, one in quotes what is between them. White space at the
quotes is none of it. -/
inductive Content : List Char → List Char → Prop
  | bare {name : List Char} (h : IsBare name) : Content name name
  | quoted {content : List Char} (hne : content ≠ []) (hquote : '"' ∉ content)
    (htrimmed : Trimmed content) : Content content ('"' :: (content ++ ['"']))

/-- The schema, if there is one, and the name that a declared name holds. -/
inductive Names : List Char → Option (List Char) → List Char → Prop
  | one {written name : List Char} (hname : Content name written) : Names written none name
  | two {first dot second schema name : List Char} (hschema : Content schema first)
    (hdot : IsDot dot) (hname : Content name second) :
    Names (first ++ (dot ++ second)) (some schema) name

theorem IsBare.trimmed (h : IsBare name) : Trimmed name := by
  have hspace : ∀ c ∈ name, Text.isSpace c = false := fun c hc => isSpace_of_isNameChar (h.2 c hc)
  refine ⟨fun c hc => hspace c (List.mem_of_head? hc), fun c hc => hspace c ?_⟩
  exact List.mem_reverse.mp (List.mem_of_head? hc)

theorem Content.trimmed {content written : List Char} (h : Content content written) :
    Trimmed content := by
  cases h with
  | bare h => exact h.trimmed
  | quoted _ _ htrimmed => exact htrimmed

theorem filter_quote_eq_self (h : '"' ∉ text) : text.filter (· ≠ '"') = text := by
  rw [List.filter_eq_self]
  intro c hc
  have hne : c ≠ '"' := by
    rintro rfl
    exact h hc
  simpa using hne

theorem Content.filter {content written : List Char} (h : Content content written) :
    written.filter (· ≠ '"') = content := by
  cases h with
  | bare h => exact filter_quote_eq_self (notMem_of_forall h.2 (by decide))
  | quoted _ hquote _ =>
    simp only [List.filter_cons, List.filter_append, filter_quote_eq_self hquote]
    simp

theorem filter_blank (hblank : ∀ c ∈ before, Text.isSpace c = true) :
    before.filter (· ≠ '"') = before :=
  filter_quote_eq_self (notMem_of_forall hblank (by decide))

/-- What holds of a schema that is read before a name: it is the content of its segment exactly when
that has no white space next to a dot. -/
theorem joinWith_trimBefore_iff {schema : List Char} (hblank : ∀ c ∈ before, Text.isSpace c = true)
    (hend : Stops Text.isSpace schema.reverse) :
    Text.joinWith '.' (trimBefore (Text.split '.' (schema ++ before))) = schema ↔
      DotsTight schema := by
  rw [← trimBefore_split_iff hblank hend]
  constructor
  · intro h
    have hne : trimBefore (Text.split '.' (schema ++ before)) ≠ [] := by
      obtain ⟨first, rest, hsplit⟩ :=
        List.exists_cons_of_ne_nil (Text.split_ne_nil '.' (schema ++ before))
      rw [hsplit]
      exact List.cons_ne_nil _ _
    have hparts := Text.split_joinWith hne
      (dot_notMem_trimBefore fun part hpart => Text.not_mem_of_mem_split hpart)
    rw [h] at hparts
    exact hparts.symm
  · intro h
    rw [h, Text.joinWith_split]

/-- **The contents of a declared name are what is read from it exactly when the name has no dot, and
the schema no white space next to one.** -/
theorem qualified_eq_iff {written : List Char} {schema : Option (List Char)}
    (hnames : Names written schema name) :
    qualified written = (schema.map String.ofList, String.ofList name) ↔
      '.' ∉ name ∧ ∀ content ∈ schema, DotsTight content := by
  have hdot : qualified written = (schema.map String.ofList, String.ofList name) → '.' ∉ name := by
    intro h
    have hnot := dot_notMem_qualified written
    rwa [h, String.toList_ofList] at hnot
  cases hnames with
  | one hcontent =>
    constructor
    · intro h
      exact ⟨hdot h, fun content hmem => by cases hmem⟩
    · rintro ⟨hplain, -⟩
      exact qualified_plain hcontent.filter hplain
  | @two first dot second schema _ hfirst hdots hsecond =>
    obtain ⟨before, after, rfl, hbefore, hafter⟩ := hdots
    have hflat : (first ++ (before ++ '.' :: after ++ second)).filter (· ≠ '"') =
        schema ++ (before ++ '.' :: (after ++ name)) := by
      simp only [List.filter_append, List.filter_cons, hfirst.filter, hsecond.filter,
        filter_blank hbefore, filter_blank hafter]
      simp
    have hjoin := joinWith_trimBefore_iff hbefore hfirst.trimmed.2
    have hname := hsecond.trimmed.1
    constructor
    · intro h
      have hplain := hdot h
      rw [qualified_dot hflat hafter hplain hname, Prod.mk.injEq] at h
      refine ⟨hplain, fun content hmem => ?_⟩
      obtain rfl := Option.some.inj hmem
      exact hjoin.mp (String.ofList_injective (Option.some.inj h.1))
    · rintro ⟨hplain, htight⟩
      rw [qualified_dot hflat hafter hplain hname, hjoin.mpr (htight schema rfl)]
      rfl

/-- A header at the beginning of a text is the first one in it. -/
theorem FirstHeader.of_reads {words declared : List Char} (h : Reads text words declared) :
    FirstHeader text [] text := by
  have hstarts : StartsHeader text := startsHeader_iff.mpr ⟨words, declared, h⟩
  refine ⟨rfl, (wordBoundary_iff hstarts).mpr rfl, hstarts, ?_⟩
  intro before' after' _ _ _
  exact Nat.zero_le _

/-- **A unit bears the contents of its segments.** The first header of a text names one or two
segments, and what they hold is the name and the schema of the unit if there is no dot in the name
and no white space next to a dot in the schema, as there can be in quotes; and only then. -/
theorem ofText?_keeps_segments {text : String} {before after words written name : List Char}
    {schema : Option (List Char)} (hfirst : FirstHeader text.toList before after)
    (hreads : Reads after words written) (hnames : Names written schema name) :
    ∃ unit, ofText? text = some unit ∧ unit.kind = UnitKind.ofWords words ∧
      (unit.schema = schema.map String.ofList ∧ unit.name = String.ofList name ↔
        '.' ∉ name ∧ ∀ content ∈ schema, DotsTight content) := by
  refine ⟨_, ofText?_eq_some_iff.mpr ⟨before, after, words, written, hfirst, hreads, rfl⟩, rfl, ?_⟩
  rw [← qualified_eq_iff hnames, Prod.ext_iff]

/-- A header with a schema and a name in quotes. -/
def quotedHeader : String := "CREATE FUNCTION hr . \"Calc$Tax\" RETURN NUMBER"

theorem reads_quotedHeader :
    Reads quotedHeader.toList "FUNCTION".toList "hr . \"Calc$Tax\"".toList := by
  have hread : Header.at? quotedHeader.toList =
      some ⟨"FUNCTION".toList, "hr . \"Calc$Tax\"".toList⟩ := by decide +kernel
  exact Header.at?_eq_some_iff.mp hread

theorem names_quotedHeader :
    Names "hr . \"Calc$Tax\"".toList (some "hr".toList) "Calc$Tax".toList := by
  change Names ("hr".toList ++ (" . ".toList ++ "\"Calc$Tax\"".toList)) _ _
  exact .two (.bare ⟨by decide, List.all_eq_true.mp (by decide)⟩)
    ⟨[' '], [' '], rfl, List.all_eq_true.mp (by decide), List.all_eq_true.mp (by decide)⟩
    (.quoted (by decide) (by decide) (by decide))

/-- The segments of a header are kept. -/
theorem ofText?_keeps_segments_quoted :
    ∃ unit, ofText? quotedHeader = some unit ∧ unit.kind = .function ∧
      unit.schema = some "hr" ∧ unit.name = "Calc$Tax" := by
  obtain ⟨unit, hunit, hkind, hkept⟩ :=
    ofText?_keeps_segments (.of_reads reads_quotedHeader) reads_quotedHeader names_quotedHeader
  refine ⟨unit, hunit, hkind.trans (by decide), hkept.mpr ⟨by decide, ?_⟩⟩
  intro content hmem
  obtain rfl := Option.some.inj hmem
  exact dotsTight_of_notMem (by decide)

/-- A header with one name, in quotes, that has a dot. -/
def dottedHeader : String := "CREATE PROCEDURE \"a.b\" IS"

theorem reads_dottedHeader : Reads dottedHeader.toList "PROCEDURE".toList "\"a.b\"".toList := by
  have hread : Header.at? dottedHeader.toList = some ⟨"PROCEDURE".toList, "\"a.b\"".toList⟩ := by
    decide +kernel
  exact Header.at?_eq_some_iff.mp hread

theorem names_dottedHeader : Names "\"a.b\"".toList none "a.b".toList :=
  .one (.quoted (by decide) (by decide) (by decide))

/-- A name in quotes is cut at a dot, as if what stands before that were a schema. -/
theorem ofText?_cuts_quoted :
    ¬∀ (text : String) (before after words written name : List Char) (schema : Option (List Char)),
      FirstHeader text.toList before after → Reads after words written →
      Names written schema name →
      ∃ unit, ofText? text = some unit ∧
        unit.schema = schema.map String.ofList ∧ unit.name = String.ofList name := by
  intro h
  obtain ⟨unit, hunit, hschema, -⟩ := h dottedHeader [] _ _ _ _ none
    (.of_reads reads_dottedHeader) reads_dottedHeader names_dottedHeader
  have hread : ofText? dottedHeader = some ⟨.procedure, some "a", "b"⟩ := by decide +kernel
  obtain rfl := Option.some.inj (hread.symm.trans hunit)
  cases hschema

end DmlOutline.ProgramUnit
