import DmlOutline.Toml.Quoted

/-!
# Quoted texts are read back

A text is written in the plainest of four ways that can hold it. The reader undoes each of them, if no
quote follows: quotes right after the closing ones would count as a part of the text.

* `Toml.Writes` — what may be written for a character between double quotes.
* `Toml.EndsText` — what may follow a text.

Principal results: `Toml.basicBody_flatMap`, `Toml.literalBody_append`, `Toml.linesBody_append`,
`Toml.literalLinesBody_append`: the four ways; `Toml.quoted?_write`: whichever is chosen.
-/

namespace DmlOutline.Toml

variable {c quote : Char} {text rest written : List Char} {run : Nat}

/-! ## Characters -/

/-- Four digits are read as the character with this number. -/
theorem numbered?_digits {n : Nat} (h : n < 0x100) (rest : List Char) :
    numbered? 4 ('0' :: '0' :: Nat.digitChar (n / 16) :: (Nat.digitChar (n % 16)).toUpper :: rest) =
      some (Char.ofNat n) := by
  have hzero : Text.hexDigit? '0' = some 0 := rfl
  have hhigh := (Text.hexDigit?_digitChar (n / 16) (by omega)).1
  have hlow := (Text.hexDigit?_digitChar (n % 16) (by omega)).2
  have hnumber : n / 16 * 16 + n % 16 = n := by omega
  have hscalar : n < 0xD800 := by omega
  simp [numbered?, Text.charOfCode?, hzero, hhigh, hlow, hnumber, hscalar]

/-- What may be written for a character between double quotes. -/
inductive Writes (c : Char) : List Char → Prop where
  /-- The character itself. -/
  | plain (hquote : c ≠ '"') (hbackslash : c ≠ '\\') (htext : isTextChar c = true) : Writes c [c]
  /-- An escape that is read as it. -/
  | escape {sign : Char} {more : List Char} (hblank : isBlank sign = false)
      (hbreak : sign ≠ '\n' ∧ sign ≠ '\r')
      (hread : ∀ rest, escape? (sign :: (more ++ rest)) = some (c, more.length + 1)) :
      Writes c ('\\' :: sign :: more)

/-- A character that needs no escape may stand in a text, unless it is a line break. -/
theorem isTextChar_of_needsEscape (h : needsEscape c = false) (hbreak : c ≠ '\n') :
    isTextChar c = true := by
  by_cases htab : c = '\t'
  · rw [htab]
    rfl
  · simp only [needsEscape, ne_eq, htab, hbreak, not_false_eq_true, decide_true, Bool.true_and,
      Bool.or_eq_false_iff, decide_eq_false_iff_not, Nat.not_lt] at h
    simp [isTextChar, h]

theorem writes_writeChar (c : Char) : Writes c (writeChar c) := by
  unfold writeChar
  split
  case h_8 hbackspace htab hbreak hfeed hreturn hquote hbackslash =>
    split
    · rename_i hneeds
      have hnumber : c.toNat < 0x100 := by
        simp only [needsEscape, Bool.and_eq_true, Bool.or_eq_true, decide_eq_true_eq] at hneeds
        omega
      refine .escape (by decide) (by decide) fun rest => ?_
      simp only [escape?, List.cons_append, List.nil_append, numbered?_digits hnumber,
        Char.ofNat_toNat, Option.map_some]
      rfl
    · rename_i hneeds
      exact .plain hquote hbackslash
        (isTextChar_of_needsEscape (Bool.eq_false_iff.mpr hneeds) hbreak)
  all_goals exact .escape (by decide) (by decide) fun _ => rfl

/-- What is written for a character begins with no quote and no line break. -/
theorem Writes.eq_cons (h : Writes c written) :
    ∃ first more, written = first :: more ∧ first ≠ '"' ∧ first ≠ '\n' ∧ first ≠ '\r' := by
  cases h with
  | plain hquote _ htext =>
    refine ⟨_, _, rfl, hquote, ?_, ?_⟩ <;> rintro rfl <;> exact absurd htext (by decide)
  | escape => exact ⟨_, _, rfl, by decide, by decide, by decide⟩

/-! ## Texts on one line -/

theorem basicBody_skip (skipped rest : List Char) :
    basicBody skipped.length (skipped ++ rest) = basicBody 0 rest := by
  induction skipped with
  | nil => rfl
  | cons c skipped ih => exact ih

theorem basicBody_append (h : Writes c written) (rest : List Char) :
    basicBody 0 (written ++ rest) = (basicBody 0 rest).map (withFront [c]) := by
  cases h with
  | plain hquote hbackslash htext => simp [basicBody, hquote, hbackslash, htext]
  | escape _ _ hread => simp [basicBody, hread, basicBody_skip]

/-- **A text with escapes is read back.** -/
theorem basicBody_flatMap (text rest : List Char) :
    basicBody 0 (text.flatMap writeChar ++ '"' :: rest) = some (text, rest) := by
  induction text with
  | nil => rfl
  | cons c text ih =>
    rw [List.flatMap_cons, List.append_assoc, basicBody_append (writes_writeChar c), ih]
    rfl

/-- **A text without escapes is read back,** if no quote is in it. -/
theorem literalBody_append (h : ∀ c ∈ text, isTextChar c = true ∧ c ≠ '\x27') (rest : List Char) :
    literalBody (text ++ '\x27' :: rest) = some (text, rest) := by
  induction text with
  | nil => rfl
  | cons c text ih =>
    obtain ⟨htext, hquote⟩ := h c List.mem_cons_self
    rw [List.cons_append, literalBody, if_neg hquote, if_pos htext,
      ih fun d hd => h d (List.mem_cons_of_mem c hd)]
    rfl

/-! ## Runs of quotes -/

theorem longestRun_mono {less : Nat} (h : less ≤ run) (text : List Char) :
    longestRun quote less text ≤ longestRun quote run text := by
  induction text generalizing less run with
  | nil => exact h
  | cons c text ih =>
    simp only [longestRun]
    split
    · exact ih (Nat.succ_le_succ h)
    · omega

/-- The quotes at the beginning of a text are a run. -/
theorem length_takeWhile_le_longestRun (quote : Char) (run : Nat) (text : List Char) :
    run + (text.takeWhile (· = quote)).length ≤ longestRun quote run text := by
  induction text generalizing run with
  | nil => exact Nat.le_refl run
  | cons c text ih =>
    simp only [longestRun]
    by_cases hquote : c = quote
    · have hrest := ih (run + 1)
      simp only [hquote, decide_true, List.takeWhile_cons_of_pos, List.length_cons, if_true]
      omega
    · simp only [hquote, decide_false, Bool.false_eq_true, not_false_eq_true,
        List.takeWhile_cons_of_neg, List.length_nil, Nat.add_zero, if_false]
      exact Nat.le_max_left _ _

theorem longestRun_tail (quote : Char) (run : Nat) (c : Char) (text : List Char) :
    longestRun quote 0 text ≤ longestRun quote run (c :: text) := by
  simp only [longestRun]
  split
  · exact longestRun_mono (Nat.zero_le _) text
  · exact Nat.le_max_right _ _

/-- Without a run there is no quote. -/
theorem ne_of_longestRun (h : longestRun quote 0 text = 0) : ∀ c ∈ text, c ≠ quote := by
  induction text with
  | nil => exact fun _ hc => nomatch hc
  | cons d text ih =>
    have hhead := length_takeWhile_le_longestRun quote 0 (d :: text)
    have htail := longestRun_tail quote 0 d text
    refine List.forall_mem_cons.mpr ⟨?_, ih (by omega)⟩
    rintro rfl
    simp only [decide_true, List.takeWhile_cons_of_pos, List.length_cons] at hhead
    omega

/-! ## Closing quotes -/

/-- One or two quotes right before the closing ones belong to the text. -/
theorem closing?_of_all (hall : ∀ c ∈ text, c = quote)
    (hshort : (text.takeWhile (· = quote)).length ≤ 2) (hrest : rest.head? ≠ some quote) :
    closing? quote (text ++ quote :: quote :: quote :: rest) = some (text, rest) := by
  obtain ⟨count, rfl⟩ : ∃ count, text = List.replicate count quote :=
    ⟨text.length, List.eq_replicate_iff.mpr ⟨rfl, hall⟩⟩
  simp only [List.takeWhile_replicate, decide_true, if_true, List.length_replicate] at hshort
  have hthree : List.replicate count quote ++ quote :: quote :: quote :: rest =
      List.replicate (count + 3) quote ++ rest := by
    rw [← List.replicate_append_replicate, List.append_assoc]
    rfl
  have hnone : rest.takeWhile (· = quote) = [] := by
    cases rest with
    | nil => rfl
    | cons d rest =>
      have hd : d ≠ quote := fun heq => hrest (congrArg some heq)
      simp [hd]
  have hrun : ((List.replicate (count + 3) quote ++ rest).takeWhile (· = quote)).length =
      count + 3 := by
    rw [List.takeWhile_append_of_pos (by simp), hnone, List.append_nil, List.length_replicate]
  have hmin : min 5 (count + 3) = count + 3 := by omega
  have hdrop : (List.replicate (count + 3) quote ++ rest).drop (count + 3) = rest :=
    List.drop_left' (List.length_replicate ..)
  rw [hthree, closing?, hrun, hmin, hdrop]
  simp

/-- Up to two quotes that something else follows close nothing. -/
theorem closing?_of_not_all (hall : ¬∀ c ∈ text, c = quote)
    (hshort : (text.takeWhile (· = quote)).length ≤ 2) (rest : List Char) :
    closing? quote (text ++ rest) = none := by
  have hstop : (text ++ rest).takeWhile (· = quote) = text.takeWhile (· = quote) := by
    rw [List.takeWhile_append, if_neg]
    intro hlength
    have hwhole := (List.takeWhile_prefix (fun d => decide (d = quote))).eq_of_length hlength
    refine hall fun c hc => ?_
    rw [← hwhole] at hc
    exact of_decide_eq_true (List.all_eq_true.mp List.all_takeWhile c hc)
  have hfew : min 5 (text.takeWhile (· = quote)).length < 3 := by omega
  rw [closing?, hstop]
  simp only [hfew, if_true]

theorem closing?_of_ne (h : c ≠ quote) (rest : List Char) : closing? quote (c :: rest) = none :=
  closing?_of_not_all (fun hall => h (hall c (List.mem_singleton_self c))) (by simp [h]) rest

/-! ## Texts of several lines -/

theorem literalLinesBody_closing {found : List Char × List Char}
    (h : closing? '\x27' text = some found) : literalLinesBody text = some found := by
  cases text with
  | nil => cases h
  | cons c text => simp only [literalLinesBody, h]

/-- **A text of several lines without escapes is read back,** if no three quotes are in a row. -/
theorem literalLinesBody_append (htext : ∀ c ∈ text, isTextChar c = true ∨ c = '\n')
    (hruns : longestRun '\x27' 0 text ≤ 2) (hrest : rest.head? ≠ some '\x27') :
    literalLinesBody (text ++ '\x27' :: '\x27' :: '\x27' :: rest) = some (text, rest) := by
  induction text with
  | nil => exact literalLinesBody_closing (closing?_of_all (fun _ hc => nomatch hc) (Nat.zero_le 2) hrest)
  | cons c text ih =>
    have hshort := length_takeWhile_le_longestRun '\x27' 0 (c :: text)
    -- Where only quotes are left, they are read at once, with the closing ones.
    by_cases hall : ∀ d ∈ c :: text, d = '\x27'
    · exact literalLinesBody_closing (closing?_of_all hall (by omega) hrest)
    · have hclosing := closing?_of_not_all hall (by omega) ('\x27' :: '\x27' :: '\x27' :: rest)
      have hreturn : c ≠ '\r' := by
        rintro rfl
        exact absurd (htext '\r' List.mem_cons_self) (by decide)
      have hmore := ih (fun d hd => htext d (List.mem_cons_of_mem c hd))
        (Nat.le_trans (longestRun_tail _ _ _ _) hruns)
      rw [List.cons_append] at hclosing ⊢
      simp [literalLinesBody, hclosing, hreturn, htext c List.mem_cons_self, hmore, withFront]

theorem linesBody_closing {found : List Char × List Char} (h : closing? '"' text = some found) :
    linesBody 0 false text = some found := by
  cases text with
  | nil => cases h
  | cons c text => simp [linesBody, h]

theorem linesBody_skip (skipped rest : List Char) :
    linesBody skipped.length false (skipped ++ rest) = linesBody 0 false rest := by
  induction skipped with
  | nil => rfl
  | cons c skipped ih => exact ih

/-- A character that stands for itself. -/
theorem linesBody_cons (hclosing : closing? '"' (c :: rest) = none) (hbackslash : c ≠ '\\')
    (htext : isTextChar c = true ∨ c = '\n') :
    linesBody 0 false (c :: rest) = (linesBody 0 false rest).map (withFront [c]) := by
  have hreturn : c ≠ '\r' := by
    rintro rfl
    exact absurd htext (by decide)
  simp [linesBody, hclosing, hbackslash, hreturn, htext]

theorem linesBody_written (h : Writes c written) (rest : List Char) :
    linesBody 0 false (written ++ rest) = (linesBody 0 false rest).map (withFront [c]) := by
  cases h with
  | plain hquote hbackslash htext =>
    exact linesBody_cons (closing?_of_ne hquote rest) hbackslash (.inl htext)
  | @escape sign more hblank hbreak hread =>
    have hclosing := closing?_of_ne (show '\\' ≠ '"' by decide) (sign :: (more ++ rest))
    have hstays : startsBreak (sign :: (more ++ rest)) = false := by
      unfold startsBreak
      split
      · rename_i heq
        exact absurd (List.cons.inj heq).1 hbreak.1
      · rename_i heq
        exact absurd (List.cons.inj heq).1 hbreak.2
      · rfl
    simp [linesBody, hclosing, hblank, hstays, hread, linesBody_skip]

/-- What is written for a character of several lines, after a run of quotes. -/
theorem writeLines_cons (run : Nat) (c : Char) (text : List Char) :
    (c = '"' ∧ run < 2 ∧ writeLines run (c :: text) = '"' :: writeLines (run + 1) text) ∨
    (c = '\n' ∧ writeLines run (c :: text) = '\n' :: writeLines 0 text) ∨
    writeLines run (c :: text) = writeChar c ++ writeLines 0 text := by
  by_cases hquote : c = '"' ∧ run < 2
  · exact .inl ⟨hquote.1, hquote.2, by rw [writeLines, if_pos (by simpa using hquote)]⟩
  · by_cases hbreak : c = '\n'
    · exact .inr (.inl ⟨hbreak, by rw [writeLines, if_neg (by simpa using hquote), if_pos hbreak]⟩)
    · exact .inr (.inr (by rw [writeLines, if_neg (by simpa using hquote), if_neg hbreak]))

/-- Of three quotes in a row the third is escaped. -/
theorem length_takeWhile_writeLines (h : run ≤ 2) (text : List Char) :
    run + ((writeLines run text).takeWhile (· = '"')).length ≤ 2 := by
  induction text generalizing run with
  | nil => exact h
  | cons c text ih =>
    obtain ⟨-, hless, heq⟩ | ⟨-, heq⟩ | heq := writeLines_cons run c text
    · have hrest := @ih (run + 1) hless
      simp only [heq, decide_true, List.takeWhile_cons_of_pos, List.length_cons]
      omega
    · rw [heq]
      exact h
    · obtain ⟨first, more, hwritten, hfirst, -, -⟩ := (writes_writeChar c).eq_cons
      simp [heq, hwritten, hfirst, h]

/-- Where only quotes are written, they are the text. -/
theorem writeLines_eq_of_all (h : ∀ d ∈ writeLines run text, d = '"') :
    writeLines run text = text := by
  induction text generalizing run with
  | nil => rfl
  | cons c text ih =>
    obtain ⟨rfl, -, heq⟩ | ⟨-, heq⟩ | heq := writeLines_cons run c text
    · rw [heq] at h ⊢
      rw [ih fun d hd => h d (List.mem_cons_of_mem _ hd)]
    · rw [heq] at h
      exact absurd (h '\n' List.mem_cons_self) (by decide)
    · obtain ⟨first, more, hwritten, hfirst, -, -⟩ := (writes_writeChar c).eq_cons
      rw [heq, hwritten] at h
      exact absurd (h first List.mem_cons_self) hfirst

/-- **A text of several lines with escapes is read back.** -/
theorem linesBody_append (hrun : run ≤ 2) (text : List Char) (hrest : rest.head? ≠ some '"') :
    linesBody 0 false (writeLines run text ++ '"' :: '"' :: '"' :: rest) = some (text, rest) := by
  induction text generalizing run with
  | nil => exact linesBody_closing (closing?_of_all (fun _ hc => nomatch hc) (Nat.zero_le 2) hrest)
  | cons c text ih =>
    have hshort := length_takeWhile_writeLines hrun (c :: text)
    -- Where only quotes are left, none of them is escaped, and they are read with the closing ones.
    by_cases hall : ∀ d ∈ writeLines run (c :: text), d = '"'
    · rw [linesBody_closing (closing?_of_all hall (by omega) hrest), writeLines_eq_of_all hall]
    · have hclosing := closing?_of_not_all hall (by omega) ('"' :: '"' :: '"' :: rest)
      obtain ⟨rfl, hless, heq⟩ | ⟨rfl, heq⟩ | heq := writeLines_cons run c text
      · rw [heq, List.cons_append] at hclosing ⊢
        rw [linesBody_cons hclosing (by decide) (by decide), ih hless]
        rfl
      · rw [heq, List.cons_append] at hclosing ⊢
        rw [linesBody_cons hclosing (by decide) (by decide), ih (by decide)]
        rfl
      · rw [heq, List.append_assoc, linesBody_written (writes_writeChar c), ih (by decide)]
        rfl

/-! ## Whichever way is chosen -/

/-- What may follow a text: no quote. -/
def EndsText (rest : List Char) : Prop :=
  rest.head? ≠ some '"' ∧ rest.head? ≠ some '\x27'

/-- One double quote begins a text on one line. -/
theorem quoted?_double (h : ∀ more, text ≠ '"' :: '"' :: more) :
    quoted? ('"' :: text) = basicBody 0 text := by
  rw [quoted?]
  exact h

/-- One single quote begins a text on one line. -/
theorem quoted?_single (h : ∀ more, text ≠ '\x27' :: '\x27' :: more) :
    quoted? ('\x27' :: text) = literalBody text := by
  rw [quoted?]
  exact h

theorem quoted?_basic (text : List Char) (hrest : rest.head? ≠ some '"') :
    quoted? ('"' :: (text.flatMap writeChar ++ '"' :: rest)) = some (text, rest) := by
  rw [quoted?_double, basicBody_flatMap]
  intro more heq
  cases text with
  | nil => exact hrest (by rw [(List.cons.inj heq).2]; rfl)
  | cons c text =>
    obtain ⟨first, written, hwritten, hfirst, -, -⟩ := (writes_writeChar c).eq_cons
    rw [List.flatMap_cons, hwritten] at heq
    exact hfirst (List.cons.inj heq).1

theorem quoted?_literal (h : ∀ c ∈ text, isTextChar c = true ∧ c ≠ '\x27')
    (hrest : rest.head? ≠ some '\x27') :
    quoted? ('\x27' :: (text ++ '\x27' :: rest)) = some (text, rest) := by
  rw [quoted?_single, literalBody_append h]
  intro more heq
  cases text with
  | nil => exact hrest (by rw [(List.cons.inj heq).2]; rfl)
  | cons c text => exact (h c List.mem_cons_self).2 (List.cons.inj heq).1

/-- A line break is put before what begins with one, and before more. -/
theorem skipBreak_append {breaks : Bool}
    (h : breaks = false → text.head? ≠ some '\n' ∧ text.head? ≠ some '\r') :
    skipBreak ((if breaks then ['\n'] else []) ++ text) = text := by
  cases breaks with
  | true => rfl
  | false =>
    obtain ⟨hbreak, hreturn⟩ := h rfl
    change skipBreak text = text
    unfold skipBreak
    split
    · exact absurd rfl hbreak
    · exact absurd rfl hreturn
    · rfl

theorem quoted?_lines (text : List Char) (hrest : rest.head? ≠ some '"') :
    quoted? ('"' :: '"' :: '"' :: ((if text.contains '\n' then ['\n'] else []) ++
      (writeLines 0 text ++ '"' :: '"' :: '"' :: rest))) = some (text, rest) := by
  rw [quoted?, skipBreak_append, linesBody_append (by decide) text hrest]
  intro hbreaks
  cases text with
  | nil => exact ⟨by simp [writeLines], by simp [writeLines]⟩
  | cons c text =>
    obtain ⟨first, written, hwritten, -, hbreak, hreturn⟩ := (writes_writeChar c).eq_cons
    have hc : c ≠ '\n' := by
      rintro rfl
      simp at hbreaks
    by_cases hquote : c = '"' <;> simp [writeLines, hquote, hc, hwritten, hbreak, hreturn]

theorem quoted?_literalLines (htext : ∀ c ∈ text, isTextChar c = true ∨ c = '\n')
    (hruns : longestRun '\x27' 0 text ≤ 2) (hrest : rest.head? ≠ some '\x27') :
    quoted? ('\x27' :: '\x27' :: '\x27' :: ((if text.contains '\n' then ['\n'] else []) ++
      (text ++ '\x27' :: '\x27' :: '\x27' :: rest))) = some (text, rest) := by
  rw [quoted?, skipBreak_append, literalLinesBody_append htext hruns hrest]
  intro hbreaks
  cases text with
  | nil => exact ⟨by simp, by simp⟩
  | cons c text =>
    have hc : c ≠ '\n' := by
      rintro rfl
      simp at hbreaks
    have hreturn : c ≠ '\r' := by
      rintro rfl
      exact absurd (htext '\r' List.mem_cons_self) (by decide)
    simp [hc, hreturn]

/-- **A text is read back,** in whichever way it is written. -/
theorem quoted?_write (text : List Char) (h : EndsText rest) :
    quoted? (write text ++ rest) = some (text, rest) := by
  obtain ⟨hdouble, hsingle⟩ := h
  have hbasic := quoted?_basic text hdouble
  have hlines := quoted?_lines text hdouble
  have hplain (hcontrols : text.any needsEscape = false) :
      ∀ c ∈ text, isTextChar c = true ∨ c = '\n' := by
    intro c hc
    by_cases hbreak : c = '\n'
    · exact .inr hbreak
    · have hneeds : needsEscape c = false := by
        simpa using List.any_eq_false.mp hcontrols c hc
      exact .inl (isTextChar_of_needsEscape hneeds hbreak)
  unfold write
  simp only [Bool.and_eq_true, Bool.not_eq_true', decide_eq_true_eq]
  split
  · simpa only [List.cons_append, List.append_assoc, List.nil_append] using hbasic
  split
  · rename_i hchosen
    obtain ⟨⟨hcontrols, hsingles⟩, hbreaks⟩ := hchosen
    have htext : ∀ c ∈ text, isTextChar c = true ∧ c ≠ '\x27' := by
      intro c hc
      refine ⟨(hplain hcontrols c hc).resolve_right ?_, ne_of_longestRun hsingles c hc⟩
      rintro rfl
      simp [hc] at hbreaks
    simpa only [List.cons_append, List.append_assoc, List.nil_append] using
      quoted?_literal htext hsingle
  split
  · simpa only [List.cons_append, List.append_assoc, List.nil_append] using hlines
  split
  · rename_i hchosen
    simpa only [List.cons_append, List.append_assoc, List.nil_append] using
      quoted?_literalLines (hplain hchosen.1) hchosen.2 hsingle
  split
  · rename_i hbreaks
    rw [if_pos hbreaks] at hlines
    simpa only [List.cons_append, List.append_assoc, List.nil_append] using hlines
  · simpa only [List.cons_append, List.append_assoc, List.nil_append] using hbasic

end DmlOutline.Toml
