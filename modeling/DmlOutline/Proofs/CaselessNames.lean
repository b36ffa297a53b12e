import DmlOutline.Proofs.PathNames
import DmlOutline.Store

/-!
# Names without regard to case

A character that comes before the small letters and is no capital is the lower case of itself, and
of nothing else. So names that are the same but for case have the same separators, and a name that is
the same as a checked one would pass the check as well.

The lower case of an end without a capital sigma is the end of the lower case.

Principal results: `Text.mem_lower_iff`, `Text.lower_suffix`; `FileName.isSql_json`,
`Store.isSegment_of_sameName`.
-/

namespace DmlOutline

namespace Text

theorem image_of_mem_lowerRuns : ∀ run ∈ lowerRuns, 0x61 ≤ run.image ∧
    (run.image + (run.last - run.first) < 0xD800 ∨
      0xDFFF < run.image ∧ run.image + (run.last - run.first) < 0x110000) := by
  decide +kernel

/-- No run of lower case leads to a character before the small letters. -/
theorem le_toNat_map_lowerRuns {c : Char} (h : 0x61 ≤ c.toNat) :
    0x61 ≤ (lowerRuns.map c).toNat := by
  unfold CaseRuns.map
  split
  · rename_i run hfind
    obtain ⟨himage, hvalid⟩ := image_of_mem_lowerRuns run (List.mem_of_find?_eq_some hfind)
    have hhas := List.find?_some hfind
    simp only [CaseRun.has, Bool.and_eq_true, decide_eq_true_eq] at hhas
    have hchar : (run.image + (c.toNat - run.first)).isValidChar := by
      unfold Nat.isValidChar
      omega
    have hcode : (Char.ofNat (run.image + (c.toNat - run.first))).toNat =
        run.image + (c.toNat - run.first) := by
      rw [Char.ofNat, dif_pos hchar]
      rfl
    rw [hcode]
    omega
  · exact h

theorem toLower_of_lt_128 : ∀ code < 128, (Char.ofNat code).toLower.toNat < 0x61 →
    (Char.ofNat code).toLower = Char.ofNat code := by
  decide

variable {c d : Char}

/-- A character before the small letters is the lower case of itself alone. -/
theorem eq_of_mem_lowerChar (hd : d.toNat < 0x61) (h : d ∈ lowerChar c) : d = c := by
  unfold lowerChar at h
  split at h
  · rename_i hascii
    have hlower := toLower_of_lt_128 c.toNat hascii
    rw [Char.ofNat_toNat] at hlower
    rw [List.mem_singleton] at h
    rw [h] at hd ⊢
    exact hlower hd
  · rename_i hlarge
    cases hexpand : lowerExpansions.find c with
    | none =>
      rw [hexpand, Option.getD_none, List.mem_singleton] at h
      have hmap := le_toNat_map_lowerRuns (c := c) (by omega)
      rw [← h] at hmap
      omega
    | some image =>
      rw [hexpand, Option.getD_some] at h
      have himage : image = [Char.ofNat 0x69, Char.ofNat 0x307] := by
        unfold CaseExpansions.find lowerExpansions at hexpand
        rw [List.lookup_cons] at hexpand
        split at hexpand
        · exact (Option.some.inj hexpand).symm
        · cases hexpand
      rw [himage] at h
      simp only [List.mem_cons, List.not_mem_nil, or_false] at h
      rcases h with rfl | rfl
      · exact absurd hd (by decide)
      · exact absurd hd (by decide)

theorem mem_of_mem_lowerAfter (hd : d.toNat < 0x61) {text : List Char} (before : List Char)
    (h : d ∈ lowerAfter before text) : d ∈ text := by
  induction text generalizing before with
  | nil => exact h
  | cons c rest ih =>
    rw [lowerAfter, List.mem_append] at h
    rcases h with h | h
    · have hsigma : d ≠ 'ς' ∧ d ≠ 'σ' := by
        constructor
        · rintro rfl
          revert hd
          decide
        · rintro rfl
          revert hd
          decide
      split at h
      · split at h
        · exact absurd (List.mem_singleton.mp h) hsigma.1
        · exact absurd (List.mem_singleton.mp h) hsigma.2
      · rw [eq_of_mem_lowerChar hd h]
        exact List.mem_cons_self
    · exact List.mem_cons_of_mem c (ih (c :: before) h)

theorem mem_lowerAfter_of_mem (hd : d.toNat < 0x61) (hlower : d.toLower = d) {text : List Char}
    (before : List Char) (h : d ∈ text) : d ∈ lowerAfter before text := by
  induction text generalizing before with
  | nil => exact h
  | cons c rest ih =>
    rw [lowerAfter, List.mem_append]
    rcases List.mem_cons.mp h with rfl | h
    · have hsigma : d ≠ capitalSigma := by
        rintro rfl
        revert hd
        decide
      have hascii : d.toNat < 128 := by omega
      left
      rw [if_neg hsigma, lowerChar, if_pos hascii, hlower]
      exact List.mem_singleton_self d
    · exact .inr (ih (c :: before) h)

/-- **A character that has no case is in a text when it is in its lower case.** -/
theorem mem_lower_iff (hd : d.toNat < 0x61) (hlower : d.toLower = d) (text : List Char) :
    d ∈ lower text ↔ d ∈ text :=
  ⟨mem_of_mem_lowerAfter hd [], mem_lowerAfter_of_mem hd hlower []⟩

/-- The end of a text is mapped as it is, given the text before it. -/
theorem lowerAfter_suffix (before front back : List Char) :
    lowerAfter (front.reverse ++ before) back <:+ lowerAfter before (front ++ back) := by
  induction front generalizing before with
  | nil => exact List.suffix_refl _
  | cons c rest ih =>
    have hrest := ih (c :: before)
    rw [List.reverse_cons, List.append_assoc]
    exact hrest.trans (List.suffix_append _ _)

/-- The end of a text without a capital sigma is mapped character by character. -/
theorem lower_suffix {back : List Char} (h : capitalSigma ∉ back) (front : List Char) :
    back.flatMap lowerChar <:+ lower (front ++ back) := by
  rw [← lowerAfter_eq_flatMap h (front.reverse ++ [])]
  exact lowerAfter_suffix [] front back

end Text

/-- What ends in `.json` does not end in `.sql`. -/
theorem FileName.isSql_json (front : String) : FileName.isSql (front ++ ".json") = false := by
  have hjson : ".json".toList.flatMap Text.lowerChar <:+
      Text.lower (front.toList ++ ".json".toList) := Text.lower_suffix (by decide) _
  rw [isSql, String.toList_append, ← Bool.not_eq_true, List.isSuffixOf_iff_suffix]
  intro hsql
  have hshort := List.suffix_of_suffix_length_le hsql hjson (by decide)
  revert hshort
  decide

namespace Store

/-- What is the same as a checked name but for case, and is a name, would pass the check. -/
theorem isSegment_of_sameName {name stored : String} (hname : isSegment name = true)
    (hstored : Path.IsName stored) (hsame : sameName name stored = true) :
    isSegment stored = true := by
  have hlower : Text.lower name.toList = Text.lower stored.toList := of_decide_eq_true hsame
  have hmem : ∀ d : Char, d.toNat < 0x61 → d.toLower = d → d ∈ stored.toList → d ∈ name.toList := by
    intro d hd hcase h
    rw [← Text.mem_lower_iff hd hcase, ← hlower, Text.mem_lower_iff hd hcase] at h
    exact h
  simp only [isSegment, Bool.and_eq_true, decide_eq_true_eq, List.all_eq_true, bne_iff_ne,
    ne_eq] at hname ⊢
  obtain ⟨-, hall⟩ := hname
  refine ⟨⟨⟨hstored.ne_empty, hstored.ne_dot⟩, hstored.ne_dots⟩, ?_⟩
  intro c hc
  refine ⟨⟨?_, ?_⟩, ?_⟩
  · rintro rfl
    exact hstored.no_slash hc
  · rintro rfl
    exact (hall _ (hmem '\\' (by decide) (by decide) hc)).1.2 rfl
  · rintro rfl
    exact (hall _ (hmem '\x00' (by decide) (by decide) hc)).2 rfl

end Store

end DmlOutline
