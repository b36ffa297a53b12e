/-!
# Splitting texts

A text is cut at every separator, so it has one part more than separators.

* `split` — the parts between the separators.
* `joinWith` — parts with a separator between them.
* `joinWith_split` — putting the parts together again gives the text.
* `not_mem_of_mem_split` — no part contains the separator.
* `split_append_cons`, `split_joinWith` — where a text is cut.
-/

namespace DmlOutline.Text

/-- The parts of a text between its separators. -/
def split (separator : Char) : List Char → List (List Char)
  | [] => [[]]
  | c :: rest =>
    if c = separator then [] :: split separator rest
    else
      match split separator rest with
      | [] => [[c]]
      | part :: parts => (c :: part) :: parts

/-- Parts with a separator between them. -/
def joinWith (separator : Char) : List (List Char) → List Char
  | [] => []
  | [part] => part
  | part :: next :: rest => part ++ separator :: joinWith separator (next :: rest)

theorem split_ne_nil (separator : Char) (text : List Char) : split separator text ≠ [] := by
  cases text with
  | nil => simp [split]
  | cons c rest =>
    simp only [split]
    split
    · simp
    · split <;> simp

/-- Putting the parts of a text together again gives the text. -/
theorem joinWith_split (separator : Char) (text : List Char) :
    joinWith separator (split separator text) = text := by
  induction text with
  | nil => rfl
  | cons c rest ih =>
    simp only [split]
    cases parts : split separator rest with
    | nil => exact absurd parts (split_ne_nil separator rest)
    | cons part more =>
      rw [parts] at ih
      split
      · next same => cases more <;> simp_all [joinWith]
      · cases more <;> simp_all [joinWith]

/-- No part contains the separator. -/
theorem not_mem_of_mem_split {separator : Char} {text part : List Char}
    (h : part ∈ split separator text) : separator ∉ part := by
  induction text generalizing part with
  | nil => simp_all [split]
  | cons c rest ih =>
    simp only [split] at h
    split at h
    · rcases List.mem_cons.1 h with rfl | h
      · simp
      · exact ih h
    · next other =>
      split at h
      · simp_all [Ne.symm]
      · next part' parts same =>
        rw [same] at ih
        rcases List.mem_cons.1 h with rfl | h
        · simp [Ne.symm other, ih (List.mem_cons_self ..)]
        · exact ih (List.mem_cons_of_mem _ h)

/-- A text with a separator in it is split there. -/
theorem split_append_cons (separator : Char) (front back : List Char) :
    split separator (front ++ separator :: back) =
      split separator front ++ split separator back := by
  induction front with
  | nil => simp [split]
  | cons c rest ih =>
    rw [List.cons_append, split, split, ih]
    split
    · rfl
    · cases hrest : split separator rest with
      | nil => exact absurd hrest (split_ne_nil separator rest)
      | cons part parts => rfl

/-- A text without a separator is one part. -/
theorem split_of_not_mem {separator : Char} {text : List Char} (h : separator ∉ text) :
    split separator text = [text] := by
  induction text with
  | nil => rfl
  | cons c rest ih =>
    rw [List.mem_cons, not_or] at h
    rw [split, if_neg (Ne.symm h.1), ih h.2]

/-- Parts without the separator are what the text that they make is cut into. -/
theorem split_joinWith {separator : Char} {parts : List (List Char)} (hne : parts ≠ [])
    (hparts : ∀ part ∈ parts, separator ∉ part) : split separator (joinWith separator parts) = parts := by
  induction parts with
  | nil => exact absurd rfl hne
  | cons part more ih =>
    have hpart := split_of_not_mem (hparts part List.mem_cons_self)
    cases more with
    | nil => exact hpart
    | cons next rest =>
      rw [joinWith, split_append_cons, hpart, List.singleton_append]
      exact congrArg _ (ih (List.cons_ne_nil _ _) fun other hother =>
        hparts other (List.mem_cons_of_mem _ hother))

end DmlOutline.Text
