/-!
# Sets of code points

A class of characters is given by the closed ranges of its code points.

* `CodeRanges` — a list of ranges; both ends belong to a range.
* `CodeRanges.contains` — whether a character lies in one of them.
* `CodeRanges.contains_eq_true_iff` — the meaning of membership.
-/

namespace DmlOutline.Text

/-- A set of code points as closed ranges, lowest first. -/
abbrev CodeRanges := List (Nat × Nat)

namespace CodeRanges

/-- Whether a character lies in one of the ranges. -/
def contains (ranges : CodeRanges) (c : Char) : Bool :=
  ranges.any fun range => range.1 ≤ c.toNat && c.toNat ≤ range.2

/-- A character is contained when some range has it between its ends. -/
theorem contains_eq_true_iff {ranges : CodeRanges} {c : Char} :
    ranges.contains c = true ↔ ∃ range ∈ ranges, range.1 ≤ c.toNat ∧ c.toNat ≤ range.2 := by
  simp [contains]

end CodeRanges

end DmlOutline.Text
