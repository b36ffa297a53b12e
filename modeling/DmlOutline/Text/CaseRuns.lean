import DmlOutline.Text.CodeRanges

/-!
# Case mappings

Most case mappings of Unicode shift a whole run of characters by one distance, in alphabets where
the cases alternate every second character. The others turn one character into several.

* `CaseRun`, `CaseRuns.map` — one-to-one mappings, written as runs.
* `CaseExpansions.find` — mappings to several characters.
-/

namespace DmlOutline.Text

/-- The characters `first`, `first + step`, …, `last`, which map to `image`, `image + step`, …. -/
structure CaseRun where
  first : Nat
  last : Nat
  step : Nat
  image : Nat

/-- Whether a code point belongs to a run. -/
def CaseRun.has (run : CaseRun) (n : Nat) : Bool :=
  run.first ≤ n && n ≤ run.last && (n - run.first) % run.step == 0

/-- A one-to-one case mapping; characters of no run stay as they are. -/
abbrev CaseRuns := List CaseRun

/-- The image of a character. -/
def CaseRuns.map (runs : CaseRuns) (c : Char) : Char :=
  match runs.find? (·.has c.toNat) with
  | some run => Char.ofNat (run.image + (c.toNat - run.first))
  | none => c

/-- The characters that map to several. -/
abbrev CaseExpansions := List (Nat × List Nat)

/-- The characters that one maps to, if they are several. -/
def CaseExpansions.find (table : CaseExpansions) (c : Char) : Option (List Char) :=
  (table.lookup c.toNat).map (·.map Char.ofNat)

end DmlOutline.Text
