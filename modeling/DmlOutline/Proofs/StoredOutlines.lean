import DmlOutline.Proofs.OutlineCache
import DmlOutline.Proofs.OutlineText
import DmlOutline.Proofs.ScanComplete

/-!
# Outlines that are loaded

An outline that was stored is loaded again, but for one limit: the reader of a text nests only so
far, while a writer goes down to any level. So an outline that is too high is stored and can never be
loaded.

* `Outliner.nesting` — a front end that finds queries inside each other in every text.

Principal results: `Store.run_loadOutline_of_replace`, `Outliner.outlineAnew_loaded`,
`Outline.read?_write_of_height`.
-/

namespace DmlOutline

open Disk

variable {disk next : Disk} {name : String}

/-- What is loaded after an outline was stored is what a reader makes of its text. -/
theorem Store.run_loadOutline_of_replace {store : Store} {scope : Scope} {outline : Outline}
    (h : disk.replace (store.outlinePath scope name) outline.write.toUTF8 = .ok next) :
    next.run (store.loadOutline scope name) =
      (match Outline.read? outline.write with
        | none => .error .json
        | some found => .ok (some found), next) := by
  rw [run_loadOutline_of_read (read_of_replace h), outlineOf_toUTF8]
  cases Outline.read? outline.write <;> rfl

namespace Outliner

variable {outliner : Outliner} {scope : Scope} {outcome : Outcome}

/-- **A source that was outlined anew has the outline of its events, and that is loaded unless it is
too high.** The outline has a statement for each that is entered, and that is how many were
reported. -/
theorem outlineAnew_loaded (h : disk.run (outliner.outlineAnew scope name) = (.ok outcome, next)) :
    ∃ source content text events tree,
      next.run (outliner.store.findSource scope name) = (.ok (some source), next) ∧
      disk.fileAt (disk.goal source) = some content ∧
      outliner.store.decoder.decode? content = some text ∧
      outliner.frontEnd.events text = .ok events ∧ Tree.ofEvents events = .ok tree ∧
      outcome = .taken (outliner.store.outlinePath scope name) (Event.enters events) ∧
      tree.outline.statementCount = Event.enters events ∧
      ((∀ event ∈ events, event.line < UInt32.size) →
        next.run (outliner.store.loadOutline scope name) =
          (if tree.outline.height ≤ Outline.maxHeight then .ok (some tree.outline)
            else .error .json, next)) := by
  obtain ⟨provided, source, content, text, tree, hname, hprovide, hfind, hread, hdecode, htree, rfl,
    hreplace⟩ := outlineAnew_eq_taken h
  have hwidens := Store.provideDir_widens disk (outliner.store.outlineFolder scope)
  rw [hprovide] at hwidens
  have hdir := Store.kind?_of_provideDir (Store.isName_folderName .outlines) hprovide
  have hcontent : disk.fileAt (disk.goal source) = some content := by
    rw [← hwidens.fileAt, ← hwidens.goal]
    exact (read_eq_ok_iff.mp hread).2
  obtain ⟨events, hevents, hbuilt⟩ := FrontEnd.parse_eq_ok htree
  obtain ⟨hcount, hsize⟩ := Tree.statementCount_outline hbuilt
  refine ⟨source, content, text, events, tree, run_findSource_of_replace hname hdir hreplace hfind,
    hcontent, hdecode, hevents, hbuilt, by rw [hsize], hcount, ?_⟩
  intro hlines
  rw [Store.run_loadOutline_of_replace hreplace, Tree.read?_write_outline hbuilt hlines]
  by_cases hheight : tree.outline.height ≤ Outline.maxHeight
  · rw [if_pos hheight, if_pos hheight]
  · rw [if_neg hheight, if_neg hheight]

/-! ### Queries inside each other -/

/-- A query with others inside each other in it. -/
def nestedQueries : Nat → Outline
  | 0 => .node .select 1 1 []
  | levels + 1 => .node .select 1 1 [nestedQueries levels]

theorem height_nestedQueries : (levels : Nat) → (nestedQueries levels).height = levels
  | 0 => rfl
  | levels + 1 => by
    rw [nestedQueries, Outline.height, Outline.partsHeight, Outline.partsHeight,
      height_nestedQueries levels]
    omega

theorem proper_nestedQueries : (levels : Nat) → (nestedQueries levels).Proper
  | 0 => ⟨by decide, Nat.le_refl 1, trivial⟩
  | levels + 1 => ⟨by decide, Nat.le_refl 1, proper_nestedQueries levels, trivial⟩

/-- The root adds a level to the queries. -/
theorem height_outline_nestedQueries {levels : Nat} {tree : Tree}
    (h : Tree.ofEvents (Outline.partsWalk [nestedQueries levels]) = .ok tree) :
    tree.outline.height = levels + 1 := by
  have hproper : Outline.PartsProper [nestedQueries levels] :=
    ⟨proper_nestedQueries levels, trivial⟩
  rw [Tree.ofEvents_partsWalk hproper] at h
  cases h
  rw [Tree.outline_ofParts, Outline.height, Outline.partsHeight, Outline.partsHeight,
    height_nestedQueries levels]
  omega

/-- An outliner that finds queries inside each other in every text. -/
def nesting (levels : Nat) : Outliner where
  store := inBase.store
  frontEnd := {
    name := "nesting"
    events := fun _ => .ok (Outline.partsWalk [nestedQueries levels])
  }

/-- A single query is loaded again. -/
theorem outlineAnew_loaded_query :
    ∃ next tree, Tree.ofEvents (Outline.partsWalk [nestedQueries 0]) = .ok tree ∧
      ((nesting 0).after plainScope emptyBase [.add "a.sql" "".toUTF8]).run
        ((nesting 0).outlineAnew plainScope "a.sql") =
          (.ok (.taken ⟨"base/s/analysis/a.json"⟩ 1), next) ∧
      next.run ((nesting 0).store.loadOutline plainScope "a.sql") =
        (.ok (some tree.outline), next) := by
  have hrun : ((nesting 0).after plainScope emptyBase [.add "a.sql" "".toUTF8]).run
      ((nesting 0).outlineAnew plainScope "a.sql") =
        (.ok (.taken ⟨"base/s/analysis/a.json"⟩ 1), _) := run_eq_ok_of_toOption (by decide +kernel)
  obtain ⟨_, _, _, events, tree, -, -, -, hevents, htree, -, -, hload⟩ := outlineAnew_loaded hrun
  cases hevents
  have hloaded := hload (by decide)
  rw [height_outline_nestedQueries htree, if_pos (by decide)] at hloaded
  exact ⟨_, tree, htree, hrun, hloaded⟩

/-- **An outline that was stored need not be loaded again.** With sixty-three levels of queries it is
refused. -/
theorem outlineAnew_not_loaded :
    ¬ ∀ (outliner : Outliner) (scope : Scope) (name : String) (disk next : Disk)
      (outcome : Outcome), disk.run (outliner.outlineAnew scope name) = (.ok outcome, next) →
      ∃ outline, next.run (outliner.store.loadOutline scope name) = (.ok (some outline), next) := by
  intro hall
  have hrun : ((nesting 62).after plainScope emptyBase [.add "a.sql" "".toUTF8]).run
      ((nesting 62).outlineAnew plainScope "a.sql") =
        (.ok (.taken ⟨"base/s/analysis/a.json"⟩ 63), _) := run_eq_ok_of_toOption (by decide +kernel)
  obtain ⟨outline, hloaded⟩ := hall _ _ _ _ _ _ hrun
  obtain ⟨_, _, _, _, tree, _, _, _, _, _, htree, _, hreplace⟩ := outlineAnew_eq_taken hrun
  obtain ⟨events, hevents, hbuilt⟩ := FrontEnd.parse_eq_ok htree
  cases hevents
  have hread := Tree.read?_write_outline hbuilt (by decide +kernel)
  rw [height_outline_nestedQueries hbuilt, if_neg (by decide)] at hread
  rw [Store.run_loadOutline_of_replace hreplace, hread] at hloaded
  cases hloaded

theorem line_of_mem_walk_nestedQueries : (levels : Nat) →
    ∀ event ∈ (nestedQueries levels).walk, event.line = 1
  | 0 => by
    intro event hevent
    simp only [nestedQueries, Outline.walk, Outline.partsWalk, List.nil_append, List.cons_append,
      List.mem_cons, List.not_mem_nil, or_false] at hevent
    rcases hevent with rfl | rfl <;> rfl
  | levels + 1 => by
    intro event hevent
    have hinside := line_of_mem_walk_nestedQueries levels event
    simp only [nestedQueries, Outline.walk, Outline.partsWalk, List.append_nil, List.cons_append,
      List.mem_cons, List.mem_append, List.not_mem_nil, or_false] at hevent
    rcases hevent with rfl | hevent | rfl
    · rfl
    · exact hinside hevent
    · rfl

end Outliner

/-! ## Outlines and their texts -/

namespace Outline

/-- **The text of an outline gives back the outline, up to sixty-two levels of statements below the
top, and nothing beyond.** What is given back has the same text again. -/
theorem read?_write_of_height (outline : Outline)
    (hlines : ∀ event ∈ outline.walk, event.line < UInt32.size) :
    (outline.height ≤ 62 → read? outline.write = some outline ∧
      (read? outline.write).map write = some outline.write) ∧
      (63 ≤ outline.height → read? outline.write = none) := by
  have hread := read?_write hlines
  constructor
  · intro hheight
    have hlow : outline.height ≤ maxHeight := hheight
    rw [if_pos hlow] at hread
    exact ⟨hread, by rw [hread, Option.map_some]⟩
  · intro hheight
    have hhigh : ¬outline.height ≤ maxHeight := Nat.not_le.mpr hheight
    rw [if_neg hhigh] at hread
    exact hread

/-- Sixty-two levels of queries are read back, and sixty-three are not. -/
theorem read?_write_of_height_queries :
    (∀ levels, ∀ event ∈ (Outliner.nestedQueries levels).walk, event.line < UInt32.size) ∧
      read? (Outliner.nestedQueries 62).write = some (Outliner.nestedQueries 62) ∧
      read? (Outliner.nestedQueries 63).write = none := by
  have hlines : ∀ levels, ∀ event ∈ (Outliner.nestedQueries levels).walk,
      event.line < UInt32.size := by
    intro levels event hevent
    rw [Outliner.line_of_mem_walk_nestedQueries levels event hevent]
    decide
  have hlow := (read?_write_of_height _ (hlines 62)).1
  have hhigh := (read?_write_of_height _ (hlines 63)).2
  rw [Outliner.height_nestedQueries] at hlow hhigh
  exact ⟨hlines, (hlow (by decide)).1, hhigh (by decide)⟩

end Outline

end DmlOutline
