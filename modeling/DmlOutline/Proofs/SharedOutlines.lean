import DmlOutline.Proofs.BatchTurns
import DmlOutline.Proofs.CaselessNames
import DmlOutline.Proofs.OutlineText

/-!
# Outlines that requests share

A batch keeps the outline of a source in the place of the name that the source bears. A request for
one source keeps it in the place of the name that was asked for. The two are the same place when the
names have the same base, and then what one of them has outlined is known to the other. Where the
names differ in case, they are not.

* `Outliner.withCapital`, `Outliner.withStray` — small disks on which the two differ.

Principal results: `Outliner.outlineNamed_outlined`: what the record of a source in a batch means;
`Outliner.outlineBatch_shared`.
-/

namespace DmlOutline

open Disk

variable {disk next : Disk} {name : String} {outliner : Outliner} {scope : Scope}
  {record : SourceRecord}

namespace Outliner

/-! ## A source of a batch -/

/-- A source of a batch that has a record was found and read, and it was outlined if it was not yet.
The record says whether it has an outline then. -/
theorem outlineNamed_eq_some
    (h : disk.run (outliner.outlineNamed scope name) = (.ok (some record), next)) :
    ∃ source found, disk.run (outliner.store.findSource scope (name ++ ".sql")) =
        (.ok (some source), disk) ∧
      disk.run (outliner.store.recordOf source) = (.ok found, disk) ∧
      record = { found with
        outlined := some (next.kind? (outliner.store.outlinePath scope found.fileName) =
          some .file) } ∧
      (next = disk ∨
        disk.kind? (outliner.store.outlinePath scope found.fileName) ≠ some .file ∧
        next = (disk.run (outliner.outlineSource source
          (outliner.store.outlinePath scope found.fileName))).2) := by
  rw [run_outlineNamed] at h
  cases hlocated : outliner.store.located? scope disk (name ++ ".sql") with
  | none =>
    rw [hlocated] at h
    cases h
  | some pair =>
    obtain ⟨source, found⟩ := pair
    rw [hlocated] at h
    cases h
    obtain ⟨hfind, hrecord⟩ := Store.located?_eq_some_iff.mp hlocated
    refine ⟨source, found, hfind, hrecord, rfl, ?_⟩
    simp only [afterTurn]
    split
    · exact .inl rfl
    · rename_i hunknown
      exact .inr ⟨hunknown, rfl⟩

/-- **A record that says that there is an outline is right.** The outline was there before, or it is
that of the text in the record. -/
theorem outlineNamed_outlined (hnamed : outliner.store.SourcesNamed scope disk)
    (hdir : disk.kind? (outliner.store.outlineFolder scope) = some .directory)
    (h : disk.run (outliner.outlineNamed scope name) = (.ok (some record), next))
    (hdone : record.outlined = some true) :
    isSegment record.fileName = true ∧ Store.sameName (name ++ ".sql") record.fileName = true ∧
      ∃ content, next.read (outliner.store.outlinePath scope record.fileName) = .ok content ∧
        (disk.fileAt (disk.goal (outliner.store.outlinePath scope record.fileName)) =
            some content ∨
          disk.fileAt (disk.goal (outliner.store.outlinePath scope record.fileName)) = none ∧
          ∃ tree, outliner.frontEnd.parse record.content = .ok tree ∧
            content = tree.outline.write.toUTF8) := by
  obtain ⟨source, found, hfind, hrecord, rfl, hnext⟩ := outlineNamed_eq_some h
  obtain ⟨-, -, category, -, stored, -, rfl, hstored, -, hsame⟩ :=
    Store.findSource_eq_ok hnamed hfind
  obtain ⟨-, text, htext, rfl⟩ := Store.recordOf_eq_ok hstored hrecord
  have hbears : (SourceRecord.ofContent stored text).fileName = stored := rfl
  simp only [hbears, Option.some.injEq, decide_eq_true_eq] at hdone hnext ⊢
  have hsegment := Store.isSegment_of_sameName (Store.isSegment_of_findSource hfind) hstored hsame
  obtain ⟨content, hread⟩ := kind?_eq_file_iff.mp hdone
  refine ⟨hsegment, hsame, content, hread, ?_⟩
  rcases hnext with rfl | ⟨hunknown, rfl⟩
  · exact .inl (read_eq_ok_iff.mp hread).2
  · rcases outlineSource_cases hstored hdir (outliner.store.folder scope category / stored) with
      ⟨bytes, last, hdraft, hreplace, -, hlast⟩ | ⟨-, -, hkept⟩
    · obtain ⟨again, tree, hagain, htree, rfl⟩ := draft?_eq_some_iff.mp hdraft
      rw [hlast, read_of_replace hreplace] at hread
      rw [htext] at hagain
      cases hagain
      cases hread
      exact .inr ⟨fileAt_of_replace hreplace hunknown, tree, htree, rfl⟩
    · rw [hkept] at hread
      exact .inl (read_eq_ok_iff.mp hread).2

/-! ## What is shared -/

/-- Where there is an outline, a source need not be outlined. -/
theorem run_outlineOnce_of_known (hname : isSegment name = true)
    (hkind : disk.kind? (outliner.store.outlinePath scope name) = some .file) :
    disk.run (outliner.outlineOnce scope name) =
      (.ok (.known (outliner.store.outlinePath scope name)), disk) := by
  obtain ⟨segment, rfl⟩ : ∃ segment : Segment, segment.text = name := ⟨⟨name, hname⟩, rfl⟩
  rw [outlineOnce, run_bind, run_ofResult, Store.ofFileName_text]
  simp only [run_bind, run_isFile, hkind, decide_true, if_true, run_pure]

/-- **A batch and single requests share their outlines.** When a batch of one name says that there is
an outline, it is known for every name with the base of the one in the record, and it is what is
loaded for that name. The name in the record is that of the source: it is the one that was asked for
but for case. The outline was there before, or it is that of the text in the record. -/
theorem outlineBatch_shared {records : List SourceRecord}
    (hnamed : outliner.store.SourcesNamed scope disk)
    (h : disk.run (outliner.outlineBatch scope [name]) = (.ok records, next))
    (hmem : record ∈ records) (hdone : record.outlined = some true) :
    isSegment record.fileName = true ∧ Store.sameName (name ++ ".sql") record.fileName = true ∧
      ∃ content,
        (∀ asked, isSegment asked = true →
          FileName.base asked = FileName.base record.fileName →
          (∀ frontEnd, next.run (outlineOnce ⟨outliner.store, frontEnd⟩ scope asked) =
              (.ok (.known (outliner.store.outlinePath scope record.fileName)), next)) ∧
            next.run (outliner.store.loadOutline scope asked) =
              ((Store.outlineOf content).map some, next)) ∧
        (disk.fileAt (disk.goal (outliner.store.outlinePath scope record.fileName)) =
            some content ∨
          disk.fileAt (disk.goal (outliner.store.outlinePath scope record.fileName)) = none ∧
          ∃ tree, outliner.frontEnd.parse record.content = .ok tree ∧
            content = tree.outline.write.toUTF8 ∧
            ((∀ event ∈ tree.outline.walk, event.line < UInt32.size) →
              tree.outline.height ≤ Outline.maxHeight →
              Store.outlineOf content = .ok tree.outline)) := by
  rw [outlineBatch, run_bind_eq_ok] at h
  obtain ⟨value, provided, hprovide, h⟩ := h
  have hwidens := Store.provideDir_widens disk (outliner.store.outlineFolder scope)
  rw [hprovide] at hwidens
  have hprovided := hnamed.widens hwidens
  have hdir := Store.kind?_of_provideDir (Store.isName_folderName .outlines) hprovide
  rw [outlineNames, run_bind_eq_ok] at h
  obtain ⟨found, last, hrecord, h⟩ := h
  simp only [outlineNames, run_bind, run_pure, List.append_nil, Prod.mk.injEq,
    Except.ok.injEq] at h
  obtain ⟨rfl, rfl⟩ := h
  rw [Option.mem_toList] at hmem
  rw [hmem] at hrecord
  obtain ⟨hsegment, hsame, content, hread, horigin⟩ :=
    outlineNamed_outlined hprovided hdir hrecord hdone
  refine ⟨hsegment, hsame, content, ?_, ?_⟩
  · intro asked hasked hbase
    have hplace : outliner.store.outlinePath scope asked =
        outliner.store.outlinePath scope record.fileName := by
      rw [Store.outlinePath, hbase, Store.outlinePath]
    rw [← hplace] at hread ⊢
    have hkind := kind?_eq_file_iff.mpr ⟨content, hread⟩
    exact ⟨fun frontEnd => run_outlineOnce_of_known hasked hkind,
      Store.run_loadOutline_of_read hread⟩
  · rw [hwidens.goal, hwidens.fileAt] at horigin
    rcases horigin with hbefore | ⟨hfree, tree, htree, rfl⟩
    · exact .inl hbefore
    · refine .inr ⟨hfree, tree, htree, rfl, ?_⟩
      intro hlines hheight
      have hread := Outline.read?_write hlines
      rw [if_pos hheight] at hread
      rw [Store.outlineOf_toUTF8, hread]

/-! ### A source whose name is asked for in another case -/

/-- A disk with a source `A.sql` in the scope `s`. -/
def withCapital : Disk :=
  inBase.after plainScope emptyBase [.add "A.sql" "SELECT".toUTF8]

theorem sourcesNamed_withCapital : inBase.store.SourcesNamed plainScope withCapital :=
  (coherent_after (vacant_of_find find_emptyBase) plainScope _).named

/-- The record of the source once it is outlined. -/
def capitalRecord : SourceRecord where
  fileName := "A.sql"
  content := "SELECT"
  unitName := none
  sourceType := .plsql
  outlined := some true

theorem run_outlineBatch_withCapital :
    ∃ next, withCapital.run (inBase.outlineBatch plainScope ["a"]) =
      (.ok [capitalRecord], next) :=
  ⟨_, run_eq_ok_of_toOption (by decide +kernel)⟩

/-- A source that was outlined in a batch is known under its own name, and its outline is loaded. -/
theorem outlineBatch_shared_capital :
    ∃ next tree, withCapital.run (inBase.outlineBatch plainScope ["a"]) =
        (.ok [capitalRecord], next) ∧
      FrontEnd.dml.parse "SELECT" = .ok tree ∧
      next.run (inBase.outlineOnce plainScope "A.sql") =
        (.ok (.known ⟨"base/s/analysis/A.json"⟩), next) ∧
      next.run (inBase.store.loadOutline plainScope "A.sql") = (.ok (some tree.outline), next) := by
  obtain ⟨next, hrun⟩ := run_outlineBatch_withCapital
  obtain ⟨-, -, content, hall, horigin⟩ :=
    outlineBatch_shared sourcesNamed_withCapital hrun List.mem_cons_self rfl
  obtain ⟨honce, hload⟩ := hall "A.sql" (by decide) rfl
  rcases horigin with hbefore | ⟨-, tree, htree, -, houtline⟩
  · have hfree : (withCapital.fileAt (withCapital.goal
        (inBase.store.outlinePath plainScope "A.sql"))).isNone = true := by decide +kernel
    have hheld : withCapital.fileAt (withCapital.goal
        (inBase.store.outlinePath plainScope "A.sql")) = some content := hbefore
    rw [hheld] at hfree
    cases hfree
  · have hparse : FrontEnd.dml.parse "SELECT" = .ok tree := htree
    have hlow : (FrontEnd.dml.parse "SELECT").toOption.all (fun tree =>
        decide ((∀ event ∈ tree.outline.walk, event.line < UInt32.size) ∧
          tree.outline.height ≤ Outline.maxHeight)) = true := by decide +kernel
    rw [hparse] at hlow
    obtain ⟨hlines, hheight⟩ := of_decide_eq_true hlow
    refine ⟨next, tree, hrun, hparse, honce inBase.frontEnd, ?_⟩
    rw [hload, houtline hlines hheight]
    rfl

/-- A disk with a source in the scope `s` and a file that holds no outline in the place of its
outline. -/
def withStray : Disk where
  root := .directory [("base", .directory [("s", .directory
    [("src", .directory [("a.sql", .file "SELECT".toUTF8)]),
      ("analysis", .directory [("a.json", .file "x".toUTF8)])])])]
  here := []

theorem sourcesNamed_withStray : inBase.store.SourcesNamed plainScope withStray := by
  refine (filesNamed_of_named ?_).sourcesNamed _ _
  simp only [withStray, FileTree.Named, FileTree.EntriesNamed, FileTree.EntryNamed]
  decide

/-- **An outline of a batch need not be known, or loaded, for the name that was asked for.** In
another case that name has another place. In the same case what is in its place need not be an
outline. -/
theorem outlineBatch_not_shared :
    (¬ ∀ (outliner : Outliner) (scope : Scope) (name : String) (disk next : Disk)
        (record : SourceRecord), outliner.store.SourcesNamed scope disk →
        disk.run (outliner.outlineBatch scope [name]) = (.ok [record], next) →
        record.outlined = some true →
        ∃ path, next.run (outliner.outlineOnce scope (name ++ ".sql")) =
          (.ok (.known path), next)) ∧
      ¬ ∀ (outliner : Outliner) (scope : Scope) (name : String) (disk next : Disk)
        (record : SourceRecord), outliner.store.SourcesNamed scope disk →
        disk.run (outliner.outlineBatch scope [name]) = (.ok [record], next) →
        record.outlined = some true → record.fileName = name ++ ".sql" →
        ∃ outline, next.run (outliner.store.loadOutline scope (name ++ ".sql")) =
          (.ok (some outline), next) := by
  constructor
  · intro hall
    obtain ⟨path, hknown⟩ := hall inBase plainScope "a" withCapital _ capitalRecord
      sourcesNamed_withCapital (run_eq_ok_of_toOption (by decide +kernel)) rfl
    have htaken : some (Outcome.taken ⟨"base/s/analysis/a.json"⟩ 1) = some (.known path) :=
      .trans (by decide +kernel) (congrArg (fun result => result.1.toOption) hknown)
    cases htaken
  · intro hall
    obtain ⟨outline, hloaded⟩ := hall inBase plainScope "a" withStray _
      { capitalRecord with fileName := "a.sql" } sourcesNamed_withStray
      (run_eq_ok_of_toOption (by decide +kernel)) rfl rfl
    have hnone : false = true :=
      .trans (by decide +kernel) (congrArg (fun result => result.1.isOk) hloaded)
    cases hnone

end Outliner

end DmlOutline
