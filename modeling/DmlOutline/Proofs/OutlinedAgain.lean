import DmlOutline.Proofs.BatchTurns
import DmlOutline.Proofs.DirectoriesRefused
import DmlOutline.Proofs.PlainSources

/-!
# Outlining again

To outline sources again changes nothing. A batch leaves alone what it has outlined, and what it
could not outline it cannot outline later, since neither the sources nor the places of outlines that
are refused have changed. A run over all plain sources writes all outlines again, in the same order
and so with the same last one in each place.

Principal results: `Outliner.outlineNames_again`, `Outliner.outlineAll_again`: one request of each
kind; `Outliner.outlined_again`.
-/

namespace DmlOutline

open Disk

variable {disk next later provided : Disk} {name : String} {names : List String} {scope : Scope}
  {outliner : Outliner}

namespace Outliner

/-! ## Batches -/

/-- What a turn has done it does not do again, as long as sources are kept. -/
theorem afterTurn_again {found : Path × SourceRecord}
    (hnamed : outliner.store.SourcesNamed scope disk)
    (hdir : disk.kind? (outliner.store.outlineFolder scope) = some .directory)
    (hlocated : outliner.store.located? scope disk name = some found)
    (h : outliner.store.KeepsSources scope (outliner.afterTurn scope disk (some found)) later) :
    outliner.afterTurn scope later (some found) = later := by
  obtain ⟨source, record⟩ := found
  obtain ⟨hfind, hrecord⟩ := Store.located?_eq_some_iff.mp hlocated
  obtain ⟨-, hsource⟩ := isSource_of_findSource hnamed hfind
  obtain ⟨hname, hbears⟩ := isSource_of_recordOf hsource hrecord
  simp only [afterTurn] at h ⊢
  split
  · rfl
  · rename_i hunknown
    rw [if_neg] at h
    · rcases outlineSource_cases hname hdir source with
        ⟨bytes, stored, -, hreplace, -, hstored⟩ | ⟨hrefused, -, hsame⟩
      · rw [hstored] at h
        have hkind := kind?_eq_file_iff.mpr ⟨bytes, read_of_replace hreplace⟩
        exact absurd (h.kind?_file hkind) hunknown
      · -- neither the source nor the place has changed
        rw [hsame] at h
        have hlater := h.grows.kind?_directory hdir
        have hdraft : outliner.draft? later source = outliner.draft? disk source := by
          rw [draft?, draft?, h.read_source hdir hbears]
        rcases outlineSource_cases hname hlater source with
          ⟨bytes, stored, hsome, hreplace, -, -⟩ | ⟨-, -, hkept⟩
        · rcases hrefused with hnone | hnot
          · rw [hdraft, hnone] at hsome
            cases hsome
          · have haccepts := (Store.exists_replace_iff hname hlater bytes).mp ⟨stored, hreplace⟩
            exact absurd (h.accepts_iff.mp haccepts) hnot
        · exact hkept
    · intro hknown
      rw [if_pos hknown] at h
      exact hunknown (h.kind?_file hknown)

theorem outlineNamed_again (hnamed : outliner.store.SourcesNamed scope disk)
    (hdir : disk.kind? (outliner.store.outlineFolder scope) = some .directory)
    (h : outliner.store.KeepsSources scope (disk.run (outliner.outlineNamed scope name)).2 later) :
    (later.run (outliner.outlineNamed scope name)).2 = later := by
  have hkept := (keepsSources_outlineNamed hnamed hdir name).trans h
  have hturn : ∀ disk : Disk, (disk.run (outliner.outlineNamed scope name)).2 =
      outliner.afterTurn scope disk (outliner.store.located? scope disk (name ++ ".sql")) :=
    fun disk => by rw [run_outlineNamed]
  rw [hturn] at h ⊢
  rw [hkept.located?_eq hdir hnamed]
  cases hlocated : outliner.store.located? scope disk (name ++ ".sql") with
  | none => simp only [afterTurn]
  | some found =>
    rw [hlocated] at h
    exact afterTurn_again hnamed hdir hlocated h

/-- The disk after names in turn. -/
theorem disk_outlineNames_cons (disk : Disk) (outliner : Outliner) (scope : Scope) (name : String)
    (rest : List String) : (disk.run (outliner.outlineNames scope (name :: rest))).2 =
      ((disk.run (outliner.outlineNamed scope name)).2.run (outliner.outlineNames scope rest)).2 := by
  rw [outlineNames, run_bind, run_outlineNamed]
  simp only [run_bind]
  obtain ⟨records, hrest⟩ := run_outlineNames (outliner.afterTurn scope disk
    (outliner.store.located? scope disk (name ++ ".sql"))) outliner scope rest
  rw [hrest]
  rfl

/-- **Names in turn change nothing again.** -/
theorem outlineNames_again (hnamed : outliner.store.SourcesNamed scope disk)
    (hdir : disk.kind? (outliner.store.outlineFolder scope) = some .directory)
    (h : outliner.store.KeepsSources scope
      (disk.run (outliner.outlineNames scope names)).2 later) :
    (later.run (outliner.outlineNames scope names)).2 = later := by
  induction names generalizing disk with
  | nil => rfl
  | cons name rest ih =>
    have hfirst := keepsSources_outlineNamed hnamed hdir name
    have hnamed' := hfirst.sourcesNamed hnamed
    have hdir' := hfirst.grows.kind?_directory hdir
    rw [disk_outlineNames_cons] at h ⊢
    rw [outlineNamed_again hnamed hdir ((keepsSources_outlineNames hnamed' hdir' rest).trans h)]
    exact ih hnamed' hdir' h

/-- **A batch changes nothing again.** Where its directory cannot be made, it cannot be made later
either. -/
theorem outlineBatch_again (hnamed : outliner.store.SourcesNamed scope disk)
    (names : List String) :
    ((disk.run (outliner.outlineBatch scope names)).2.run (outliner.outlineBatch scope names)).2 =
      (disk.run (outliner.outlineBatch scope names)).2 := by
  cases hprovide : disk.run (Store.provideDir (outliner.store.outlineFolder scope)) with
  | mk result provided =>
    cases result with
    | error error =>
      obtain ⟨again, hagain⟩ := Store.provideDir_again hprovide
      have hfirst : disk.run (outliner.outlineBatch scope names) = (.error error, provided) := by
        rw [outlineBatch, run_bind, hprovide]
      rw [hfirst, outlineBatch, run_bind, hagain]
    | ok value =>
      have hprovided := hnamed.widens (Store.widens_of_provideDir hprovide)
      have hdir := Store.kind?_of_provideDir (Store.isName_folderName .outlines) hprovide
      have hfirst : disk.run (outliner.outlineBatch scope names) =
          provided.run (outliner.outlineNames scope names) := by
        rw [outlineBatch, run_bind, hprovide]
      have hkept := keepsSources_outlineNames hprovided hdir names
      rw [hfirst, run_outlineBatch_of_directory (hkept.grows.kind?_directory hdir)]
      exact outlineNames_again hprovided hdir (.refl _ _ _)

/-! ## All plain sources -/

/-- Beside a directory of sources that of outlines is made at once, or not at all. -/
theorem disk_provideDir_of_error {error : Error}
    (hsource : disk.kind? (outliner.store.folder scope .source) = some .directory)
    (h : disk.run (Store.provideDir (outliner.store.outlineFolder scope)) =
      (.error error, next)) : next = disk := by
  have hroot : disk.kind? (outliner.store.scopeRoot scope) = some .directory :=
    kind?_of_join (Store.isName_folderName .source) (Store.text_scopeRoot_ne_empty _ scope)
      (hsource ▸ Option.some_ne_none _)
  have hname := Store.isName_folderName .outlines
  obtain ⟨outer, houter⟩ := exists_ancestors (outliner.store.outlineFolder scope)
  have hempty : (outliner.store.outlineFolder scope).text ≠ "" :=
    Path.text_join_ne_empty _ hname
  rw [Store.run_provideDir, makeDirs, houter] at h
  split at h
  · cases h
  · cases hmake : disk.makeDir (outliner.store.outlineFolder scope) with
    | ok made =>
      rw [makeFirst_of_made hempty hmake] at h
      cases h
    | error cause =>
      have hcause : cause ≠ .notFound := by
        rintro rfl
        exact makeDir_ne_notFound hroot hname hmake
      rw [makeFirst_of_refused hempty hcause hmake] at h
      split at h
      · cases h
      · cases h
        rfl

/-- **A run over all plain sources gives the same again, and leaves the same files.** -/
theorem outlineAll_again {result : Except Error (List SourceRecord)}
    (hnamed : outliner.store.SourcesNamed scope disk)
    (hrun : disk.run (outliner.outlineAll scope) = (result, next)) :
    (next.run (outliner.outlineAll scope)).1 = result ∧
      next.root.Same (next.run (outliner.outlineAll scope)).2.root := by
  have hunchanged : next = disk → (next.run (outliner.outlineAll scope)).1 = result ∧
      next.root.Same (next.run (outliner.outlineAll scope)).2.root := by
    rintro rfl
    rw [hrun]
    exact ⟨rfl, .refl _⟩
  by_cases hsource : disk.kind? (outliner.store.folder scope .source) = some .directory
  · cases hprovide : disk.run (Store.provideDir (outliner.store.outlineFolder scope)) with
    | mk made provided =>
      cases made with
      | error error =>
        refine hunchanged ?_
        obtain rfl := disk_provideDir_of_error hsource hprovide
        simp only [outlineAll, run_bind, run_isDirectory, hsource, decide_true, if_true, hprovide]
          at hrun
        exact (congrArg Prod.snd hrun).symm
      | ok value =>
        have hwidens := Store.widens_of_provideDir hprovide
        have hprovided := hnamed.widens hwidens
        have hdir := Store.kind?_of_provideDir (Store.isName_folderName .outlines) hprovide
        have hthere := hwidens.kind?_directory hsource
        rw [run_outlineAll_of_provided hsource hprovide] at hrun
        obtain ⟨hfirst, hkept, hfiles⟩ :=
          outlineAll_in_turn hprovided hthere hdir (.refl _ _ provided) hrun
        obtain ⟨hagain, hkept', hfiles'⟩ := outlineAll_in_turn hprovided hthere hdir hkept rfl
        refine ⟨hagain.trans hfirst.symm, fun place => ?_, fun place => ?_⟩
        · -- each place that is written was last written with the same
          have hboth := (hfiles' place).trans (congrArg _ (hfiles place))
          rw [← Option.or_assoc, Option.or_self] at hboth
          exact (hfiles place).trans hboth.symm
        · exact (hkept.dirAt_iff place).trans (hkept'.dirAt_iff place).symm
  · refine hunchanged ?_
    simp only [outlineAll, run_bind, run_isDirectory, hsource, decide_false, Bool.false_eq_true,
      if_false, run_throw] at hrun
    exact (congrArg Prod.snd hrun).symm

/-- **To outline again changes nothing.** A batch leaves the disk as it left it before; a run over
all plain sources gives the same records, or fails in the same way, and leaves the same files in the
same directories. -/
theorem outlined_again (hnamed : outliner.store.SourcesNamed scope disk) :
    (∀ names once, (disk.run (outliner.outlineBatch scope names)).2 = once →
      (once.run (outliner.outlineBatch scope names)).2 = once) ∧
    ∀ result once, disk.run (outliner.outlineAll scope) = (result, once) →
      (once.run (outliner.outlineAll scope)).1 = result ∧
        once.root.Same (once.run (outliner.outlineAll scope)).2.root := by
  refine ⟨?_, fun result once hrun => outlineAll_again hnamed hrun⟩
  rintro names once rfl
  exact outlineBatch_again hnamed names

/-- A source that is no text stops each run over all plain sources, and the batch passes it over
each time. -/
theorem outlined_again_mixed :
    (∃ once, (withMixed.run (inBase.outlineBatch plainScope ["b", "c", "a"])).2 = once ∧
      once ≠ withMixed ∧
      (once.run (inBase.outlineBatch plainScope ["b", "c", "a"])).2 = once) ∧
    ∃ result once, withMixed.run (inBase.outlineAll plainScope) = (result, once) ∧
      (once.run (inBase.outlineAll plainScope)).1 = result ∧
      once.root.Same (once.run (inBase.outlineAll plainScope)).2.root := by
  obtain ⟨hbatch, hall⟩ := outlined_again sourcesNamed_withMixed
  refine ⟨⟨_, rfl, ?_, hbatch _ _ rfl⟩, _, _, rfl, hall _ _ rfl⟩
  intro hsame
  have hwritten : ((withMixed.run (inBase.outlineBatch plainScope ["b", "c", "a"])).2.fileAt
      ["base", "s", "analysis", "a.json"]).isSome = true := by
    decide +kernel
  rw [hsame] at hwritten
  exact absurd hwritten (by decide +kernel)

end Outliner

end DmlOutline
