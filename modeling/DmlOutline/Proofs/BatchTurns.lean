import DmlOutline.Proofs.KeptFiles
import Mathlib.Data.List.Induction

/-!
# Turns of a batch

A batch takes its names in turn, and no name makes a difference to what another one is reported as:
whatever was outlined before, a name leads to the same source, with the same record. Only the note
whether there is an outline is taken at the turn of the name. So a batch never fails once its
directory is there, and a long batch is short ones in a row.

* `Store.located?` — the source that a name means, with its record.
* `Outliner.afterTurn` — the disk after the turn of a name; `Outliner.noted` is the note then.

Principal results: `Outliner.run_outlineNamed`: one turn; `Outliner.outlineBatch_reports`: what a
batch reports.
-/

namespace DmlOutline

open Disk

variable {disk next last provided : Disk} {name : String} {names more : List String}
  {scope : Scope} {record : SourceRecord} {source : Path}

namespace Store

variable {store : Store}

/-! ## Sources that names mean -/

/-- The source that a name means with its record, if there is one and it can be read. -/
def located? (store : Store) (scope : Scope) (disk : Disk) (name : String) :
    Option (Path × SourceRecord) :=
  match (disk.run (store.findSource scope name)).1 with
  | .ok (some source) => (disk.run (store.recordOf source)).1.toOption.map (source, ·)
  | _ => none

/-- A source that a name means was found, and its record was read. -/
theorem located?_eq_some_iff :
    store.located? scope disk name = some (source, record) ↔
      disk.run (store.findSource scope name) = (.ok (some source), disk) ∧
        disk.run (store.recordOf source) = (.ok record, disk) := by
  have hfind := reads_findSource store scope name disk
  unfold located?
  cases hsearch : disk.run (store.findSource scope name) with
  | mk result same =>
    rw [hsearch] at hfind
    obtain rfl : same = disk := hfind
    match result with
    | .error error => simp
    | .ok none => simp
    | .ok (some found) =>
      simp only [Option.map_eq_some_iff, Prod.mk.injEq, exists_eq_right_right, Except.ok.injEq,
        Option.some.injEq, and_true, toOption_eq_some_iff]
      constructor
      · rintro ⟨hrecord, rfl⟩
        exact ⟨rfl, Prod.ext hrecord (reads_recordOf store found same)⟩
      · rintro ⟨rfl, hrecord⟩
        exact ⟨by rw [hrecord], rfl⟩

/-- **The same names mean the same sources, whatever was outlined.** -/
theorem KeepsSources.located?_eq (h : store.KeepsSources scope disk next)
    (hdir : disk.kind? (store.outlineFolder scope) = some .directory)
    (hnamed : store.SourcesNamed scope disk) (name : String) :
    store.located? scope next name = store.located? scope disk name := by
  obtain ⟨result, hbefore, hafter⟩ := h.agrees_findSource hdir name
  unfold located?
  rw [hbefore, hafter]
  match result with
  | .error error => rfl
  | .ok none => rfl
  | .ok (some found) =>
    obtain ⟨-, -, category, hcategory, stored, content, rfl, hstored, -, hsame⟩ :=
      findSource_eq_ok hnamed hbefore
    have hread := h.read_source hdir ⟨category, hcategory, stored, rfl, hstored, hsame⟩
    have hrecord : Agrees disk next (store.recordOf (store.folder scope category / stored)) :=
      agrees_recordOf hread.symm
    simp only [hrecord.result_eq]

end Store

namespace Outliner

variable {outliner : Outliner}

/-! ## One turn -/

/-- The disk after the turn of a name that means a source: the source is outlined, unless it has an
outline. -/
def afterTurn (outliner : Outliner) (scope : Scope) (disk : Disk) :
    Option (Path × SourceRecord) → Disk
  | none => disk
  | some (source, record) =>
    if disk.kind? (outliner.store.outlinePath scope record.fileName) = some .file then disk
    else (disk.run (outliner.outlineSource source
      (outliner.store.outlinePath scope record.fileName))).2

/-- A record with a note whether there is an outline. -/
def noted (outliner : Outliner) (scope : Scope) (disk : Disk) (record : SourceRecord) :
    SourceRecord :=
  { record with
    outlined := some (disk.kind? (outliner.store.outlinePath scope record.fileName) =
      some .file) }

/-- **At its turn a name is reported as the source that it means, with a note whether there is an
outline then.** That never fails, and other names change nothing. -/
theorem run_outlineNamed (disk : Disk) (outliner : Outliner) (scope : Scope) (name : String) :
    disk.run (outliner.outlineNamed scope name) =
      (.ok ((outliner.store.located? scope disk (name ++ ".sql")).map fun found =>
          outliner.noted scope (outliner.afterTurn scope disk (some found)) found.2),
        outliner.afterTurn scope disk (outliner.store.located? scope disk (name ++ ".sql"))) := by
  have hfind := Store.reads_findSource outliner.store scope (name ++ ".sql") disk
  unfold Store.located?
  rw [outlineNamed, run_bind, run_settle]
  cases hsearch : disk.run (outliner.store.findSource scope (name ++ ".sql")) with
  | mk result same =>
    rw [hsearch] at hfind
    obtain rfl : same = disk := hfind
    match result with
    | .error error => rfl
    | .ok none => rfl
    | .ok (some source) =>
      have hreads := Store.reads_recordOf outliner.store source same
      simp only
      rw [run_bind, run_settle]
      cases hrecord : same.run (outliner.store.recordOf source) with
      | mk result again =>
        rw [hrecord] at hreads
        obtain rfl : again = same := hreads
        cases result with
        | error error => rfl
        | ok record =>
          simp only [Except.toOption, Option.map_some]
          rw [run_bind, run_isFile]
          by_cases hknown : again.kind? (outliner.store.outlinePath scope record.fileName) =
              some .file
          · simp only [hknown, decide_true, if_true, afterTurn, noted]
            rw [run_bind, run_isFile, hknown]
            rfl
          · simp only [hknown, decide_false, Bool.false_eq_true, if_false, afterTurn, noted]
            rw [run_bind, run_settle]
            rfl

/-- A turn keeps all sources. -/
theorem keepsSources_outlineNamed (hnamed : outliner.store.SourcesNamed scope disk)
    (hdir : disk.kind? (outliner.store.outlineFolder scope) = some .directory) (name : String) :
    outliner.store.KeepsSources scope disk (disk.run (outliner.outlineNamed scope name)).2 := by
  rw [run_outlineNamed]
  cases hlocated : outliner.store.located? scope disk (name ++ ".sql") with
  | none => exact .refl _ _ _
  | some found =>
    obtain ⟨source, record⟩ := found
    obtain ⟨hfind, hrecord⟩ := Store.located?_eq_some_iff.mp hlocated
    obtain ⟨-, hsource⟩ := isSource_of_findSource hnamed hfind
    obtain ⟨hbears, -⟩ := isSource_of_recordOf hsource hrecord
    simp only [afterTurn]
    split
    · exact .refl _ _ _
    · exact keepsSources_outlineSource hbears hdir source

/-! ## Names in turn -/

/-- Names in turn never fail. -/
theorem run_outlineNames (disk : Disk) (outliner : Outliner) (scope : Scope)
    (names : List String) :
    ∃ records, disk.run (outliner.outlineNames scope names) =
      (.ok records, (disk.run (outliner.outlineNames scope names)).2) := by
  induction names generalizing disk with
  | nil => exact ⟨[], rfl⟩
  | cons name rest ih =>
    rw [outlineNames, run_bind, run_outlineNamed]
    simp only [run_bind]
    obtain ⟨records, hrest⟩ := ih (outliner.afterTurn scope disk
      (outliner.store.located? scope disk (name ++ ".sql")))
    rw [hrest]
    exact ⟨_, rfl⟩

/-- **Names in turn are shorter lists of names in a row.** -/
theorem run_outlineNames_append {front back : List SourceRecord}
    (hfront : disk.run (outliner.outlineNames scope names) = (.ok front, next))
    (hback : next.run (outliner.outlineNames scope more) = (.ok back, last)) :
    disk.run (outliner.outlineNames scope (names ++ more)) = (.ok (front ++ back), last) := by
  induction names generalizing disk front with
  | nil =>
    cases hfront
    exact hback
  | cons name rest ih =>
    rw [outlineNames, run_bind_eq_ok] at hfront
    obtain ⟨record, reached, hname, hfront⟩ := hfront
    rw [run_bind_eq_ok] at hfront
    obtain ⟨records, stopped, hrest, hfront⟩ := hfront
    cases hfront
    have hall := ih hrest
    rw [List.cons_append, outlineNames, run_bind, hname]
    simp only [run_bind, hall, run_pure, List.append_assoc]

theorem run_outlineNames_single (disk : Disk) (outliner : Outliner) (scope : Scope)
    (name : String) :
    disk.run (outliner.outlineNames scope [name]) =
      (.ok ((outliner.store.located? scope disk (name ++ ".sql")).map fun found =>
          outliner.noted scope (outliner.afterTurn scope disk (some found)) found.2).toList,
        outliner.afterTurn scope disk (outliner.store.located? scope disk (name ++ ".sql"))) := by
  simp only [outlineNames, run_bind, run_outlineNamed, run_pure, List.append_nil]

/-- The sources are the same at each turn. -/
theorem keepsSources_outlineNames (hnamed : outliner.store.SourcesNamed scope disk)
    (hdir : disk.kind? (outliner.store.outlineFolder scope) = some .directory)
    (names : List String) :
    outliner.store.KeepsSources scope disk (disk.run (outliner.outlineNames scope names)).2 := by
  induction names generalizing disk with
  | nil => exact .refl _ _ _
  | cons name rest ih =>
    have hfirst := keepsSources_outlineNamed hnamed hdir name
    unfold outlineNames
    refine run_bind_rel Store.KeepsSources.trans hfirst fun record reached hrun => ?_
    rw [hrun] at hfirst
    refine run_bind_rel Store.KeepsSources.trans ?_ fun _ _ _ => .refl _ _ _
    exact ih (hfirst.sourcesNamed hnamed) (hfirst.grows.kind?_directory hdir)

/-- What names in turn are reported as. -/
theorem outlineNames_reports (hnamed : outliner.store.SourcesNamed scope disk)
    (hdir : disk.kind? (outliner.store.outlineFolder scope) = some .directory)
    (names : List String) :
    (disk.run (outliner.outlineNames scope names)).1 =
      .ok (names.zipIdx.filterMap fun (name, turn) =>
        (outliner.store.located? scope disk (name ++ ".sql")).map fun (_, record) =>
          outliner.noted scope
            (disk.run (outliner.outlineNames scope (names.take (turn + 1)))).2 record) := by
  induction names using List.reverseRecOn with
  | nil => rfl
  | append_singleton names name ih =>
    obtain ⟨front, hfront⟩ := run_outlineNames disk outliner scope names
    have hlocated := (keepsSources_outlineNames hnamed hdir names).located?_eq hdir hnamed
    have hlast := run_outlineNames_single (disk.run (outliner.outlineNames scope names)).2
      outliner scope name
    have hall := run_outlineNames_append hfront hlast
    rw [hfront, Except.ok.injEq] at ih
    have hbefore : ∀ turn, turn < names.length →
        (names ++ [name]).take (turn + 1) = names.take (turn + 1) := fun turn hturn =>
      List.take_append_of_le_length hturn
    rw [hall, Except.ok.injEq, List.zipIdx_append, List.filterMap_append, ih]
    refine congrArg₂ (· ++ ·) ?_ ?_
    · refine List.filterMap_congr fun entry hentry => ?_
      obtain ⟨earlier, turn⟩ := entry
      have hturn : turn < names.length := by simpa using List.snd_lt_of_mem_zipIdx hentry
      simp only [hbefore turn hturn]
    · have hthis : (names ++ [name]).take (names.length + 1) = names ++ [name] :=
        List.take_of_length_le (by simp)
      simp only [List.zipIdx_singleton, Nat.zero_add, List.filterMap_cons, List.filterMap_nil,
        hthis, hall, hlocated]
      cases outliner.store.located? scope disk (name ++ ".sql") <;> rfl

/-! ## Batches -/

/-- Where the directory of outlines is there, a batch is its names in turn. -/
theorem run_outlineBatch_of_directory
    (hdir : disk.kind? (outliner.store.outlineFolder scope) = some .directory)
    (names : List String) :
    disk.run (outliner.outlineBatch scope names) =
      disk.run (outliner.outlineNames scope names) := by
  rw [outlineBatch, run_bind, Store.run_provideDir_of_directory hdir]

/-- **A batch never fails once its directory is there, and reports each name for itself.** In the
order of the names, those that mean a source that can be read are reported, each as the record of
that source, with a note whether there is an outline right after its turn: that is, after the batch
of the names up to this one. Names mean the same sources after the batch as before. A batch of some
names and then more is the first batch and then the second one. -/
theorem outlineBatch_reports (hnamed : outliner.store.SourcesNamed scope disk)
    (hprovide : disk.run (Store.provideDir (outliner.store.outlineFolder scope)) =
      (.ok (), provided)) (names : List String) :
    (disk.run (outliner.outlineBatch scope names)).1 =
        .ok (names.zipIdx.filterMap fun (name, turn) =>
          (outliner.store.located? scope provided (name ++ ".sql")).map fun (_, record) =>
            outliner.noted scope
              (disk.run (outliner.outlineBatch scope (names.take (turn + 1)))).2 record) ∧
      (∀ name, outliner.store.located? scope (disk.run (outliner.outlineBatch scope names)).2 name =
        outliner.store.located? scope provided name) ∧
      ∀ more, ∃ front back next last,
        disk.run (outliner.outlineBatch scope names) = (.ok front, next) ∧
        next.run (outliner.outlineBatch scope more) = (.ok back, last) ∧
        disk.run (outliner.outlineBatch scope (names ++ more)) = (.ok (front ++ back), last) := by
  have hwidens := Store.widens_of_provideDir hprovide
  have hprovided := hnamed.widens hwidens
  have hdir := Store.kind?_of_provideDir (Store.isName_folderName .outlines) hprovide
  have hrun : ∀ names, disk.run (outliner.outlineBatch scope names) =
      provided.run (outliner.outlineNames scope names) := by
    intro names
    rw [outlineBatch, run_bind, hprovide]
  have hkept := keepsSources_outlineNames hprovided hdir
  simp only [hrun]
  refine ⟨outlineNames_reports hprovided hdir names,
    (hkept names).located?_eq hdir hprovided, fun more => ?_⟩
  obtain ⟨front, hfront⟩ := run_outlineNames provided outliner scope names
  obtain ⟨back, hback⟩ := run_outlineNames
    (provided.run (outliner.outlineNames scope names)).2 outliner scope more
  have hlater := (hkept names).grows.kind?_directory hdir
  refine ⟨front, back, _, _, hfront, ?_, run_outlineNames_append hfront hback⟩
  rw [run_outlineBatch_of_directory hlater, hback]

/-! ### A batch of names good and bad -/

/-- A disk with a source `a.sql` in the scope `s`, a source `b.sql` that is no text, and a source
`c.sql` that has no outline. -/
def withMixed : Disk where
  root := .directory [("base", .directory [("s", .directory [("src", .directory
    [("a.sql", .file "SELECT".toUTF8), ("b.sql", .file ⟨#[255]⟩), ("c.sql", .file ")".toUTF8)])])])]
  here := []

theorem sourcesNamed_withMixed : inBase.store.SourcesNamed plainScope withMixed := by
  refine (filesNamed_of_named ?_).sourcesNamed _ _
  simp only [withMixed, FileTree.Named, FileTree.EntriesNamed, FileTree.EntryNamed]
  decide

/-- Names that are no names, that mean no text or a source without an outline, and one that is
good. -/
theorem outlineBatch_reports_mixed :
    ∃ front back next last,
      withMixed.run (inBase.outlineBatch plainScope ["c", "../a"]) = (.ok front, next) ∧
      next.run (inBase.outlineBatch plainScope ["b", "a"]) = (.ok back, last) ∧
      withMixed.run (inBase.outlineBatch plainScope ["c", "../a", "b", "a"]) =
        (.ok (front ++ back), last) ∧
      (front ++ back).map (fun record => (record.fileName, record.outlined)) =
        [("c.sql", some false), ("a.sql", some true)] := by
  have hprovide : withMixed.run
      (Store.provideDir (inBase.store.outlineFolder plainScope)) = (.ok (), _) :=
    run_eq_ok_of_toOption (by decide +kernel)
  obtain ⟨-, -, hall⟩ := outlineBatch_reports sourcesNamed_withMixed hprovide ["c", "../a"]
  obtain ⟨front, back, next, last, hfront, hback, hrun⟩ := hall ["b", "a"]
  refine ⟨front, back, next, last, hfront, hback, hrun, ?_⟩
  have hrecords : (withMixed.run (inBase.outlineBatch plainScope
      ["c", "../a", "b", "a"])).1.toOption.map
        (·.map fun record => (record.fileName, record.outlined)) =
      some [("c.sql", some false), ("a.sql", some true)] := by
    decide +kernel
  have htwice : withMixed.run (inBase.outlineBatch plainScope ["c", "../a", "b", "a"]) =
      (.ok (front ++ back), last) := hrun
  rw [htwice] at hrecords
  exact Option.some.inj hrecords

end Outliner

end DmlOutline
