import DmlOutline.Proofs.KeptSources

/-!
# Plain sources in turn

All `.sql` files among the plain sources of a scope are outlined in the order of their names. What
the turn of each of them writes is known before the first one: it depends on the source and on what
is in the place of its outline, and no turn changes that. So the run reports what each source would
be reported as alone, up to the first one that is no text, and of those that share a place the last
one decides.

* `Store.plainPath`, `Store.PlainSource`, `Store.plainNames` — the plain sources of a scope.
* `Outliner.written?` — what the turn of a source writes, and where.
* `Outliner.report` — what a source is reported as.

Principal results: `Store.run_sqlFilesIn_plain`: what is listed; `Outliner.run_outlineFiles`,
`Outliner.outlineAll_in_turn`: what a run gives and what becomes of the files.
-/

namespace DmlOutline

open Disk

variable {disk next last provided : Disk} {name : String} {names : List String} {scope : Scope}
  {content bytes : ByteArray} {place : Location}

namespace Store

variable {store : Store}

/-! ## Plain sources -/

/-- The path of a plain source. -/
def plainPath (store : Store) (scope : Scope) (name : String) : Path :=
  store.folder scope .source / name

/-- A name of a `.sql` file among the plain sources. -/
@[mk_iff]
structure PlainSource (store : Store) (scope : Scope) (disk : Disk) (name : String) : Prop where
  isName : Path.IsName name
  isSql : FileName.isSql name = true
  readable : ∃ content, disk.read (store.plainPath scope name) = .ok content

/-- The names of the `.sql` files among the plain sources, as they are listed. -/
def plainNames (store : Store) (scope : Scope) (disk : Disk) : List String :=
  match disk.fileNames (store.folder scope .source) with
  | .error _ => []
  | .ok names => names.filter FileName.isSql

/-- A plain source is one that its own name may stand for. -/
theorem isSource_plainPath (hname : Path.IsName name) :
    store.IsSource scope name (store.plainPath scope name) :=
  ⟨.source, by decide, name, rfl, hname, by simp [sameName]⟩

section Listed

variable (hdir : disk.kind? (store.folder scope .source) = some .directory)
  (hnamed : store.SourcesNamed scope disk)

include hdir

/-- Names of plain sources are in order, each once. -/
theorem sorted_plainNames : (store.plainNames scope disk).Pairwise (· < ·) := by
  obtain ⟨names, hnames, hsorted, -⟩ := exists_fileNames hdir
  rw [plainNames, hnames]
  exact hsorted.filter _

include hnamed

/-- **The plain sources are the `.sql` files that can be read.** -/
theorem mem_plainNames :
    name ∈ store.plainNames scope disk ↔ store.PlainSource scope disk name := by
  obtain ⟨names, hnames, -, hmem⟩ := exists_fileNames hdir
  rw [plainNames, hnames, List.mem_filter]
  constructor
  · rintro ⟨hlisted, hsql⟩
    obtain ⟨content, hcontent⟩ := fileAt_of_mem_fileNames hnames hlisted
    have hname := hnamed .source (by decide) name content hcontent
    exact ⟨hname, hsql, (hmem name hname).mp hlisted⟩
  · rintro ⟨hname, hsql, hread⟩
    exact ⟨(hmem name hname).mpr hread, hsql⟩

/-- **All plain sources are listed.** -/
theorem run_sqlFilesIn_plain : disk.run (sqlFilesIn (store.folder scope .source)) =
    (.ok ((store.plainNames scope disk).map (store.plainPath scope)), disk) := by
  obtain ⟨names, hnames, -⟩ := exists_fileNames hdir
  have hsql : ∀ name ∈ names, nameSatisfies FileName.isSql (store.folder scope .source / name) =
      FileName.isSql name := by
    intro name hname
    obtain ⟨content, hfile⟩ := fileAt_of_mem_fileNames hnames hname
    rw [nameSatisfies, Path.fileName?_join _ (hnamed .source (by decide) name content hfile),
      Option.any_some]
  rw [sqlFilesIn, run_bind, run_filesIn, plainNames, hnames]
  simp only [namesOrNone, Except.mapError, Except.map, run_pure, List.filter_map]
  rw [← List.filter_congr hsql]
  rfl

end Listed

/-- The same plain sources are listed where the sources are kept. -/
theorem KeepsSources.plainNames_eq (h : store.KeepsSources scope disk next)
    (hdir : disk.kind? (store.outlineFolder scope) = some .directory) :
    store.plainNames scope next = store.plainNames scope disk := by
  rw [plainNames, plainNames, Disk.fileNames, Disk.fileNames,
    (h.find_folder hdir (by decide : Category.source ∈ Category.sources)).1]

end Store

namespace Outliner

variable {outliner : Outliner}

/-! ## One turn -/

/-- What the turn of a plain source writes, and where: its outline, if it has one and that can be
stored. -/
def written? (outliner : Outliner) (scope : Scope) (disk : Disk) (name : String) :
    Option (Location × ByteArray) :=
  (outliner.draft? disk (outliner.store.plainPath scope name)).bind fun bytes =>
    (disk.replace (outliner.store.outlinePath scope name) bytes).toOption.map fun _ =>
      (disk.goal (outliner.store.outlinePath scope name), bytes)

/-- What a plain source is reported as: its record, with a note whether its outline is written. -/
def report (outliner : Outliner) (scope : Scope) (disk : Disk) (name : String) :
    Except Error SourceRecord :=
  (disk.run (outliner.store.recordOf (outliner.store.plainPath scope name))).1.map fun record =>
    { record with outlined := some (outliner.written? scope disk name).isSome }

section Turn

variable (hname : Path.IsName name)
  (hdir : disk.kind? (outliner.store.outlineFolder scope) = some .directory)

include hname hdir

theorem written?_eq_some_iff : outliner.written? scope disk name = some (place, bytes) ↔
    outliner.draft? disk (outliner.store.plainPath scope name) = some bytes ∧
      outliner.store.Accepts scope disk name ∧
        place = disk.goal (outliner.store.outlinePath scope name) := by
  have haccepts := Store.exists_replace_iff hname hdir
  unfold written?
  cases outliner.draft? disk (outliner.store.plainPath scope name) with
  | none => simp
  | some draft =>
    rw [← haccepts draft, Option.bind_some, Option.some.injEq]
    cases disk.replace (outliner.store.outlinePath scope name) draft with
    | error cause => simp [Except.toOption]
    | ok next => simp [Except.toOption, and_comm, eq_comm]

/-- Where sources are kept, a turn writes the same. -/
theorem written?_congr (h : outliner.store.KeepsSources scope disk next) :
    outliner.written? scope next name = outliner.written? scope disk name := by
  have hlater := h.grows.kind?_directory hdir
  have hread := h.read_source hdir (Store.isSource_plainPath hname)
  have hdraft : outliner.draft? next (outliner.store.plainPath scope name) =
      outliner.draft? disk (outliner.store.plainPath scope name) := by
    rw [draft?, draft?, hread]
  refine Option.ext fun written => ?_
  obtain ⟨place, bytes⟩ := written
  rw [written?_eq_some_iff hname hlater, written?_eq_some_iff hname hdir, hdraft, h.accepts_iff,
    h.grows.goal]

theorem report_congr (h : outliner.store.KeepsSources scope disk next) :
    outliner.report scope next name = outliner.report scope disk name := by
  have hread := h.read_source hdir (Store.isSource_plainPath hname)
  have hrecord : Agrees disk next
      (outliner.store.recordOf (outliner.store.plainPath scope name)) :=
    Store.agrees_recordOf hread.symm
  rw [report, report, written?_congr hname hdir h, hrecord.result_eq]

/-- **A turn writes what is known beforehand, and tells whether it did.** -/
theorem outlineSource_written :
    (disk.run (outliner.outlineSource (outliner.store.plainPath scope name)
        (outliner.store.outlinePath scope name))).1.isOk =
          (outliner.written? scope disk name).isSome ∧
      ∀ place, (disk.run (outliner.outlineSource (outliner.store.plainPath scope name)
          (outliner.store.outlinePath scope name))).2.fileAt place =
        ((outliner.written? scope disk name).toList.lookup place).or (disk.fileAt place) := by
  rcases outlineSource_cases hname hdir (outliner.store.plainPath scope name) with
    ⟨bytes, next, hdraft, hreplace, hok, hnext⟩ | ⟨hnone, hok, hsame⟩
  · have hwritten : outliner.written? scope disk name =
        some (disk.goal (outliner.store.outlinePath scope name), bytes) := by
      rw [written?, hdraft, Option.bind_some, hreplace]
      rfl
    rw [hok, hnext, hwritten]
    refine ⟨rfl, fun place => ?_⟩
    rw [(replace_eq_ok hreplace).1.fileAt_file, Option.toList_some, List.lookup_cons]
    by_cases hplace : place = disk.goal (outliner.store.outlinePath scope name)
    · simp [hplace]
    · have hother : (place == disk.goal (outliner.store.outlinePath scope name)) = false := by
        simpa using hplace
      rw [if_neg hplace, hother]
      rfl
  · have hwritten : outliner.written? scope disk name = none := by
      refine Option.eq_none_iff_forall_ne_some.mpr fun written hwritten => ?_
      obtain ⟨place, bytes⟩ := written
      obtain ⟨hdraft, haccepts, -⟩ := (written?_eq_some_iff hname hdir).mp hwritten
      rcases hnone with hnone | hrefused
      · rw [hdraft] at hnone
        cases hnone
      · exact hrefused haccepts
    rw [hok, hsame, hwritten]
    exact ⟨rfl, fun place => rfl⟩

end Turn

/-! ## All in turn -/

/-- The plain sources whose turn comes: those before the first one that is no text. -/
def reached (outliner : Outliner) (scope : Scope) (disk : Disk) (names : List String) :
    List String :=
  names.takeWhile fun name => (outliner.report scope disk name).isOk

theorem run_outlineFiles_cons (hname : Path.IsName name)
    (hdir : disk.kind? (outliner.store.outlineFolder scope) = some .directory)
    (rest : List Path) :
    disk.run (outliner.outlineFiles scope (outliner.store.plainPath scope name :: rest)) =
      match outliner.report scope disk name with
      | .error error => (.error error, disk)
      | .ok record =>
        let written := (disk.run (outliner.outlineSource (outliner.store.plainPath scope name)
          (outliner.store.outlinePath scope name))).2
        ((written.run (outliner.outlineFiles scope rest)).1.map (record :: ·),
          (written.run (outliner.outlineFiles scope rest)).2) := by
  rw [outlineFiles, run_bind, report, ← (outlineSource_written hname hdir).1]
  have hreads := Store.reads_recordOf outliner.store (outliner.store.plainPath scope name) disk
  cases hrecord : disk.run (outliner.store.recordOf (outliner.store.plainPath scope name)) with
  | mk result same =>
    rw [hrecord] at hreads
    obtain rfl : same = disk := hreads
    cases result with
    | error error => rfl
    | ok record =>
      obtain ⟨-, text, -, rfl⟩ := Store.recordOf_eq_ok hname hrecord
      have hbears : (SourceRecord.ofContent name text).fileName = name := rfl
      simp only [run_bind, run_settle, Except.map, hbears]
      cases (same.run (outliner.outlineSource (outliner.store.plainPath scope name)
        (outliner.store.outlinePath scope name))).2.run (outliner.outlineFiles scope rest) with
      | mk result last => cases result <;> rfl

/-- What all turns write, one after the other. -/
def writes (outliner : Outliner) (scope : Scope) (disk : Disk) (names : List String) :
    List (Location × ByteArray) :=
  (outliner.reached scope disk names).filterMap (outliner.written? scope disk)

theorem writes_cons_of_ok (h : (outliner.report scope disk name).isOk = true)
    (names : List String) : outliner.writes scope disk (name :: names) =
      (outliner.written? scope disk name).toList ++ outliner.writes scope disk names := by
  rw [writes, reached, List.takeWhile_cons, if_pos h, List.filterMap_cons]
  cases outliner.written? scope disk name <;> rfl

/-- **A run gives what each source would be reported as before it, up to the first failure, and the
last that is written to a place stays there.** -/
theorem run_outlineFiles (hdir : disk.kind? (outliner.store.outlineFolder scope) = some .directory)
    (hnames : ∀ name ∈ names, Path.IsName name)
    (h : outliner.store.KeepsSources scope disk next) :
    (next.run (outliner.outlineFiles scope (names.map (outliner.store.plainPath scope)))).1 =
        names.mapM (outliner.report scope disk) ∧
      outliner.store.KeepsSources scope disk
        (next.run (outliner.outlineFiles scope (names.map (outliner.store.plainPath scope)))).2 ∧
      ∀ place, (next.run (outliner.outlineFiles scope
          (names.map (outliner.store.plainPath scope)))).2.fileAt place =
        ((outliner.writes scope disk names).reverse.lookup place).or (next.fileAt place) := by
  induction names generalizing next with
  | nil => exact ⟨rfl, h, fun _ => rfl⟩
  | cons name rest ih =>
    rw [List.forall_mem_cons] at hnames
    obtain ⟨hname, hrest⟩ := hnames
    have hlater := h.grows.kind?_directory hdir
    have hwritten := (outlineSource_written hname hlater).2
    have hkept := h.trans (keepsSources_outlineSource hname hlater
      (outliner.store.plainPath scope name))
    obtain ⟨hresult, hlast, hfiles⟩ := ih hrest hkept
    rw [written?_congr hname hdir h] at hwritten
    rw [List.map_cons, run_outlineFiles_cons hname hlater, report_congr hname hdir h,
      List.mapM_cons]
    cases hreport : outliner.report scope disk name with
    | error error =>
      have hnone : outliner.writes scope disk (name :: rest) = [] := by
        rw [writes, reached, List.takeWhile_cons, hreport]
        rfl
      exact ⟨rfl, h, fun place => by rw [hnone]; rfl⟩
    | ok record =>
      have hok : (outliner.report scope disk name).isOk = true := by rw [hreport]; rfl
      refine ⟨?_, hlast, fun place => ?_⟩
      · simp only [hresult]
        cases rest.mapM (outliner.report scope disk) <;> rfl
      · have hone : (outliner.written? scope disk name).toList.reverse =
            (outliner.written? scope disk name).toList := by
          cases outliner.written? scope disk name <;> rfl
        simp only [hfiles, hwritten]
        rw [writes_cons_of_ok hok, List.reverse_append, hone, List.lookup_append, Option.or_assoc]

/-- A request for all plain sources acts where the directory of outlines has been made. -/
theorem run_outlineAll_of_provided
    (hsource : disk.kind? (outliner.store.folder scope .source) = some .directory)
    (hprovide : disk.run (Store.provideDir (outliner.store.outlineFolder scope)) =
      (.ok (), provided)) :
    disk.run (outliner.outlineAll scope) = provided.run (outliner.outlineAll scope) := by
  have hwidens := Store.widens_of_provideDir hprovide
  have hdir : provided.kind? (outliner.store.outlineFolder scope) = some .directory :=
    Store.kind?_of_provideDir (Store.isName_folderName .outlines) hprovide
  simp only [outlineAll, run_bind, run_isDirectory, hsource, hwidens.kind?_directory hsource,
    decide_true, if_true, hprovide, Store.run_provideDir_of_directory hdir]

section All

variable (hnamed : outliner.store.SourcesNamed scope disk)
  (hsource : disk.kind? (outliner.store.folder scope .source) = some .directory)
  (hdir : disk.kind? (outliner.store.outlineFolder scope) = some .directory)
  (h : outliner.store.KeepsSources scope disk next)

include hnamed hsource hdir h

/-- A request for all plain sources takes those in turn that there were at first. -/
theorem run_outlineAll : next.run (outliner.outlineAll scope) =
    if outliner.store.plainNames scope disk = [] then
      (.error (.noSources (outliner.store.folder scope .source)), next)
    else
      next.run (outliner.outlineFiles scope
        ((outliner.store.plainNames scope disk).map (outliner.store.plainPath scope))) := by
  have hlater := h.grows.kind?_directory hsource
  have hlist := Store.run_sqlFilesIn_plain hlater (h.sourcesNamed hnamed)
  rw [h.plainNames_eq hdir] at hlist
  rw [outlineAll]
  simp only [run_bind, run_isDirectory, hlater, decide_true, if_true,
    Store.run_provideDir_of_directory (h.grows.kind?_directory hdir), hlist, List.isEmpty_iff,
    List.map_eq_nil_iff]
  by_cases hempty : outliner.store.plainNames scope disk = []
  · rw [if_pos hempty, if_pos hempty]
    rfl
  · rw [if_neg hempty, if_neg hempty]

/-- **A request for all plain sources gives and writes what could be told before it**, by whatever
turns the sources were outlined since. -/
theorem outlineAll_in_turn {result : Except Error (List SourceRecord)}
    (hrun : next.run (outliner.outlineAll scope) = (result, last)) :
    result =
        (if outliner.store.plainNames scope disk = [] then
          .error (.noSources (outliner.store.folder scope .source))
        else
          (outliner.store.plainNames scope disk).mapM (outliner.report scope disk)) ∧
      outliner.store.KeepsSources scope disk last ∧
      ∀ place, last.fileAt place =
        ((outliner.writes scope disk (outliner.store.plainNames scope disk)).reverse.lookup
          place).or (next.fileAt place) := by
  have hnames : ∀ name ∈ outliner.store.plainNames scope disk, Path.IsName name :=
    fun name hname => ((Store.mem_plainNames hsource hnamed).mp hname).isName
  obtain ⟨hresult, hkept, hfiles⟩ := run_outlineFiles hdir hnames h
  rw [run_outlineAll hnamed hsource hdir h] at hrun
  by_cases hempty : outliner.store.plainNames scope disk = []
  · rw [if_pos hempty] at hrun ⊢
    obtain ⟨rfl, rfl⟩ := Prod.mk.inj hrun
    exact ⟨rfl, h, fun place => by rw [hempty]; rfl⟩
  · rw [if_neg hempty] at hrun ⊢
    rw [hrun] at hresult hkept hfiles
    exact ⟨hresult, hkept, hfiles⟩

end All

end Outliner

end DmlOutline
