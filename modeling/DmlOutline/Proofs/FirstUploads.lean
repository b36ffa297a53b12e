import DmlOutline.Proofs.AddedSources
import DmlOutline.Proofs.ScopePlaces

/-!
# The first upload of a name wins

From an empty base directory on, uploads in a scope come to a map from names to contents, in which
what is there stays. For each name there is one file, in the directory of its category, with what
was uploaded first. That alone decides what is reported of an upload, also of one that is no text.
So uploads of different names may change places.

* `Store.addEach` — uploads in turn.
* `Store.reportOf` — what is reported of a name and a content.
* `Store.Admits` — the names under which a source can be stored.
* `Store.Uploaded` — a disk on which the map is what uploads come to.

Principal results: `Store.Uploaded.add`: one upload; `Store.run_addEach`: all of them;
`Store.addEach_first_wins`.
-/

namespace DmlOutline.Store

open Disk Outliner

variable {store : Store} {scope : Scope} {start disk next : Disk} {name : String}
  {content : ByteArray} {uploads earlier : List (String × ByteArray)}

/-! ## Uploads -/

/-- Stores sources in turn, whatever becomes of each, and gives all reports. -/
def addEach {m : Type → Type} [Monad m] [FileAccess m] (store : Store) (scope : Scope) :
    List (String × ByteArray) → Action m (List (Except Error SourceRecord))
  | [] => return []
  | (name, content) :: rest => do
    let report ← settle (store.add scope name content)
    return report :: (← store.addEach scope rest)

/-- What is reported of a source with a name and a content. -/
def reportOf (store : Store) (scope : Scope) (name : String) (content : ByteArray) :
    Except Error SourceRecord :=
  match store.decoder.decode? content with
  | none => .error (.undecodable (store.sourcePath scope name))
  | some text => .ok (.ofContent name text)

/-- A name under which a source can be stored in a scope: no name on the way to it is too long, and
nor is its path. -/
@[mk_iff]
structure Admits (store : Store) (scope : Scope) (name : String) : Prop where
  isSegment : isSegment name = true
  fits : Fits (scope.keys ++ [name])
  notRefused : refuseText (store.sourcePath scope name) = .ok ()

instance (store : Store) (scope : Scope) (name : String) : Decidable (store.Admits scope name) :=
  decidable_of_iff' _ (store.admits_iff scope name)

theorem Admits.isName (h : store.Admits scope name) : Path.IsName name :=
  Path.isName_of_isSegment h.isSegment

/-- A source that can be read is reported by its name and its content. -/
theorem run_recordOf_sourcePath (hname : Path.IsName name)
    (hread : disk.read (store.sourcePath scope name) = .ok content) :
    disk.run (store.recordOf (store.sourcePath scope name)) =
      (store.reportOf scope name content, disk) := by
  rw [run_recordOf_of_read hread, sourcePath, Path.fileName?_join _ hname]
  rfl

/-- After one more upload a name has what it had, if it had anything. -/
theorem lookup_concat (other : String) : (uploads ++ [(name, content)]).lookup other =
    if other = name then some ((uploads.lookup name).getD content) else uploads.lookup other := by
  rw [List.lookup_append]
  by_cases hother : other = name
  · subst hother
    rw [if_pos rfl, List.lookup_cons_self]
    cases uploads.lookup other <;> rfl
  · rw [if_neg hother, List.lookup_cons, beq_false_of_ne hother]
    exact Option.or_none

/-! ## The map that uploads come to -/

/-- A disk on which each name that was uploaded has a file with its first content, and all else is
as it was at the start. -/
structure Uploaded (store : Store) (scope : Scope) (start : Disk)
    (uploads : List (String × ByteArray)) (disk : Disk) : Prop extends Grows start disk where
  fileAt_iff : ∀ place content, disk.fileAt place = some content ↔
    start.fileAt place = some content ∨ ∃ name, uploads.lookup name = some content ∧
      place = start.goal (store.folderFor scope (some name)) ++ [name]
  /-- No directory is in the place of a source. -/
  noDirectory : ∀ name, ¬disk.root.DirAt (start.goal (store.folderFor scope (some name)) ++ [name])

/-- The place of a source, from the base directory on. -/
theorem goal_upload (disk : Disk) (store : Store) (scope : Scope) (name : String) :
    disk.goal (store.folderFor scope (some name)) ++ [name] =
      disk.goal store.config.baseDir ++ (scope.place (.ofName name) ++ [name]) :=
  goal_entry disk store scope (.ofName name) name

/-- Names tell places apart. -/
theorem goal_upload_inj {other : String}
    (h : start.goal (store.folderFor scope (some name)) ++ [name] =
      start.goal (store.folderFor scope (some other)) ++ [other]) : name = other := by
  have hentry : start.goal (store.folder scope (.ofName name)) ++ [name] =
      start.goal (store.folder scope (.ofName other)) ++ [other] := h
  exact (folder_entry_inj hentry).2

/-- A source is on no way to a category. -/
theorem upload_off_way (scope : Scope) (name : String) (category : Category) :
    ¬scope.place (.ofName name) ++ [name] <+: scope.place category :=
  Scope.entry_off_way (.inl rfl)
    (Category.lists_of_mem_sources (Category.ofName_mem_sources name) name) category

section Empty

variable (hempty : start.find store.config.baseDir = .ok (.directory []))

include hempty

theorem get?_upload_of_empty (name : String) :
    start.root.get? (start.goal (store.folderFor scope (some name)) ++ [name]) = none := by
  obtain ⟨first, rest, hplace⟩ := List.exists_cons_of_ne_nil
    (List.append_ne_nil_of_right_ne_nil (scope.place (.ofName name)) (List.cons_ne_nil name []))
  rw [goal_upload, hplace]
  exact vacant_of_find hempty first rest

theorem fileAt_base_of_empty (names : List String) :
    start.fileAt (start.goal store.config.baseDir ++ names) = none := by
  cases names with
  | nil =>
    rw [List.append_nil]
    exact FileTree.fileAt_eq_none_of_dirAt ⟨[], (find_eq_ok_iff.mp hempty).2⟩
  | cons first rest => exact (vacant_of_find hempty).fileAt first rest

/-- At the start nothing is uploaded. -/
theorem uploaded_nil : store.Uploaded scope start [] start where
  toGrows := .refl start
  fileAt_iff place content := by simp
  noDirectory name := by
    rintro ⟨entries, hentries⟩
    rw [get?_upload_of_empty hempty] at hentries
    cases hentries

namespace Uploaded

variable (h : store.Uploaded scope start uploads disk)

include h

/-- The file of a name is the one that was uploaded first. -/
theorem fileAt_upload (name : String) :
    disk.fileAt (start.goal (store.folderFor scope (some name)) ++ [name]) =
      uploads.lookup name := by
  refine Option.ext fun content => ?_
  rw [h.fileAt_iff]
  constructor
  · rintro (hstart | ⟨other, hlookup, hplace⟩)
    · rw [goal_upload, fileAt_base_of_empty hempty] at hstart
      cases hstart
    · obtain rfl := goal_upload_inj hplace
      exact hlookup
  · exact fun hlookup => .inr ⟨name, hlookup, rfl⟩

/-- Nothing is in the place of a name that was not uploaded. -/
theorem get?_upload (hlookup : uploads.lookup name = none) :
    disk.root.get? (start.goal (store.folderFor scope (some name)) ++ [name]) = none := by
  have hfile := h.fileAt_upload hempty name
  rw [hlookup, Disk.fileAt, FileTree.fileAt] at hfile
  cases hget : disk.root.get? (start.goal (store.folderFor scope (some name)) ++ [name]) with
  | none => rfl
  | some entry =>
    cases entry with
    | file held => rw [hget] at hfile; cases hfile
    | directory entries => exact absurd ⟨entries, hget⟩ (h.noDirectory name)

/-- No file is on the way to a category. -/
theorem clear (category : Category) {front : List String}
    (hfront : front <+: scope.place category) :
    disk.fileAt (disk.goal store.config.baseDir ++ front) = none := by
  refine Option.eq_none_iff_forall_ne_some.mpr fun content hfile => ?_
  rw [h.toGrows.goal, h.fileAt_iff] at hfile
  rcases hfile with hstart | ⟨name, -, hplace⟩
  · rw [fileAt_base_of_empty hempty] at hstart
    cases hstart
  · rw [goal_upload] at hplace
    rw [List.append_cancel_left hplace] at hfront
    exact upload_off_way scope name category hfront

omit hempty in
/-- Directories on the way to a category are in no place of a source. -/
theorem widensAlong {category : Category}
    (hwidens : WidensAlong store.config.baseDir (scope.place category) disk next) :
    store.Uploaded scope start uploads next where
  toGrows := h.toGrows.trans hwidens.toGrows
  fileAt_iff place content := by rw [hwidens.fileAt, h.fileAt_iff]
  noDirectory name := by
    have hapart := hwidens.apart (start.goal (store.folderFor scope (some name)) ++ [name]) (by
      rw [goal_upload, h.toGrows.goal, List.prefix_append_right_inj]
      exact upload_off_way scope name category)
    rintro ⟨entries, hentries⟩
    rw [hapart] at hentries
    exact h.noDirectory name ⟨entries, hentries⟩

/-- **The directory of a name can be provided**, and that leaves the uploads as they are. -/
theorem exists_provided (hadmits : store.Admits scope name) : ∃ provided,
    disk.run (provideDir (store.folderFor scope (some name))) = (.ok (), provided) ∧
      store.Uploaded scope start uploads provided := by
  have hbase : start.kind? store.config.baseDir = some .directory := by rw [kind?, hempty]
  have hfolder : store.folderFor scope (some name) =
      store.config.baseDir.below (scope.place (.ofName name)) :=
    folder_eq_below store scope (.ofName name)
  have hempty' : (store.folderFor scope (some name)).text ≠ "" :=
    Path.text_join_ne_empty _ (isName_folderName (.ofName name))
  have htext := refuseText_of_join hadmits.isName hempty' hadmits.notRefused
  rw [hfolder] at htext ⊢
  obtain ⟨hresult, hpaved⟩ := run_provideDir_below (h.toGrows.kind?_directory hbase)
    (scope.isName_of_mem_place (.ofName name)) (scope.place_ne_nil (.ofName name))
    (fun front hfront => h.clear hempty (.ofName name) hfront) htext
  rw [if_pos ((scope.fits_place_iff (.ofName name)).mpr (fits_concat.mp hadmits.fits).1)] at hresult
  exact ⟨_, Prod.ext hresult rfl, h.widensAlong hpaved.toWidensAlong⟩

omit hempty in
/-- An upload of a name that has a file changes nothing. -/
theorem again {first : ByteArray} (hlookup : uploads.lookup name = some first)
    (content : ByteArray) : store.Uploaded scope start (uploads ++ [(name, content)]) disk where
  toGrows := h.toGrows
  noDirectory := h.noDirectory
  fileAt_iff place held := by
    have hsame : ∀ other, (uploads ++ [(name, content)]).lookup other = uploads.lookup other := by
      intro other
      rw [lookup_concat]
      split
      · rename_i hother
        rw [hother, hlookup, Option.getD_some]
      · rfl
    simp only [hsame, h.fileAt_iff]

/-- The first upload of a name makes its file. -/
theorem puts (hname : Path.IsName name) (hlookup : uploads.lookup name = none)
    (hputs : disk.Puts (store.sourcePath scope name) (.file content) next) :
    store.Uploaded scope start (uploads ++ [(name, content)]) next where
  toGrows := h.toGrows.trans hputs.grows
  noDirectory other hdir := h.noDirectory other ((hputs.dirAt_file _).mp hdir)
  fileAt_iff place held := by
    have hgoal : disk.goal (store.sourcePath scope name) =
        start.goal (store.folderFor scope (some name)) ++ [name] := by
      rw [sourcePath, goal_join _ _ hname, h.toGrows.goal]
    rw [hputs.fileAt_file, hgoal]
    split
    · rename_i hplace
      have hstart : start.fileAt place = none := by
        rw [hplace, goal_upload]
        exact fileAt_base_of_empty hempty _
      rw [hstart, hplace]
      constructor
      · rintro ⟨rfl⟩
        exact .inr ⟨name, by rw [lookup_concat, if_pos rfl, hlookup, Option.getD_none], rfl⟩
      · rintro (hnone | ⟨other, hother, hsame⟩)
        · cases hnone
        · obtain rfl := goal_upload_inj hsame
          rw [lookup_concat, if_pos rfl, hlookup, Option.getD_none] at hother
          exact hother
    · rename_i hplace
      rw [h.fileAt_iff]
      refine or_congr_right (exists_congr fun other => and_congr_left fun hother => ?_)
      have hne : other ≠ name := by
        rintro rfl
        exact hplace hother
      rw [lookup_concat, if_neg hne]

/-- **An upload stores its content if it is the first one of its name, and reports the first
one.** -/
theorem add (hadmits : store.Admits scope name) (content : ByteArray) :
    (disk.run (store.add scope name content)).1 =
        store.reportOf scope name ((uploads.lookup name).getD content) ∧
      store.Uploaded scope start (uploads ++ [(name, content)])
        (disk.run (store.add scope name content)).2 := by
  have hname := hadmits.isName
  have hshort := (fits_concat.mp hadmits.fits).2
  obtain ⟨provided, hprovide, hprovided⟩ := h.exists_provided hempty hadmits
  have hdir : provided.kind? (store.folderFor scope (some name)) = some .directory :=
    kind?_of_provideDir (isName_folderName (.ofName name)) hprovide
  obtain ⟨segment, rfl⟩ : ∃ segment : Segment, segment.text = name :=
    ⟨⟨name, hadmits.isSegment⟩, rfl⟩
  simp only [run_add, hprovide]
  cases hlookup : uploads.lookup segment.text with
  | some first =>
    have hreach : isReachable (store.folderFor scope (some segment.text)) segment.text = true := by
      rw [isReachable, Bool.and_eq_true, decide_eq_true_eq]
      exact ⟨congrArg Except.toBool hadmits.notRefused, hshort _ (List.mem_singleton_self _)⟩
    have hread : provided.read (store.sourcePath scope segment.text) = .ok first := by
      refine (read_join hdir hname).mpr ⟨hreach, ?_⟩
      rw [hprovided.toGrows.goal, hprovided.fileAt_upload hempty, hlookup]
    have htaken : provided.create (store.sourcePath scope segment.text) content =
        .error .alreadyExists := create_of_read hname hread content
    simp only [htaken, run_recordOf_sourcePath hname hread]
    exact ⟨rfl, hprovided.again hlookup content⟩
  | none =>
    have hpermit : permit (store.sourcePath scope segment.text) segment.text = .ok () := by
      rw [permit, hadmits.notRefused, Except.bind, if_pos hshort]
    have hcreate := create_join hdir hname content
    change provided.create (store.sourcePath scope segment.text) content =
      (permit (store.sourcePath scope segment.text) segment.text).bind _ at hcreate
    rw [hpermit, Except.bind, hprovided.toGrows.goal, hprovided.get?_upload hempty hlookup]
      at hcreate
    simp only [hcreate, run_recordOf_sourcePath hname (read_of_create hcreate)]
    exact ⟨rfl, hprovided.puts hempty hname hlookup (create_eq_ok hcreate).1⟩

end Uploaded

/-- **Each upload reports the first content of its name.** -/
theorem run_addEach (h : store.Uploaded scope start earlier disk)
    (hadmits : ∀ upload ∈ uploads, store.Admits scope upload.1) : ∃ next,
    disk.run (store.addEach scope uploads) =
        (.ok (uploads.map fun upload => store.reportOf scope upload.1
          (((earlier ++ uploads).lookup upload.1).getD upload.2)), next) ∧
      store.Uploaded scope start (earlier ++ uploads) next := by
  induction uploads generalizing earlier disk with
  | nil => exact ⟨disk, rfl, by rwa [List.append_nil]⟩
  | cons upload rest ih =>
    obtain ⟨name, content⟩ := upload
    rw [List.forall_mem_cons] at hadmits
    obtain ⟨hreport, hstored⟩ := h.add hempty hadmits.1 content
    obtain ⟨next, hrest, hnext⟩ := ih hstored hadmits.2
    have hfirst : ((earlier ++ (name, content) :: rest).lookup name).getD content =
        (earlier.lookup name).getD content := by
      rw [List.lookup_append, List.lookup_cons_self]
      cases earlier.lookup name <;> rfl
    rw [List.append_assoc, List.singleton_append] at hrest hnext
    refine ⟨next, ?_, hnext⟩
    rw [addEach, run_bind, run_settle]
    simp only [run_bind, hrest, List.map_cons, hreport, hfirst]
    rfl

end Empty

/-! ## Uploads in another order -/

theorem exists_lookup {upload : String × ByteArray} (hmem : upload ∈ uploads) :
    ∃ first, uploads.lookup upload.1 = some first := by
  refine Option.ne_none_iff_exists'.mp fun hnone => ?_
  have hother := List.lookup_eq_none_iff.mp hnone upload hmem
  simp at hother

/-- What was uploaded first under a name depends on the uploads of that name alone. -/
theorem lookup_filter (uploads : List (String × ByteArray)) (name : String) :
    (uploads.filter (·.1 = name)).lookup name = uploads.lookup name := by
  induction uploads with
  | nil => rfl
  | cons upload rest ih =>
    obtain ⟨other, content⟩ := upload
    by_cases hother : other = name
    · subst hother
      rw [List.filter_cons_of_pos (by simp), List.lookup_cons_self, List.lookup_cons_self]
    · rw [List.filter_cons_of_neg (by simpa using hother), ih, List.lookup_cons,
        beq_false_of_ne (Ne.symm hother)]

/-- The reports on one name, each with its upload. -/
theorem filter_zip_map {α : Type} (report : String × ByteArray → α)
    (uploads : List (String × ByteArray)) (name : String) :
    (uploads.zip (uploads.map report)).filter (·.1.1 = name) =
      (uploads.filter (·.1 = name)).map fun upload => (upload, report upload) := by
  rw [← List.map_prod_left_eq_zip, List.filter_map]
  rfl

/-- Two uploads of different names may change places: the uploads of each name stay in order. -/
theorem filter_swap {first second : String × ByteArray} (hne : first.1 ≠ second.1)
    (front back : List (String × ByteArray)) (name : String) :
    (front ++ second :: first :: back).filter (·.1 = name) =
      (front ++ first :: second :: back).filter (·.1 = name) := by
  simp only [List.filter_append, List.filter_cons, decide_eq_true_eq]
  by_cases hfirst : first.1 = name
  · have hsecond : second.1 ≠ name := fun hsecond => hne (hfirst.trans hsecond.symm)
    simp only [if_pos hfirst, if_neg hsecond]
  · simp only [if_neg hfirst]

/-- **Uploads from an empty base directory on are a map in which the first one wins.** Each name has
one file, in the directory of its category, with what was uploaded first, and no other file is
there. Each upload, the first or a later one, reports what its name and that content come to. If the
uploads come in another order, in which those of each name keep theirs, the files and the reports
are the same. -/
theorem addEach_first_wins (hempty : disk.find store.config.baseDir = .ok (.directory []))
    (hadmits : ∀ upload ∈ uploads, store.Admits scope upload.1) :
    ∃ reports next, disk.run (store.addEach scope uploads) = (.ok reports, next) ∧
      List.Forall₂ (fun upload report => ∃ first, uploads.lookup upload.1 = some first ∧
        report = store.reportOf scope upload.1 first) uploads reports ∧
      (∀ place content, next.fileAt place = some content ↔
        disk.fileAt place = some content ∨ ∃ name, uploads.lookup name = some content ∧
          place = disk.goal (store.folder scope (.ofName name)) ++ [name]) ∧
      ∀ again : List (String × ByteArray),
        (∀ name, again.filter (·.1 = name) = uploads.filter (·.1 = name)) →
        ∃ reports' next', disk.run (store.addEach scope again) = (.ok reports', next') ∧
          (∀ place, next'.fileAt place = next.fileAt place) ∧
          ∀ name, (again.zip reports').filter (·.1.1 = name) =
            (uploads.zip reports).filter (·.1.1 = name) := by
  obtain ⟨next, hrun, hnext⟩ := run_addEach hempty (uploaded_nil hempty) hadmits
  rw [List.nil_append] at hrun hnext
  refine ⟨_, next, hrun, ?_, hnext.fileAt_iff, fun again hagain => ?_⟩
  · refine List.forall₂_map_right_iff.mpr (List.forall₂_same.mpr fun upload hmem => ?_)
    obtain ⟨first, hfirst⟩ := exists_lookup hmem
    exact ⟨first, hfirst, by rw [hfirst, Option.getD_some]⟩
  · have hmem : ∀ upload ∈ again, upload ∈ uploads := by
      intro upload hupload
      have hown : upload ∈ again.filter (·.1 = upload.1) := by simpa using hupload
      rw [hagain] at hown
      exact List.mem_of_mem_filter hown
    have hlookup : ∀ name, again.lookup name = uploads.lookup name := fun name => by
      rw [← lookup_filter again, hagain, lookup_filter]
    obtain ⟨next', hrun', hnext'⟩ := run_addEach hempty (uploaded_nil hempty)
      fun upload hupload => hadmits upload (hmem upload hupload)
    rw [List.nil_append] at hrun' hnext'
    refine ⟨_, next', hrun', fun place => ?_, fun name => ?_⟩
    · refine Option.ext fun content => ?_
      simp only [hnext'.fileAt_iff, hnext.fileAt_iff, hlookup]
    · simp only [filter_zip_map, hlookup, hagain]

/-- A name, the same in capitals, and the first one again with what is no text. -/
def sameLetters : List (String × ByteArray) :=
  [("a.sql", "SELECT".toUTF8), ("A.sql", strayByte), ("a.sql", strayByte)]

/-- Names that differ in case are different, and the order in which they come makes no
difference. -/
theorem addEach_first_wins_letters :
    emptyBase.find inBase.store.config.baseDir = .ok (.directory []) ∧
      (∀ upload ∈ sameLetters, inBase.store.Admits plainScope upload.1) ∧
      ∃ next next', emptyBase.run (inBase.store.addEach plainScope sameLetters) =
          (.ok [.ok (.ofContent "a.sql" "SELECT"), .error (.undecodable ⟨"base/s/src/A.sql"⟩),
            .ok (.ofContent "a.sql" "SELECT")], next) ∧
        next.fileAt ["base", "s", "src", "a.sql"] = some "SELECT".toUTF8 ∧
        next.fileAt ["base", "s", "src", "A.sql"] = some strayByte ∧
        (emptyBase.run (inBase.store.addEach plainScope
          [("A.sql", strayByte), ("a.sql", "SELECT".toUTF8), ("a.sql", strayByte)])).2 = next' ∧
        ∀ place, next'.fileAt place = next.fileAt place := by
  have hadmits : ∀ upload ∈ sameLetters, inBase.store.Admits plainScope upload.1 := by
    decide +kernel
  obtain ⟨reports, next, hrun, -, hfiles, hagain⟩ := addEach_first_wins find_emptyBase hadmits
  obtain ⟨reports', next', hrun', hsame, -⟩ := hagain
    [("A.sql", strayByte), ("a.sql", "SELECT".toUTF8), ("a.sql", strayByte)]
    (filter_swap (by decide) [] _)
  have hreports : (emptyBase.run (inBase.store.addEach plainScope sameLetters)).1.toOption =
      some [.ok (.ofContent "a.sql" "SELECT"), .error (.undecodable ⟨"base/s/src/A.sql"⟩),
        .ok (.ofContent "a.sql" "SELECT")] := by decide +kernel
  rw [hrun] at hreports
  obtain rfl := Option.some.inj hreports
  refine ⟨find_emptyBase, hadmits, next, next', hrun, ?_, ?_, by rw [hrun'], hsame⟩
  · exact (hfiles _ _).mpr (.inr ⟨"a.sql", rfl, by decide +kernel⟩)
  · exact (hfiles _ _).mpr (.inr ⟨"A.sql", rfl, by decide +kernel⟩)

end DmlOutline.Store
