import DmlOutline.Proofs.AddedSources
import DmlOutline.Proofs.ScopeFiles

/-!
# Sources that declare a unit

A source is stored by the letters of its name and found again by what it declares. After requests in
a scope from an empty base directory on, a search goes through all `.sql` files of the scope, each
once, in the order of categories and of names, and gives the records of those that declare the unit.
So what was reported of a `.sql` source when it was added is found under the name that it declares,
once and as it was. A search fails only in a scope whose directories have keys or paths that are too
long to be listed.

* `SourceRecord.declares` — whether a source declares a unit.
* `Store.SqlDecodes` — a scope whose `.sql` files can be read as texts.
* `Store.SqlRecords` — the records of all `.sql` files of a scope, in order.

Principal results: `Store.Filed.run_sqlRecords`: what is read; `Store.SqlRecords.nodup`: what is
read once; `Outliner.declaring_after`: what a search gives.
-/

namespace DmlOutline

open Disk

/-- Whether a record is that of a source that declares a unit, without regard to case. -/
def SourceRecord.declares (unitName : String) (record : SourceRecord) : Bool :=
  record.unitName.any (Store.sameName unitName)

namespace Store

variable {store : Store} {scope : Scope} {category : Category} {disk next : Disk} {name : String}
  {content : ByteArray} {path : Path} {paths : List Path} {record : SourceRecord}
  {records : List SourceRecord} {names : Category → List String}

/-! ## Records of `.sql` files -/

/-- The `.sql` files of a scope can be read as texts. -/
def SqlDecodes (store : Store) (scope : Scope) (disk : Disk) : Prop :=
  ∀ category name content,
    disk.fileAt (disk.goal (store.folder scope category) ++ [name]) = some content →
      FileName.isSql name = true → ∃ text, store.decoder.decode? content = some text

/-- Every file can be read as a text where an encoding that refuses nothing is tried. -/
theorem sqlDecodes_of_mem_fallbacks {charset : store.charsets.Charset}
    (h : charset ∈ store.decoder.fallbacks)
    (hall : ∀ bytes, (Decodes.decode? charset bytes).isSome = true) (scope : Scope) (disk : Disk) :
    store.SqlDecodes scope disk := by
  intro category name content _ _
  rw [← Option.isSome_iff_exists, Decoder.decode?, Decoder.decodeWith]
  cases String.fromUTF8? content with
  | some text => rfl
  | none => exact List.findSome?_isSome_iff.mpr ⟨charset, h, hall content⟩

/-- The files with some names in each category, in the order of categories. -/
def pathsOf (store : Store) (scope : Scope) (names : Category → List String)
    (categories : List Category) : List Path :=
  categories.flatMap fun category => (names category).map (store.folder scope category / ·)

/-- Records that are those of some files, one after the other. -/
def ReadAs (store : Store) (disk : Disk) (paths : List Path) (records : List SourceRecord) : Prop :=
  paths.map (fun path => disk.run (store.recordOf path)) = records.map fun record =>
    (.ok record, disk)

/-- **The records of all `.sql` files of a scope**, in the order of categories and of names. -/
def SqlRecords (store : Store) (scope : Scope) (disk : Disk) (records : List SourceRecord) : Prop :=
  ∃ names : Category → List String,
    (∀ category, store.SqlNames scope disk category (names category)) ∧
      store.ReadAs disk (store.pathsOf scope names Category.all) records

theorem mem_pathsOf {categories : List Category} :
    path ∈ store.pathsOf scope names categories ↔ ∃ category ∈ categories,
      ∃ name ∈ names category, store.folder scope category / name = path := by
  simp only [pathsOf, List.mem_flatMap, List.mem_map]

namespace ReadAs

theorem append {more : List Path} {others : List SourceRecord}
    (h : store.ReadAs disk paths records) (hmore : store.ReadAs disk more others) :
    store.ReadAs disk (paths ++ more) (records ++ others) := by
  unfold ReadAs at h hmore ⊢
  rw [List.map_append, List.map_append, h, hmore]

/-- Files that can be read have records. -/
theorem of_forall_mem
    (h : ∀ path ∈ paths, ∃ record, disk.run (store.recordOf path) = (.ok record, disk)) :
    ∃ records, store.ReadAs disk paths records := by
  have hrange : paths.map (fun path => disk.run (store.recordOf path)) ∈
      Set.range (List.map fun record => (.ok record, disk)) := by
    rw [Set.range_list_map]
    intro outcome houtcome
    obtain ⟨path, hpath, rfl⟩ := List.mem_map.mp houtcome
    obtain ⟨record, hrecord⟩ := h path hpath
    exact ⟨record, hrecord.symm⟩
  obtain ⟨records, hrecords⟩ := hrange
  exact ⟨records, hrecords.symm⟩

/-- Reading the files gives the records. -/
theorem run_recordsOf (h : store.ReadAs disk paths records) :
    disk.run (store.recordsOf paths) = (.ok records, disk) := by
  unfold ReadAs at h
  induction paths generalizing records with
  | nil =>
    obtain rfl : records = [] := List.map_eq_nil_iff.mp h.symm
    rfl
  | cons path rest ih =>
    cases records with
    | nil => cases h
    | cons record others =>
      have hfirst : disk.run (store.recordOf path) = (.ok record, disk) := (List.cons.inj h).1
      rw [recordsOf, run_bind, hfirst]
      simp only [run_bind, ih (List.cons.inj h).2, run_pure]

theorem exists_record (h : store.ReadAs disk paths records) (hpath : path ∈ paths) :
    ∃ record ∈ records, disk.run (store.recordOf path) = (.ok record, disk) := by
  have hmem : disk.run (store.recordOf path) ∈
      paths.map fun path => disk.run (store.recordOf path) := List.mem_map_of_mem hpath
  rw [h] at hmem
  obtain ⟨record, hrecord, hrun⟩ := List.mem_map.mp hmem
  exact ⟨record, hrecord, hrun.symm⟩

/-- Records bear the names of their files. -/
theorem fileNames (h : store.ReadAs disk paths records) :
    records.map (·.fileName) = paths.map (·.fileName?.getD "") := by
  have hfile : ∀ path ∈ paths,
      ((disk.run (store.recordOf path)).1.toOption.map (·.fileName)) =
        some (path.fileName?.getD "") := by
    intro path hpath
    obtain ⟨record, -, hrun⟩ := h.exists_record hpath
    have hrecord := (Prod.mk.inj ((run_recordOf disk store path).symm.trans hrun)).1
    rw [hrun]
    cases htext : (disk.run (store.textOf path)).1 with
    | error error => rw [htext] at hrecord; cases hrecord
    | ok text =>
      rw [htext] at hrecord
      cases hrecord
      rfl
  have hnames := congrArg (List.map fun outcome => outcome.1.toOption.map (·.fileName)) h
  rw [List.map_map, List.map_map] at hnames
  refine List.map_injective_iff.mpr (Option.some_injective String) ?_
  rw [List.map_map, List.map_map]
  exact (hnames.symm.trans (List.map_congr_left hfile))

end ReadAs

/-! ## What is read -/

namespace Filed

variable (h : store.Filed scope disk)

include h

/-- A `.sql` file that decodes has a record. -/
theorem exists_record (hdecodes : store.SqlDecodes scope disk)
    (hname : name ∈ store.sqlListing scope disk category) :
    ∃ record, disk.run (store.recordOf (store.folder scope category / name)) =
      (.ok record, disk) := by
  obtain ⟨hsql, content, hfile⟩ := ((sqlNames_sqlListing store scope disk category).mem_iff name).mp
    hname
  obtain ⟨text, htext⟩ := hdecodes category name content hfile hsql
  rw [run_recordOf_of_read (h.readable category name content hfile), htext]
  exact ⟨_, rfl⟩

/-- **All `.sql` files of some categories are read, unless the scope is too long.** -/
theorem run_sqlRecords (hdecodes : store.SqlDecodes scope disk) (categories : List Category) :
    (∃ records, store.ReadAs disk
        (store.pathsOf scope (store.sqlListing scope disk) categories) records ∧
        disk.run (store.sqlRecords (categories.map (store.folder scope))) = (.ok records, disk)) ∨
      disk.run (store.sqlRecords (categories.map (store.folder scope))) =
        (.error (.io .nameTooLong), disk) ∧ store.TooLong scope := by
  induction categories with
  | nil => exact .inl ⟨[], rfl, rfl⟩
  | cons category rest ih =>
    rw [List.map_cons, sqlRecords, run_bind]
    rcases h.run_sqlFilesIn category with hfiles | ⟨hrefused, hlong⟩
    · have hreadable : ∀ path ∈ (store.sqlListing scope disk category).map
          (store.folder scope category / ·),
          ∃ record, disk.run (store.recordOf path) = (.ok record, disk) := by
        intro path hpath
        obtain ⟨name, hname, rfl⟩ := List.mem_map.mp hpath
        exact h.exists_record hdecodes hname
      obtain ⟨first, hfirst⟩ := ReadAs.of_forall_mem hreadable
      rw [hfiles]
      simp only [run_bind, hfirst.run_recordsOf]
      rcases ih with ⟨records, hrest, hrun⟩ | ⟨hrefused, hlong⟩
      · rw [hrun]
        exact .inl ⟨first ++ records, hfirst.append hrest, rfl⟩
      · rw [hrefused]
        exact .inr ⟨rfl, hlong⟩
    · rw [hrefused]
      exact .inr ⟨rfl, hlong⟩

/-- Files of one name are in one category. -/
theorem nodup_names (hnames : ∀ category, store.SqlNames scope disk category (names category)) :
    (Category.all.flatMap names).Nodup := by
  refine List.nodup_flatMap.mpr ⟨fun category _ => (hnames category).nodup, ?_⟩
  have hall : Category.all.Nodup := by decide
  refine hall.imp fun {first second} hne name hfirst hsecond => hne ?_
  obtain ⟨hsql, content, hfile⟩ := ((hnames first).mem_iff name).mp hfirst
  obtain ⟨-, content', hfile'⟩ := ((hnames second).mem_iff name).mp hsecond
  rw [h.routed first name content hfile hsql, h.routed second name content' hfile' hsql]

end Filed

namespace SqlRecords

/-- Where files are in order, no two of the records are the same. -/
theorem nodup (h : store.SqlRecords scope disk records) (hfiled : store.Filed scope disk) :
    records.Nodup := by
  obtain ⟨names, hnames, hreads⟩ := h
  have hlast : (store.pathsOf scope names Category.all).map (·.fileName?.getD "") =
      Category.all.flatMap names := by
    rw [pathsOf, List.map_flatMap]
    refine List.flatMap_congr fun category _ => ?_
    rw [List.map_map]
    refine (List.map_congr_left fun name hname => ?_).trans (List.map_id' _)
    obtain ⟨-, content, hfile⟩ := ((hnames category).mem_iff name).mp hname
    rw [Function.comp_apply, Path.fileName?_join _ (hfiled.toOrderly.isName hfile),
      Option.getD_some]
  have hnodup := hfiled.nodup_names hnames
  rw [← hlast, ← hreads.fileNames] at hnodup
  exact hnodup.of_map

/-- The record of a `.sql` file is among them. -/
theorem mem (h : store.SqlRecords scope disk records)
    (hfile : disk.fileAt (disk.goal (store.folder scope category) ++ [name]) = some content)
    (hsql : FileName.isSql name = true)
    (hrun : disk.run (store.recordOf (store.folder scope category / name)) = (.ok record, disk)) :
    record ∈ records := by
  obtain ⟨names, hnames, hreads⟩ := h
  have hname := ((hnames category).mem_iff name).mpr ⟨hsql, content, hfile⟩
  have hcategory : category ∈ Category.all := by
    cases category <;> decide
  obtain ⟨found, hfound, hagain⟩ := hreads.exists_record
    (mem_pathsOf.mpr ⟨category, hcategory, name, hname, rfl⟩)
  rw [hrun] at hagain
  cases hagain
  exact hfound

end SqlRecords

/-! ## Scopes that are too long -/

/-- Below a base directory no directory with a long key is listed. -/
theorem fileNames_of_long_key (hbase : disk.kind? store.config.baseDir = some .directory)
    (hlong : ¬Fits [scope.session.text]) (category : Category) :
    disk.fileNames (store.folder scope category) = .error .nameTooLong := by
  obtain ⟨entries, hentries⟩ := find_of_kind?_directory hbase
  have hfind := find_below hentries (scope.isName_of_mem_place category)
    (scope.place_ne_nil category)
  have hdescend : (FileTree.directory entries).descend (scope.place category) =
      .error .nameTooLong := by
    have hsession : maxNameLength < scope.session.text.utf8ByteSize := by
      simpa [Fits] using hlong
    rw [Scope.place, Scope.keys, List.cons_append, FileTree.descend, List.foldlM_cons,
      FileTree.child, if_pos hsession]
    rfl
  rw [Disk.fileNames, folder_eq_below, hfind, hdescend, ← folder_eq_below]
  rcases refuseText_folder hbase scope category with htext | htext
  · rw [htext]
    rfl
  · rw [htext]
    rfl

/-- **A search in a scope with a long key fails**, whatever is stored and whatever is searched. -/
theorem run_declaring_of_long_key (hbase : disk.kind? store.config.baseDir = some .directory)
    (hlong : ¬Fits [scope.session.text]) (unitName : String) :
    disk.run (store.declaring scope unitName) = (.error (.io .nameTooLong), disk) := by
  have hfirst : disk.run (sqlFilesIn (store.folder scope .source)) =
      (.error (.io .nameTooLong), disk) := by
    rw [sqlFilesIn, run_bind, run_filesIn, fileNames_of_long_key hbase hlong]
    rfl
  rw [declaring, Category.all, List.map_cons, run_bind, sqlRecords, run_bind, hfirst]

/-! ## What is added -/

/-- What adding a source reports is the record of the file in its place. -/
theorem recordOf_of_add (h : disk.run (store.add scope name content) = (.ok record, next)) :
    Path.IsName name ∧
      next.run (store.recordOf (store.sourcePath scope name)) = (.ok record, next) := by
  rw [add, run_bind_eq_ok] at h
  obtain ⟨segment, same, hresult, h⟩ := h
  obtain rfl := text_of_ofFileName (Prod.mk.inj hresult).1
  simp only [run_bind_eq_ok] at h
  obtain ⟨_, provided, -, _, stored, -, hrun⟩ := h
  obtain rfl := (reads_recordOf store _).eq_of_ok hrun
  exact ⟨segment.isName, hrun⟩

end Store

namespace Outliner

variable {outliner : Outliner} {scope : Scope} {disk next : Disk} {name : String}
  {content : ByteArray} {path : Path} {record : SourceRecord}

/-- Changes keep the record of a source. -/
theorem Changes.run_recordOf (hchanges : Changes outliner scope disk next)
    (hsource : outliner.store.IsSource scope name path)
    (h : disk.run (outliner.store.recordOf path) = (.ok record, disk)) :
    next.run (outliner.store.recordOf path) = (.ok record, next) := by
  induction hchanges with
  | refl => exact h
  | @tail reached last _ hchange ih =>
    have ⟨_, _, stored, hpath, hstored, _⟩ := hsource
    rw [hpath] at ih
    obtain ⟨-, text, htext, rfl⟩ := Store.recordOf_eq_ok hstored ih
    obtain ⟨-, content, hread, hdecode⟩ := Store.textOf_eq_ok htext
    rw [← hpath] at hread
    rw [Store.run_recordOf_of_read (hchange.read_source hsource hread), hdecode, hpath,
      Path.fileName?_join _ hstored]
    rfl

/-- The record of an added `.sql` source is among those of the scope later. -/
theorem mem_of_added {records : List SourceRecord} {earlier later : List Request} {made : Disk}
    (hnamed : outliner.store.SourcesNamed scope disk)
    (hadd : (outliner.after scope disk earlier).run (outliner.store.add scope name content) =
      (.ok record, made)) (hsql : FileName.isSql name = true)
    (h : outliner.store.SqlRecords scope
      (outliner.after scope disk (earlier ++ .add name content :: later)) records) :
    record ∈ records := by
  obtain ⟨hname, hrun⟩ := Store.recordOf_of_add hadd
  have hmade : ((outliner.after scope disk earlier).run
      (outliner.perform scope (.add name content))).2 = made := by
    rw [perform, run_bind, hadd]
    rfl
  have hearlier := (changes_after hnamed earlier).sourcesNamed hnamed
  have hmadeNamed := (changes_perform hearlier (.add name content)).sourcesNamed hearlier
  rw [hmade] at hmadeNamed
  have hlater : outliner.after scope disk (earlier ++ .add name content :: later) =
      outliner.after scope made later := by
    rw [after_append, after, hmade]
  rw [hlater] at h
  have hsource : outliner.store.IsSource scope name (outliner.store.sourcePath scope name) :=
    isSource_self (Category.ofName_mem_sources name) hname
  have hkept := (changes_after hmadeNamed later).run_recordOf hsource hrun
  obtain ⟨-, text, htext, -⟩ := Store.recordOf_eq_ok hname hkept
  obtain ⟨-, bytes, hread, -⟩ := Store.textOf_eq_ok htext
  have hfile := (read_eq_ok_iff.mp hread).2
  rw [goal_join _ _ hname] at hfile
  exact h.mem hfile hsql hkept

/-- **What a search for a unit gives.** After requests in a scope from an empty base directory on,
it gives the records of exactly the `.sql` files that declare the unit, in the order of categories
and of names. What was reported of an added `.sql` source is there once if it declares the unit, and
else not at all. A search fails only in a scope that is too long to be listed. -/
theorem declaring_after {reached : Disk}
    (hempty : disk.find outliner.store.config.baseDir = .ok (.directory []))
    (scope : Scope) (requests : List Request)
    (hreached : outliner.after scope disk requests = reached)
    (hdecodes : outliner.store.SqlDecodes scope reached) (unitName : String) :
    (∃ records found, outliner.store.SqlRecords scope reached records ∧
      found = records.filter (SourceRecord.declares unitName) ∧
      reached.run (outliner.store.declaring scope unitName) = (.ok found, reached) ∧
      ∀ earlier name content later record made, requests = earlier ++ .add name content :: later →
        (outliner.after scope disk earlier).run (outliner.store.add scope name content) =
          (.ok record, made) → FileName.isSql name = true →
        found.count record = if record.declares unitName then 1 else 0) ∨
      reached.run (outliner.store.declaring scope unitName) =
        (.error (.io .nameTooLong), reached) ∧ outliner.store.TooLong scope := by
  have hfiled : outliner.store.Filed scope reached := hreached ▸ filed_after hempty scope requests
  unfold Store.declaring
  rw [run_bind]
  rcases hfiled.run_sqlRecords hdecodes Category.all with
    ⟨records, hreads, hrun⟩ | ⟨hrefused, hlong⟩
  · have hrecords : outliner.store.SqlRecords scope reached records :=
      ⟨_, Store.sqlNames_sqlListing outliner.store scope reached, hreads⟩
    refine .inl ⟨records, _, hrecords, rfl, ?_, ?_⟩
    · rw [hrun]
      rfl
    · rintro earlier name content later record made rfl hadd hsql
      have hnamed := (filed_of_empty hempty scope).toOrderly.sourcesNamed
      have hmem := mem_of_added hnamed hadd hsql (hreached ▸ hrecords)
      split
      · rename_i hdeclares
        rw [List.count_filter hdeclares]
        exact List.count_eq_one_of_mem (hrecords.nodup hfiled) hmem
      · rename_i hother
        exact List.count_eq_zero.mpr fun hfound => hother (List.mem_filter.mp hfound).2
  · rw [hrefused]
    exact .inr ⟨rfl, hlong⟩

/-! ### Sources of one unit -/

/-- An outliner that reads every file as a text. -/
def western : Outliner where
  store := ⟨{ baseDir := ⟨"base"⟩, encodings := ["latin1"] }⟩
  frontEnd := FrontEnd.dml

/-- Sources that declare a unit `p` in two categories. -/
def withUnit : List Request :=
  [.add "b.SQL" "CREATE PROCEDURE p IS".toUTF8, .add "a_ddl.sql" "create procedure P as".toUTF8,
    .once "b.SQL"]

/-- Both sources are found under the name of the unit, and each once. -/
theorem declaring_after_units :
    ∃ found, (western.after plainScope emptyBase withUnit).run
        (western.store.declaring plainScope "P") =
          (.ok found, western.after plainScope emptyBase withUnit) ∧
      found.count ⟨"b.SQL", "CREATE PROCEDURE p IS", some "p", .plsql, none⟩ = 1 ∧
      found.count ⟨"a_ddl.sql", "create procedure P as", some "P", .ddl, none⟩ = 1 := by
  have hwestern : Encoding.windows1252 ∈ (Decoder.ofLabels ["latin1"]).fallbacks := by
    decide +kernel
  have hdecodes : western.store.SqlDecodes plainScope
      (western.after plainScope emptyBase withUnit) :=
    @Store.sqlDecodes_of_mem_fallbacks western.store Encoding.windows1252 hwestern (fun _ => rfl) _ _
  rcases declaring_after (by rfl) plainScope withUnit rfl hdecodes "P" with
    ⟨records, found, -, -, hrun, hcount⟩ | ⟨-, hlong⟩
  · have hfirst := hcount [] "b.SQL" _ _
      ⟨"b.SQL", "CREATE PROCEDURE p IS", some "p", .plsql, none⟩ _
      rfl (run_eq_ok_of_toOption (by decide +kernel)) (by decide +kernel)
    have hsecond := hcount [_] "a_ddl.sql" _ _
      ⟨"a_ddl.sql", "create procedure P as", some "P", .ddl, none⟩ _
      rfl (run_eq_ok_of_toOption (by decide +kernel)) (by decide +kernel)
    exact ⟨found, hrun, hfirst, hsecond⟩
  · refine absurd hlong ?_
    rintro (hkeys | ⟨category, hrefused⟩)
    · exact hkeys (by decide +kernel)
    · revert hrefused
      cases category <;> decide +kernel

theorem isSegment_letters (count : Nat) :
    isSegment (String.ofList (.replicate (count + 1) 'k')) = true := by
  have hne : ∀ short : String, short.toList.head? ≠ some 'k' →
      String.ofList (.replicate (count + 1) 'k') ≠ short := by
    rintro _ hshort rfl
    exact hshort (by rw [String.toList_ofList, List.replicate_succ, List.head?_cons])
  simp only [isSegment, hne "" (by decide), hne "." (by decide), hne ".." (by decide), ne_eq,
    not_false_eq_true, decide_true, Bool.true_and, String.toList_ofList, List.all_replicate,
    Nat.succ_ne_zero, if_false]
  decide

/-- A scope whose key is longer than the name of a directory may be. -/
def longScope : Scope := ⟨⟨String.ofList (.replicate 300 'k'), isSegment_letters 299⟩, none⟩

/-- **A search can fail where nothing was stored**: the directories of a scope with a long key
cannot be listed. -/
theorem declaring_not_ok :
    ¬ ∀ (outliner : Outliner) (disk : Disk) (scope : Scope) (requests : List Request)
      (unitName : String), disk.find outliner.store.config.baseDir = .ok (.directory []) →
      outliner.store.SqlDecodes scope (outliner.after scope disk requests) →
      ∃ found next, (outliner.after scope disk requests).run
        (outliner.store.declaring scope unitName) = (.ok found, next) := by
  intro hall
  have hdecodes : inBase.store.SqlDecodes longScope (inBase.after longScope emptyBase []) := by
    intro category name content hfile
    have hscope := vacant_scopeRoot (vacant_of_find find_emptyBase) longScope
    have hnone := (hscope.join (Store.isName_folderName category)).fileAt name []
    rw [after] at hfile
    exact absurd (hfile.symm.trans hnone) (by simp)
  obtain ⟨found, next, hrun⟩ := hall inBase emptyBase longScope [] "x" find_emptyBase hdecodes
  have hbase : emptyBase.kind? inBase.store.config.baseDir = some .directory := by
    rw [kind?, find_emptyBase]
  rw [after, Store.run_declaring_of_long_key hbase (by decide +kernel)] at hrun
  cases hrun

end Outliner

end DmlOutline
