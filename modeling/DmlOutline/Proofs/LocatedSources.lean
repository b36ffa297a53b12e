import DmlOutline.Proofs.ByteOrder
import DmlOutline.Proofs.KeptFiles
import DmlOutline.Proofs.PavedWays
import Mathlib.Tactic.MkIffOfInductiveProp

/-!
# Where sources are found

A name means the file that has exactly this name, in the first category of sources that has one.
Only if no category has one it means a file whose name is the same but for case, again in the first
category that has any, and there the least one by its bytes.

* `FirstOf` — the first member of a list with a property.
* `Store.Has` — a category with a file of some name; `Store.LeastAlike` — the least of the files in
  a category whose names are the same but for case.
* `Store.Means` — the path of the file that a name means.

Principal results: `Store.run_firstAnyCase`: the search without regard to case;
`Store.findSource_means`.
-/

namespace DmlOutline

open Disk Text

/-! ## First members -/

/-- The first member of a list with a property. -/
def FirstOf {α : Type} (p : α → Prop) (list : List α) (a : α) : Prop :=
  ∃ before after, list = before ++ a :: after ∧ p a ∧ ∀ other ∈ before, ¬p other

@[simp]
theorem not_firstOf_nil {α : Type} (p : α → Prop) (a : α) : ¬FirstOf p [] a := by
  rintro ⟨_ | _, after, hlist, -⟩ <;> cases hlist

theorem firstOf_cons {α : Type} {p : α → Prop} {a b : α} {list : List α} :
    FirstOf p (b :: list) a ↔ p b ∧ a = b ∨ ¬p b ∧ FirstOf p list a := by
  constructor
  · rintro ⟨_ | ⟨first, before⟩, after, hlist, ha, hbefore⟩
    · obtain ⟨rfl, -⟩ := List.cons.inj hlist
      exact .inl ⟨ha, rfl⟩
    · obtain ⟨rfl, hrest⟩ := List.cons.inj hlist
      rw [List.forall_mem_cons] at hbefore
      exact .inr ⟨hbefore.1, before, after, hrest, ha, hbefore.2⟩
  · rintro (⟨hb, rfl⟩ | ⟨hb, before, after, rfl, ha, hbefore⟩)
    · exact ⟨[], list, rfl, hb, fun _ h => absurd h List.not_mem_nil⟩
    · exact ⟨b :: before, after, rfl, ha, List.forall_mem_cons.mpr ⟨hb, hbefore⟩⟩

theorem FirstOf.mem {α : Type} {p : α → Prop} {list : List α} {a : α} (h : FirstOf p list a) :
    a ∈ list := by
  obtain ⟨before, after, rfl, -⟩ := h
  exact List.mem_append_right _ List.mem_cons_self

theorem FirstOf.holds {α : Type} {p : α → Prop} {list : List α} {a : α} (h : FirstOf p list a) :
    p a := by
  obtain ⟨before, after, -, ha, -⟩ := h
  exact ha

theorem FirstOf.unique {α : Type} {p : α → Prop} {list : List α} {a b : α}
    (ha : FirstOf p list a) (hb : FirstOf p list b) : a = b := by
  induction list with
  | nil => exact (not_firstOf_nil p a ha).elim
  | cons first rest ih =>
    rw [firstOf_cons] at ha hb
    rcases ha with ⟨hp, rfl⟩ | ⟨hp, ha⟩ <;> rcases hb with ⟨hp', rfl⟩ | ⟨hp', hb⟩
    · rfl
    · exact (hp' hp).elim
    · exact (hp hp').elim
    · exact ih ha hb

theorem find?_eq_some_iff_firstOf {α : Type} {p : α → Bool} {list : List α} {a : α} :
    list.find? p = some a ↔ FirstOf (p · = true) list a := by
  rw [List.find?_eq_some_iff_append, FirstOf]
  constructor
  · rintro ⟨ha, before, after, hlist, hbefore⟩
    exact ⟨before, after, hlist, ha, by simpa using hbefore⟩
  · rintro ⟨before, after, hlist, ha, hbefore⟩
    exact ⟨ha, before, after, hlist, by simpa using hbefore⟩

/-- What is found first in names that are in order is the least one. -/
theorem find?_sorted_eq_some_iff {p : String → Bool} {names : List String} {name : String}
    (hsorted : names.Pairwise (· < ·)) : names.find? p = some name ↔
      name ∈ names ∧ p name = true ∧ ∀ other ∈ names, p other = true → name ≤ other := by
  have hleast : ∀ {name}, names.find? p = some name →
      ∀ other ∈ names, p other = true → name ≤ other := by
    intro name hfind other hother hp
    obtain ⟨-, before, after, rfl, hbefore⟩ := List.find?_eq_some_iff_append.mp hfind
    rcases List.mem_append.mp hother with hmem | hmem
    · have hnot := hbefore other hmem
      rw [hp] at hnot
      cases hnot
    · rcases List.mem_cons.mp hmem with rfl | hafter
      · exact String.le_refl _
      · have hlt := List.rel_of_pairwise_cons (List.pairwise_append.mp hsorted).2.1 hafter
        exact le_of_lt hlt
  constructor
  · intro hfind
    exact ⟨List.mem_of_find?_eq_some hfind, List.find?_some hfind, hleast hfind⟩
  · rintro ⟨hmem, hp, hle⟩
    obtain ⟨found, hfound⟩ := Option.isSome_iff_exists.mp (List.find?_isSome.mpr ⟨name, hmem, hp⟩)
    have heq := String.le_antisymm (hleast hfound name hmem hp)
      (hle found (List.mem_of_find?_eq_some hfound) (List.find?_some hfound))
    rw [hfound, heq]

namespace Store

variable {store : Store} {scope : Scope} {disk : Disk} {name stored : String} {category : Category}
  {categories : List Category} {path : Path}

/-! ## What a name means -/

/-- There is a file with a name in the directory of a category. -/
def Has (store : Store) (scope : Scope) (disk : Disk) (category : Category) (name : String) :
    Prop :=
  Path.IsName name ∧ disk.kind? (store.folder scope category / name) = some .file

/-- There is a file in the directory of a category whose name is the same but for case. -/
def HasAlike (store : Store) (scope : Scope) (disk : Disk) (name : String) (category : Category)
    (stored : String) : Prop :=
  store.Has scope disk category stored ∧ sameName name stored = true

/-- Of the files in the directory of a category whose names are the same but for case, the one whose
bytes come first. -/
@[mk_iff]
structure LeastAlike (store : Store) (scope : Scope) (disk : Disk) (name : String)
    (category : Category) (stored : String) : Prop where
  hasAlike : store.HasAlike scope disk name category stored
  least : ∀ other, store.HasAlike scope disk name category other →
    stored.toUTF8.data.toList ≤ other.toUTF8.data.toList

/-- The path of the file that a name means. -/
inductive Means (store : Store) (scope : Scope) (disk : Disk) (name : String) : Path → Prop
  /-- The first category that has exactly this name. -/
  | exact {category : Category}
    (hfirst : FirstOf (store.Has scope disk · name) Category.sources category) :
    Means store scope disk name (store.folder scope category / name)
  /-- Only if there is none: the first category that has it in another case. -/
  | alike {category : Category} {stored : String}
    (hnone : ∀ category ∈ Category.sources, ¬store.Has scope disk category name)
    (hfirst : FirstOf (fun category => ∃ stored, store.HasAlike scope disk name category stored)
      Category.sources category)
    (hleast : store.LeastAlike scope disk name category stored) :
    Means store scope disk name (store.folder scope category / stored)

/-- The directory of each category of sources is there, or is missing. -/
def Searchable (store : Store) (scope : Scope) (disk : Disk) : Prop :=
  ∀ category ∈ Category.sources, disk.kind? (store.folder scope category) = some .directory ∨
    disk.find (store.folder scope category) = .error .notFound

/-! ## The search without regard to case -/

section Searchable

variable (hnamed : store.SourcesNamed scope disk) (hsearch : store.Searchable scope disk)

include hnamed hsearch

/-- What is listed for a category is what it has, in order and each once. -/
theorem exists_listed (hcategory : category ∈ Category.sources) :
    ∃ names, namesOrNone (disk.fileNames (store.folder scope category)) = .ok names ∧
      names.Pairwise (· < ·) ∧ ∀ stored, stored ∈ names ↔ store.Has scope disk category stored := by
  simp only [Has, kind?_eq_file_iff]
  rcases hsearch category hcategory with hdir | hmissing
  · obtain ⟨names, hnames, hsorted, hmem⟩ := exists_fileNames hdir
    refine ⟨names, by rw [hnames]; rfl, hsorted, fun stored => ⟨fun hstored => ?_, ?_⟩⟩
    · obtain ⟨content, hfile⟩ := fileAt_of_mem_fileNames hnames hstored
      have hname := hnamed category hcategory stored content hfile
      exact ⟨hname, (hmem stored hname).mp hstored⟩
    · rintro ⟨hname, hread⟩
      exact (hmem stored hname).mpr hread
  · refine ⟨[], by rw [Disk.fileNames, hmissing]; rfl, .nil, fun stored => ?_⟩
    refine ⟨fun h => (List.not_mem_nil h).elim, ?_⟩
    rintro ⟨hname, hread⟩
    have hkind := kind?_eq_file_iff.mpr hread
    have hdir := kind?_of_join hname (Path.text_join_ne_empty _ (isName_folderName category))
      (hkind.trans_ne (Option.some_ne_none _))
    obtain ⟨entries, hentries⟩ := find_of_kind?_directory hdir
    cases hmissing.symm.trans hentries

/-- A search in one directory gives the least name. -/
theorem run_findAnyCase_folder (hcategory : category ∈ Category.sources) (name : String) :
    ∃ found, disk.run (findAnyCase (store.folder scope category) name) = (.ok found, disk) ∧
      (∀ path, found = some path ↔ ∃ stored, store.LeastAlike scope disk name category stored ∧
        store.folder scope category / stored = path) ∧
      (found = none ↔ ∀ stored, ¬store.HasAlike scope disk name category stored) := by
  obtain ⟨names, hnames, hsorted, hmem⟩ := exists_listed hnamed hsearch hcategory
  have hfind : (names.map (store.folder scope category / ·)).find? (nameSatisfies (sameName name)) =
      (names.find? (sameName name)).map (store.folder scope category / ·) := by
    rw [List.find?_map, List.find?_congr fun stored hstored => ?_]
    rw [Function.comp_apply, nameSatisfies, Path.fileName?_join _ ((hmem stored).mp hstored).1,
      Option.any_some]
  refine ⟨(names.find? (sameName name)).map (store.folder scope category / ·), ?_, ?_, ?_⟩
  · rw [run_findAnyCase, run_filesIn, hnames, ← hfind]
    rfl
  · intro path
    rw [Option.map_eq_some_iff]
    refine exists_congr fun stored => and_congr_left fun _ => ?_
    rw [find?_sorted_eq_some_iff hsorted, ← and_assoc, leastAlike_iff]
    simp only [HasAlike, hmem, bytes_le_iff, and_imp]
  · rw [Option.map_eq_none_iff, List.find?_eq_none]
    simp only [HasAlike, hmem, not_and]

/-- **A search without regard to case gives the least name in the first directory that has any.** -/
theorem run_firstAnyCase (hsources : ∀ category ∈ categories, category ∈ Category.sources)
    (name : String) : ∃ found,
      disk.run (firstAnyCase name (categories.map (store.folder scope))) = (.ok found, disk) ∧
        (∀ path, found = some path ↔ ∃ category stored,
          FirstOf (fun category => ∃ stored, store.HasAlike scope disk name category stored)
            categories category ∧
          store.LeastAlike scope disk name category stored ∧
            store.folder scope category / stored = path) ∧
        (found = none ↔ ∀ category ∈ categories, ∀ stored,
          ¬store.HasAlike scope disk name category stored) := by
  induction categories with
  | nil => exact ⟨none, rfl, by simp, by simp⟩
  | cons category rest ih =>
    rw [List.forall_mem_cons] at hsources
    obtain ⟨hcategory, hrest⟩ := hsources
    obtain ⟨first, hfirst, hsome, hnone⟩ :=
      run_findAnyCase_folder hnamed hsearch hcategory name
    obtain ⟨later, hlater, hlaterSome, hlaterNone⟩ := ih hrest
    rw [List.map_cons, firstAnyCase, run_bind, hfirst]
    simp only [firstOf_cons, List.forall_mem_cons]
    cases first with
    | none =>
      have hno := hnone.mp rfl
      refine ⟨later, hlater, fun path => ?_, ?_⟩
      · rw [hlaterSome]
        simp only [hno, exists_false, not_false_eq_true, false_and, false_or, true_and]
      · rw [hlaterNone]
        exact ⟨fun h => ⟨hno, h⟩, And.right⟩
    | some path =>
      obtain ⟨stored, hleast, -⟩ := (hsome path).mp rfl
      have hany : ∃ stored, store.HasAlike scope disk name category stored :=
        ⟨stored, hleast.hasAlike⟩
      refine ⟨some path, rfl, fun other => ?_, ?_⟩
      · rw [hsome]
        simp only [hany, true_and, not_true_eq_false, false_and, or_false, exists_eq_left,
          exists_and_left]
      · exact ⟨fun h => absurd h (Option.some_ne_none _),
          fun h => absurd hleast.hasAlike (h.1 stored)⟩

end Searchable

/-! ## The whole search -/

/-- **A search gives the file that a name means, and none if no category has a file whose name is
the same but for case.** -/
theorem findSource_means (hnamed : store.SourcesNamed scope disk)
    (hsearch : store.Searchable scope disk) (hname : isSegment name = true) :
    ∃ found, disk.run (store.findSource scope name) = (.ok found, disk) ∧
      (∀ path, found = some path ↔ store.Means scope disk name path) ∧
      (found = none ↔ ∀ category ∈ Category.sources, ∀ stored,
        ¬store.HasAlike scope disk name category stored) := by
  obtain ⟨segment, rfl⟩ : ∃ segment : Segment, segment.text = name := ⟨⟨name, hname⟩, rfl⟩
  have hexact : ((Category.sources.map (store.folder scope)).map (· / segment.text)).find?
      (fun path => disk.kind? path = some .file) =
      (Category.sources.find? fun category =>
        disk.kind? (store.folder scope category / segment.text) = some .file).map
          (store.folder scope · / segment.text) := by
    rw [List.map_map, List.find?_map]
    rfl
  have hhas : ∀ category, store.Has scope disk category segment.text ↔
      decide (disk.kind? (store.folder scope category / segment.text) = some .file) = true := by
    intro category
    rw [Has, decide_eq_true_eq]
    exact and_iff_right segment.isName
  rw [findSource, ofFileName_text]
  simp only [run_bind, run_ofResult, run_firstFile]
  rw [hexact]
  cases hfirst : Category.sources.find? fun category =>
      disk.kind? (store.folder scope category / segment.text) = some .file with
  | some category =>
    rw [find?_eq_some_iff_firstOf] at hfirst
    simp only [← hhas] at hfirst
    refine ⟨some (store.folder scope category / segment.text), rfl, fun path => ?_, ?_⟩
    · constructor
      · intro hpath
        rw [← Option.some.inj hpath]
        exact .exact hfirst
      · rintro (⟨hother⟩ | ⟨hnone, -, -⟩)
        · rw [hfirst.unique hother]
        · exact (hnone category hfirst.mem hfirst.holds).elim
    · refine ⟨fun h => absurd h (Option.some_ne_none _), fun hnone => ?_⟩
      exact (hnone category hfirst.mem segment.text ⟨hfirst.holds, by simp [sameName]⟩).elim
  | none =>
    simp only [List.find?_eq_none, ← hhas] at hfirst
    obtain ⟨found, hrun, hsome, hnone⟩ :=
      run_firstAnyCase hnamed hsearch (fun _ h => h) segment.text
    refine ⟨found, hrun, fun path => ?_, hnone⟩
    rw [hsome]
    constructor
    · rintro ⟨category, stored, hcategory, hleast, rfl⟩
      exact .alike hfirst hcategory hleast
    · rintro (⟨hexact⟩ | ⟨-, hcategory, hleast⟩)
      · exact (hfirst _ hexact.mem hexact.holds).elim
      · exact ⟨_, _, hcategory, hleast, rfl⟩

/-- A disk with the same name in three cases, once for a directory. There are no sequences. -/
def withAlike : Disk where
  root := .directory [("base", .directory [("s", .directory
    [("src", .directory [("pkG.sql", .file .empty), ("pkg.sql", .directory []),
        ("Pkg.SQL", .file .empty)]),
      ("ddl", .directory [("pkg.sql", .file .empty)])])])]
  here := []

theorem has_withAlike : Outliner.inBase.store.Has Outliner.plainScope withAlike .source stored →
    stored = "pkG.sql" ∨ stored = "Pkg.SQL" := by
  rintro ⟨hname, hkind⟩
  obtain ⟨content, hread⟩ := kind?_eq_file_iff.mp hkind
  have hfile := (read_eq_ok_iff.mp hread).2
  have hgoal : withAlike.goal (Outliner.inBase.store.folder Outliner.plainScope .source) =
      ["base", "s", "src"] := by decide
  rw [goal_join _ _ hname, hgoal] at hfile
  by_contra hother
  rw [not_or] at hother
  have hnone : withAlike.fileAt (["base", "s", "src"] ++ [stored]) = none := by
    by_cases hdir : stored = "pkg.sql"
    · rw [hdir]
      rfl
    · simp [withAlike, Disk.fileAt, FileTree.fileAt, FileTree.get?, List.lookup_cons,
        beq_false_of_ne hother.1, beq_false_of_ne hother.2, beq_false_of_ne hdir]
  rw [hnone] at hfile
  cases hfile

/-- A category that comes later is searched for the exact name first. -/
theorem findSource_means_later_category :
    withAlike.run (Outliner.inBase.store.findSource Outliner.plainScope "pkg.sql") =
        (.ok (some ⟨"base/s/ddl/pkg.sql"⟩), withAlike) ∧
      withAlike.run (Outliner.inBase.store.findSource Outliner.plainScope "PKG.sql") =
        (.ok (some ⟨"base/s/src/Pkg.SQL"⟩), withAlike) := by
  have hnamed : Outliner.inBase.store.SourcesNamed Outliner.plainScope withAlike := by
    refine (filesNamed_of_named ?_).sourcesNamed _ _
    simp only [withAlike, FileTree.Named, FileTree.EntriesNamed, FileTree.EntryNamed]
    decide
  have hsearch : Outliner.inBase.store.Searchable Outliner.plainScope withAlike := by
    intro category hcategory
    cases category with
    | source => exact .inl (by decide)
    | ddl => exact .inl (by decide)
    | sequence => exact .inr rfl
    | outlines => exact absurd hcategory (by decide)
  have hlater : isSegment "pkg.sql" = true := by decide
  have hother : isSegment "PKG.sql" = true := by decide
  obtain ⟨found, hrun, hmeans, -⟩ := findSource_means hnamed hsearch hlater
  obtain ⟨found', hrun', hmeans', -⟩ := findSource_means hnamed hsearch hother
  have hexact : Outliner.inBase.store.Means Outliner.plainScope withAlike "pkg.sql"
      ⟨"base/s/ddl/pkg.sql"⟩ := by
    refine .exact ⟨[.source], [.sequence], rfl, ⟨by decide, by decide⟩, ?_⟩
    rw [List.forall_mem_singleton]
    exact fun h => absurd h.2 (by decide)
  have hleast : Outliner.inBase.store.LeastAlike Outliner.plainScope withAlike "PKG.sql" .source
      "Pkg.SQL" := by
    refine ⟨⟨⟨by decide, by decide⟩, by decide +kernel⟩, fun other hother => ?_⟩
    rw [bytes_le_iff]
    rcases has_withAlike hother.1 with rfl | rfl <;> decide
  have halike : Outliner.inBase.store.Means Outliner.plainScope withAlike "PKG.sql"
      ⟨"base/s/src/Pkg.SQL"⟩ := by
    refine .alike (fun category _ h => ?_)
      ⟨[], [.ddl, .sequence], rfl, ⟨_, hleast.hasAlike⟩, fun _ h => absurd h List.not_mem_nil⟩ hleast
    cases category <;> exact absurd h.2 (by decide)
  rw [(hmeans _).mpr hexact] at hrun
  rw [(hmeans' _).mpr halike] at hrun'
  exact ⟨hrun, hrun'⟩

end Store

end DmlOutline
