import DmlOutline.Proofs.OutlineCache
import DmlOutline.Proofs.SameTrees

/-!
# Reading inside a scope

What is searched and read for a scope is below its directory, so that nothing outside of it makes a
difference. Sources are searched under names that were checked. The place of an outline is made of a
name as it is, and a name with steps up in it leads out of the scope.

* `Store.OutlineStays` — names whose outlines are in the scope.

Principal results: `Store.agrees_in_scope`; `Store.outlineStays_of_isName`: names that were checked.
-/

namespace DmlOutline.Store

open Disk Outliner

variable {store : Store} {scope : Scope} {a b : Disk} {name unitName : String}
  {paths dirs : List Path}

/-! ## What lists of records depend on -/

theorem agrees_recordsOf (h : ∀ path ∈ paths, a.read path = b.read path) :
    Agrees a b (store.recordsOf paths) := by
  induction paths with
  | nil => exact .pure _
  | cons path rest ih =>
    refine .bind (agrees_recordOf (h path List.mem_cons_self)) ?_
    intro record _
    refine .bind (ih fun other hother => h other (List.mem_cons_of_mem path hother)) ?_
    exact fun _ _ => .pure _

/-- The records of directories depend on the files in them. -/
theorem agrees_sqlRecords
    (hnames : ∀ dir ∈ dirs, namesOrNone (a.fileNames dir) = namesOrNone (b.fileNames dir))
    (hread : ∀ dir ∈ dirs, ∀ name content, a.fileAt (a.goal dir ++ [name]) = some content →
      a.read (dir / name) = b.read (dir / name)) :
    Agrees a b (store.sqlRecords dirs) := by
  induction dirs with
  | nil => exact .pure _
  | cons dir rest ih =>
    refine .bind (agrees_sqlFilesIn (hnames dir List.mem_cons_self)) ?_
    intro paths hpaths
    refine .bind (agrees_recordsOf fun path hpath => ?_) ?_
    · obtain ⟨-, hall⟩ := sqlFilesIn_eq_ok hpaths
      obtain ⟨name, content, rfl, hcontent⟩ := hall path hpath
      exact hread dir List.mem_cons_self name content hcontent
    · intro records _
      refine .bind (ih ?_ ?_) fun _ _ => .pure _
      · exact fun other hother => hnames other (List.mem_cons_of_mem dir hother)
      · exact fun other hother => hread other (List.mem_cons_of_mem dir hother)

theorem agrees_hasOutline
    (h : a.kind? (store.outlinePath scope name) = b.kind? (store.outlinePath scope name)) :
    Agrees a b (store.hasOutline scope name) :=
  .isFile h

/-- What is loaded depends on the file of the outline, if there is one. -/
theorem agrees_loadOutline
    (hkind : a.kind? (store.outlinePath scope name) = b.kind? (store.outlinePath scope name))
    (hread : a.kind? (store.outlinePath scope name) = some .file →
      a.read (store.outlinePath scope name) = b.read (store.outlinePath scope name)) :
    Agrees a b (store.loadOutline scope name) := by
  refine .bind (.isFile hkind) ?_
  intro found hfound
  cases found with
  | false => exact .pure _
  | true =>
    rw [run_isFile] at hfound
    refine .bind (.read _ (hread (by simpa using hfound))) ?_
    intro bytes _
    cases String.fromUTF8? bytes with
    | none => exact .throw _
    | some text =>
      simp only
      cases Outline.read? text with
      | none => exact .throw _
      | some outline => exact .pure _

/-! ## Places in a scope -/

theorem endsInSlash_scopeRoot (store : Store) (scope : Scope) :
    (store.scopeRoot scope).endsInSlash = false := by
  unfold scopeRoot Scope.dir
  cases scope.project with
  | none => exact Path.endsInSlash_join _ scope.session.isName
  | some project => exact Path.endsInSlash_join _ project.isName

theorem goesOn_folder (store : Store) (scope : Scope) (category : Category) :
    GoesOn (store.scopeRoot scope) [.down category.folderName] (store.folder scope category) :=
  (goesOn_self (endsInSlash_scopeRoot store scope)).join (isName_folderName category)

/-- A name whose outline is in the scope: the way to it goes up no farther than it went down. -/
def OutlineStays (name : String) : Prop :=
  Path.IsRelative (FileName.base name ++ ".json") ∧
    Stays 1 (Path.steps ⟨FileName.base name ++ ".json"⟩)

/-- The outline of a name that was checked is in the scope. -/
theorem outlineStays_of_isName (h : Path.IsName name) : OutlineStays name := by
  have houtline := isName_outline h
  refine ⟨houtline.isRelative, ?_⟩
  rw [Path.steps_name houtline]
  trivial

theorem goesOn_outlinePath (store : Store) (scope : Scope) (h : OutlineStays name) :
    GoesOn (store.scopeRoot scope)
      (.down Category.outlines.folderName :: Path.steps ⟨FileName.base name ++ ".json"⟩)
      (store.outlinePath scope name) := by
  have hlast : (FileName.base name ++ ".json").toList.getLast? = some 'n' := by
    rw [String.toList_append, List.getLast?_append]
    rfl
  refine (goesOn_folder store scope .outlines).join_relative h.1 ?_ ?_
  · intro hempty
    rw [hempty] at hlast
    cases hlast
  · rw [Path.endsInSlash, hlast]
    rfl

section SameScope

variable (hdir : a.kind? (store.scopeRoot scope) = some .directory)
  (hsame : a.SameAt b (store.scopeRoot scope))

include hdir hsame

theorem sameAt_folder (category : Category) : a.SameAt b (store.folder scope category) :=
  hsame.below hdir (goesOn_folder store scope category) trivial

theorem sameAt_entry (category : Category) (h : Path.IsName name) :
    a.SameAt b (store.folder scope category / name) :=
  hsame.below hdir ((goesOn_folder store scope category).join h) trivial

theorem sameAt_outlinePath (h : OutlineStays name) : a.SameAt b (store.outlinePath scope name) :=
  hsame.below hdir (goesOn_outlinePath store scope h) h.2

/-- A search in a scope depends on nothing outside its directory. -/
theorem agrees_findSource_in_scope (name : String) : Agrees a b (store.findSource scope name) :=
  agrees_findSource
    (fun category _ _ hname => (sameAt_entry hdir hsame category hname).kind?_eq)
    (fun category _ => congrArg namesOrNone (sameAt_folder hdir hsame category).fileNames_eq)

/-- What is declared in a scope depends on nothing outside its directory. -/
theorem agrees_declaring_in_scope (hnamed : a.root.Named) (unitName : String) :
    Agrees a b (store.declaring scope unitName) := by
  refine .bind (agrees_sqlRecords (fun dir hmem => ?_) fun dir hmem name content hfile => ?_)
    fun _ _ => .pure _
  · obtain ⟨category, -, rfl⟩ := List.mem_map.mp hmem
    exact congrArg namesOrNone (sameAt_folder hdir hsame category).fileNames_eq
  · obtain ⟨category, -, rfl⟩ := List.mem_map.mp hmem
    have hname : Path.IsName name :=
      (hnamed.get? (FileTree.fileAt_eq_some_iff.mp hfile)).2 name (by simp)
    exact (sameAt_entry hdir hsame category hname).read_eq

/-- **What is searched and loaded in a scope depends on nothing outside its directory.** For
outlines that needs a name that does not lead out of the scope. -/
theorem agrees_in_scope :
    (∀ name, (a.run (store.findSource scope name)).1 = (b.run (store.findSource scope name)).1) ∧
      (a.root.Named → ∀ unitName,
        (a.run (store.declaring scope unitName)).1 =
          (b.run (store.declaring scope unitName)).1) ∧
      ∀ name, OutlineStays name →
        (a.run (store.hasOutline scope name)).1 = (b.run (store.hasOutline scope name)).1 ∧
        (a.run (store.loadOutline scope name)).1 = (b.run (store.loadOutline scope name)).1 := by
  refine ⟨fun name => (agrees_findSource_in_scope hdir hsame name).result_eq,
    fun hnamed unitName => (agrees_declaring_in_scope hdir hsame hnamed unitName).result_eq, ?_⟩
  intro name hstays
  have houtline := sameAt_outlinePath hdir hsame hstays
  exact ⟨(agrees_hasOutline houtline.kind?_eq).result_eq,
    (agrees_loadOutline houtline.kind?_eq fun _ => houtline.read_eq).result_eq⟩

end SameScope

/-! ### A scope and what is beside it -/

/-- A disk with a source in the scope `s`, no outlines yet, and other entries beside the scope. -/
def withBeside (entries : List (String × FileTree)) : Disk where
  root := .directory [("base", .directory (("s", .directory
    [("src", .directory [("a.sql", .file "SELECT".toUTF8)]), ("analysis", .directory [])]) ::
      entries))]
  here := []

/-- A scope `t` with the outline of a source `x`. -/
def otherScope : String × FileTree :=
  ("t", .directory [("analysis", .directory [("x.json", .file "[\"ROOT\", 0, 0]".toUTF8)])])

theorem sameAt_withBeside (entries entries' : List (String × FileTree)) :
    (withBeside entries).SameAt (withBeside entries') (inBase.store.scopeRoot plainScope) :=
  .inr ⟨_, _, rfl, rfl, .refl _⟩

/-- The source of the scope is found and has no outline, whatever is beside the scope. -/
theorem agrees_in_scope_beside :
    (withBeside []).kind? (inBase.store.scopeRoot plainScope) = some .directory ∧
      (withBeside []).root.Named ∧ OutlineStays "a.sql" ∧
      ((withBeside []).run (inBase.store.hasOutline plainScope "a.sql")).1 =
        ((withBeside [otherScope]).run (inBase.store.hasOutline plainScope "a.sql")).1 ∧
      ((withBeside []).run (inBase.store.declaring plainScope "p")).1 =
        ((withBeside [otherScope]).run (inBase.store.declaring plainScope "p")).1 := by
  have hnamed : (withBeside []).root.Named := by
    simp only [withBeside, FileTree.Named, FileTree.EntriesNamed, FileTree.EntryNamed]
    decide
  have hstays : OutlineStays "a.sql" := outlineStays_of_isName (by decide)
  have hdir : (withBeside []).kind? (inBase.store.scopeRoot plainScope) = some .directory := rfl
  have hall := agrees_in_scope hdir (sameAt_withBeside [] [otherScope])
  exact ⟨hdir, hnamed, hstays, (hall.2.2 "a.sql" hstays).1, hall.2.1 hnamed "p"⟩

/-- **The place of an outline can lead out of the scope.** A name with steps up in it tells whether
another scope has an outline. -/
theorem hasOutline_leaves_scope :
    ¬ ∀ (store : Store) (scope : Scope) (name : String) (a b : Disk),
      a.kind? (store.scopeRoot scope) = some .directory →
      a.SameAt b (store.scopeRoot scope) →
      (a.run (store.hasOutline scope name)).1 = (b.run (store.hasOutline scope name)).1 := by
  intro hall
  have hsame := hall inBase.store plainScope "../../t/analysis/x.sql" (withBeside [])
    (withBeside [otherScope]) rfl (sameAt_withBeside [] [otherScope])
  have hoptions := congrArg Except.toOption hsame
  revert hoptions
  decide +kernel

end DmlOutline.Store
