import DmlOutline.Proofs.AddedSources
import DmlOutline.Proofs.KeptFiles
import DmlOutline.Proofs.ScopePlaces

/-!
# Places that tell files apart

Below a base directory the place of a source tells its session, its project and its name, and the
place of an outline tells its scope and the name of its source without the extension. No source is
where an outline is. Keys and names are checked to be single entries, so each of them is one step
of a path. That alone keeps the files of a project apart from those of its session, whatever the
project is named; the directories of the two may meet.

* `Path.Meets` — two paths that lead to one place.

Principal results: `Path.meets_below_iff`: names below a path; `Store.entry_meets_iff`: files of
scopes; `Store.places_tell_files_apart`.
-/

namespace DmlOutline

open Disk

/-! ## Paths that meet -/

/-- Two paths that lead to one place, from some directory at least. A path meets itself, and so do
two paths that differ only in how they are written. -/
def Path.Meets (first second : Path) : Prop :=
  ∃ disk : Disk, disk.goal first = disk.goal second

theorem Disk.follow_filter_stay (place : Location) (steps : List Path.Step) :
    follow place (steps.filter (· ≠ .stay)) = follow place steps := by
  induction steps generalizing place with
  | nil => rfl
  | cons step rest ih => cases step <;> exact ih _

namespace Path

variable {first second base : Path} {names names' : List String}

theorem Meets.refl (path : Path) : path.Meets path :=
  ⟨⟨.directory [], []⟩, rfl⟩

/-- Slashes that are doubled and dots that stand alone make no difference to where a path leads. -/
theorem Meets.of_steps (habsolute : first.isAbsolute = second.isAbsolute)
    (hsteps : first.steps.filter (· ≠ .stay) = second.steps.filter (· ≠ .stay)) :
    first.Meets second := by
  refine ⟨⟨.directory [], []⟩, ?_⟩
  rw [goal, ← follow_filter_stay, hsteps, follow_filter_stay, start, habsolute]
  rfl

example : Meets ⟨"base//s"⟩ ⟨"base/./s/"⟩ := .of_steps (by decide) (by decide)

/-- **Different names below a path lead to different places.** -/
theorem meets_below_iff (hnames : ∀ name ∈ names, IsName name)
    (hnames' : ∀ name ∈ names', IsName name) :
    (base.below names).Meets (base.below names') ↔ names = names' := by
  constructor
  · rintro ⟨disk, hgoal⟩
    rw [goal_below disk base hnames, goal_below disk base hnames'] at hgoal
    exact List.append_cancel_left hgoal
  · rintro rfl
    exact .refl _

end Path

/-! ## Scopes and their keys -/

theorem Segment.text_of_ofScopeKey {key : String} {segment : Segment}
    (h : ofScopeKey key = .ok segment) : segment.text = key := by
  unfold ofScopeKey at h
  split at h
  · rename_i found hfound
    cases h
    exact text_of_ofText? hfound
  · cases h

namespace Scope

variable {scope scope' : Scope} {session session' : String} {project project' : Option String}

/-- A scope has the keys that it is made of. -/
theorem keys_of_make (h : make session project = .ok scope) :
    scope.session.text = session ∧ scope.project.map (·.text) = project := by
  unfold make at h
  split at h
  · cases h
  · rename_i key hkey
    cases project with
    | none =>
      cases h
      exact ⟨Segment.text_of_ofScopeKey hkey, rfl⟩
    | some project =>
      simp only at h
      split at h
      · cases h
      · rename_i inner hinner
        cases h
        exact ⟨Segment.text_of_ofScopeKey hkey,
          congrArg some (Segment.text_of_ofScopeKey hinner)⟩

/-- Scopes are the same just if they are made of the same keys. -/
theorem eq_iff_of_make (h : make session project = .ok scope)
    (h' : make session' project' = .ok scope') :
    scope = scope' ↔ session = session' ∧ project = project' := by
  constructor
  · rintro rfl
    obtain ⟨hsession, hproject⟩ := keys_of_make h
    obtain ⟨hsession', hproject'⟩ := keys_of_make h'
    exact ⟨hsession.symm.trans hsession', hproject.symm.trans hproject'⟩
  · rintro ⟨rfl, rfl⟩
    exact Except.ok.inj (h.symm.trans h')

end Scope

/-! ## Sources and outlines -/

namespace Store

variable {store : Store} {scope scope' : Scope} {category category' : Category}
  {name name' : String}

/-- **An entry of a category is in one place for each scope, category and name.** -/
theorem entry_meets_iff (hname : Path.IsName name) (hname' : Path.IsName name') :
    (store.folder scope category / name).Meets (store.folder scope' category' / name') ↔
      scope = scope' ∧ category = category' ∧ name = name' := by
  rw [folder_entry_eq_below, folder_entry_eq_below,
    Path.meets_below_iff (scope.isName_of_mem_entry category hname)
      (scope'.isName_of_mem_entry category' hname')]
  constructor
  · exact Scope.entry_inj
  · rintro ⟨rfl, rfl, rfl⟩
    rfl

/-- Sources are in one place only if they have one name in one scope. The category follows from the
name. -/
theorem sourcePath_meets_iff (hname : Path.IsName name) (hname' : Path.IsName name') :
    (store.sourcePath scope name).Meets (store.sourcePath scope' name') ↔
      scope = scope' ∧ name = name' := by
  have hentry : (store.sourcePath scope name).Meets (store.sourcePath scope' name') ↔
      scope = scope' ∧ Category.ofName name = .ofName name' ∧ name = name' :=
    entry_meets_iff hname hname'
  rw [hentry, and_iff_right_of_imp (congrArg Category.ofName)]

/-- A source is not where an outline is: no source belongs in the category of outlines. -/
theorem not_sourcePath_meets_outlinePath (hname : Path.IsName name) (hname' : Path.IsName name') :
    ¬(store.sourcePath scope name).Meets (store.outlinePath scope' name') := by
  intro hmeets
  have hcategory : Category.ofName name = .outlines :=
    ((entry_meets_iff hname (isName_outline hname')).mp hmeets).2.1
  have hsource := Category.ofName_mem_sources name
  rw [hcategory] at hsource
  revert hsource
  decide

/-- Outlines are in one place only if their sources have one name, but for the extension, in one
scope. -/
theorem outlinePath_meets_iff (hname : Path.IsName name) (hname' : Path.IsName name') :
    (store.outlinePath scope name).Meets (store.outlinePath scope' name') ↔
      scope = scope' ∧ FileName.base name = FileName.base name' := by
  have hentry : (store.outlinePath scope name).Meets (store.outlinePath scope' name') ↔
      scope = scope' ∧ Category.outlines = .outlines ∧
        FileName.base name ++ ".json" = FileName.base name' ++ ".json" :=
    entry_meets_iff (isName_outline hname) (isName_outline hname')
  rw [hentry, eq_self, true_and, String.append_left_inj]

/-- **Below one base directory, a place tells whether a source or an outline is there, and whose it
is.** The place of a source tells its session, its project and its name, that of an outline its
session, its project and the name of its source without the extension. Paths that are the same
meet, so the paths alone tell all this as well. -/
theorem places_tell_files_apart (store : Store) {session session' : String}
    {project project' : Option String} {segment segment' : Segment}
    (hscope : Scope.make session project = .ok scope)
    (hscope' : Scope.make session' project' = .ok scope')
    (hname : Segment.ofFileName name = .ok segment)
    (hname' : Segment.ofFileName name' = .ok segment') :
    ((store.sourcePath scope name).Meets (store.sourcePath scope' name') ↔
        session = session' ∧ project = project' ∧ name = name') ∧
      ¬(store.sourcePath scope name).Meets (store.outlinePath scope' name') ∧
      ((store.outlinePath scope name).Meets (store.outlinePath scope' name') ↔
        session = session' ∧ project = project' ∧ FileName.base name = FileName.base name') := by
  obtain rfl := text_of_ofFileName hname
  obtain rfl := text_of_ofFileName hname'
  have hkeys := Scope.eq_iff_of_make hscope hscope'
  refine ⟨?_, not_sourcePath_meets_outlinePath segment.isName segment'.isName, ?_⟩
  · rw [sourcePath_meets_iff segment.isName segment'.isName, hkeys, and_assoc]
  · rw [outlinePath_meets_iff segment.isName segment'.isName, hkeys, and_assoc]

open Outliner in
/-- A project that is named as a category of its session has files of its own. In one scope two
names that begin with a dot can share an outline. -/
theorem places_tell_files_apart_among_sources :
    (Scope.make "s" none = .ok plainScope ∧ Scope.make "s" (some "src") = .ok amongSources ∧
        Segment.ofFileName "src" = .ok ⟨"src", by decide⟩ ∧
        Segment.ofFileName "src.sql" = .ok ⟨"src.sql", by decide⟩ ∧
        ¬(inBase.store.sourcePath plainScope "src").Meets
          (inBase.store.sourcePath amongSources "src.sql") ∧
        ¬(inBase.store.sourcePath plainScope "src").Meets
          (inBase.store.outlinePath amongSources "src.sql") ∧
        ¬(inBase.store.outlinePath plainScope "src").Meets
          (inBase.store.outlinePath amongSources "src.sql")) ∧
      Segment.ofFileName ".src" = .ok ⟨".src", by decide⟩ ∧
      Segment.ofFileName ".src.sql" = .ok ⟨".src.sql", by decide⟩ ∧
      ¬(inBase.store.sourcePath amongSources ".src").Meets
        (inBase.store.sourcePath amongSources ".src.sql") ∧
      (inBase.store.outlinePath amongSources ".src").Meets
        (inBase.store.outlinePath amongSources ".src.sql") := by
  have hplain : Scope.make "s" none = .ok plainScope := rfl
  have hamong : Scope.make "s" (some "src") = .ok amongSources := rfl
  have hname : Segment.ofFileName "src" = .ok ⟨"src", by decide⟩ := rfl
  have hname' : Segment.ofFileName "src.sql" = .ok ⟨"src.sql", by decide⟩ := rfl
  have hdot : Segment.ofFileName ".src" = .ok ⟨".src", by decide⟩ := rfl
  have hdot' : Segment.ofFileName ".src.sql" = .ok ⟨".src.sql", by decide⟩ := rfl
  obtain ⟨hsource, hapart, houtline⟩ :=
    places_tell_files_apart inBase.store hplain hamong hname hname'
  obtain ⟨hsource', -, houtline'⟩ :=
    places_tell_files_apart inBase.store hamong hamong hdot hdot'
  refine ⟨⟨hplain, hamong, hname, hname', ?_, hapart, ?_⟩, hdot, hdot', ?_, ?_⟩
  · exact mt hsource.mp (by decide)
  · exact mt houtline.mp (by decide)
  · exact mt hsource'.mp (by decide)
  · exact houtline'.mpr (by decide)

end Store

end DmlOutline
