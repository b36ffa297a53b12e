import DmlOutline.Proofs.OutlinerChanges
import DmlOutline.Proofs.PavedWays

/-!
# Places of scopes

A few names lead from the base directory to the directory of a category in a scope, and the files of
the scope are in such directories. The directory of a project is in that of its session, beside the
categories of the session. So a project that is named as a category of sources has its directories
where the session has sources, and only then do places of two scopes meet.

* `Scope.keys`, `Scope.place` — the names that lead to a scope, and to a category in it.
* `Category.Lists` — the names that files of a category may have.
* `Scope.Encloses` — a session one of whose directories of sources is that of a project.
* `Scope.Isolated` — a scope that requests in another one make no difference to.

Principal results: `Scope.entry_apart`, `Scope.place_apart`: places that do not meet;
`Outliner.Change.get?_entry`, `Outliner.Change.dirAt_place`, `Outliner.Change.dirAt_keys`: what a
change in another scope leaves as it is.
-/

namespace DmlOutline

open Disk

variable {a b scope other : Scope} {category category' : Category} {name name' : String}
  {names : List String}

/-! ## Names of files -/

namespace Category

/-- The names that files in the directory of a category may have. An outline is not named as a
category is. -/
def Lists (category : Category) (name : String) : Prop :=
  category = outlines → ∀ other : Category, name ≠ other.folderName

theorem lists_of_mem_sources (h : category ∈ sources) (name : String) : category.Lists name := by
  rintro rfl
  exact absurd h (by decide)

/-- The name of an outline has an extension, and that of a category has none. -/
theorem lists_outline (category : Category) (name : String) :
    category.Lists (FileName.base name ++ ".json") := by
  intro _ other heq
  have hdot : '.' ∈ (FileName.base name ++ ".json").toList := by
    rw [String.toList_append]
    exact List.mem_append_right _ (by decide)
  rw [heq] at hdot
  revert hdot
  cases other <;> decide

theorem lists_empty (category : Category) : category.Lists "" := by
  intro _ other
  cases other <;> decide

theorem folderName_inj (h : category.folderName = category'.folderName) : category = category' := by
  revert h
  cases category <;> cases category' <;> decide

end Category

/-! ## Ways to scopes and categories -/

theorem Segment.ext {first second : Segment} (h : first.text = second.text) : first = second :=
  Subtype.ext h

namespace Scope

/-- The names that lead from the base directory to that of a scope. -/
def keys (scope : Scope) : List String :=
  scope.session.text :: (scope.project.map (·.text)).toList

/-- The names that lead from the base directory to that of a category in a scope. -/
def place (scope : Scope) (category : Category) : List String :=
  scope.keys ++ [category.folderName]

theorem place_session (session : Segment) (category : Category) :
    place ⟨session, none⟩ category = [session.text, category.folderName] := rfl

theorem place_project (session project : Segment) (category : Category) :
    place ⟨session, some project⟩ category =
      [session.text, project.text, category.folderName] := rfl

theorem isName_of_mem_keys (scope : Scope) : ∀ part ∈ scope.keys, Path.IsName part := by
  obtain ⟨session, project⟩ := scope
  cases project with
  | none => simpa [keys] using session.isName
  | some project => simpa [keys] using ⟨session.isName, project.isName⟩

theorem isName_of_mem_place (scope : Scope) (category : Category) :
    ∀ part ∈ scope.place category, Path.IsName part := by
  rw [place, List.forall_mem_append, List.forall_mem_singleton]
  exact ⟨scope.isName_of_mem_keys, Store.isName_folderName category⟩

theorem isName_of_mem_entry (scope : Scope) (category : Category) (hname : Path.IsName name) :
    ∀ part ∈ scope.place category ++ [name], Path.IsName part := by
  rw [List.forall_mem_append, List.forall_mem_singleton]
  exact ⟨scope.isName_of_mem_place category, hname⟩

theorem place_ne_nil (scope : Scope) (category : Category) : scope.place category ≠ [] :=
  List.append_ne_nil_of_right_ne_nil _ (List.cons_ne_nil _ _)

/-- Names of categories are short, so only the keys of a scope can be too long. -/
theorem fits_place_iff (scope : Scope) (category : Category) :
    Fits (scope.place category) ↔ Fits scope.keys := by
  have hfolder : Fits [category.folderName] := by
    cases category <;> decide
  rw [place, fits_concat, and_iff_left hfolder]

/-! ## Places of two scopes -/

/-- A session one of whose directories of sources is that of a project in it. -/
def Encloses (whole part : Scope) : Prop :=
  whole.session = part.session ∧ whole.project = none ∧
    ∃ category ∈ Category.sources, part.project.map (·.text) = some category.folderName

instance (whole part : Scope) : Decidable (whole.Encloses part) :=
  inferInstanceAs (Decidable (_ ∧ _ ∧ _))

/-- **No way in another scope leads through an entry of a category.** -/
theorem entry_apart (hne : a ≠ b) (hencloses : ¬a.Encloses b) (hlists : category.Lists name)
    (category' : Category) (name' : String) :
    ¬a.place category ++ [name] <+: b.place category' ++ [name'] := by
  obtain ⟨session, project⟩ := a
  obtain ⟨session', project'⟩ := b
  intro h
  cases project <;> cases project' <;>
    simp only [place_session, place_project, List.cons_append, List.nil_append,
      List.cons_prefix_cons, List.prefix_nil, reduceCtorEq, and_false, List.nil_prefix,
      and_true] at h
  case none.none =>
    exact hne (by rw [Segment.ext h.1])
  case none.some project' =>
    obtain ⟨hsession, hproject, hname⟩ := h
    by_cases hcategory : category = .outlines
    · exact hlists hcategory category' hname
    · have hsource : category ∈ Category.sources := by
        revert hcategory
        cases category <;> decide
      exact hencloses ⟨Segment.ext hsession, rfl, category, hsource, congrArg some hproject.symm⟩
  case some.some project project' =>
    exact hne (by rw [Segment.ext h.1, Segment.ext h.2.1])

/-- An entry of a category is in one scope alone. -/
theorem entry_inj (h : a.place category ++ [name] = b.place category' ++ [name']) :
    a = b ∧ category = category' ∧ name = name' := by
  obtain ⟨session, project⟩ := a
  obtain ⟨session', project'⟩ := b
  cases project <;> cases project' <;>
    simp only [place_session, place_project, List.cons_append, List.nil_append,
      List.cons.injEq, reduceCtorEq, and_false, and_true] at h
  case none.none =>
    obtain ⟨hsession, hfolder, hname⟩ := h
    exact ⟨by rw [Segment.ext hsession], Category.folderName_inj hfolder, hname⟩
  case some.some project project' =>
    obtain ⟨hsession, hproject, hfolder, hname⟩ := h
    exact ⟨by rw [Segment.ext hsession, Segment.ext hproject], Category.folderName_inj hfolder,
      hname⟩

/-- No way in another scope leads to a directory of sources. -/
theorem place_apart (hne : a ≠ b) (hencloses : ¬a.Encloses b) (h : category ∈ Category.sources)
    (category' : Category) : ¬a.place category <+: b.place category' := by
  rintro ⟨rest, hrest⟩
  cases rest with
  | nil =>
    rw [List.append_nil] at hrest
    have hentry : a.place category ++ [""] = b.place category' ++ [""] := by rw [hrest]
    exact hne (entry_inj hentry).1
  | cons name rest =>
    have hlists := Category.lists_of_mem_sources h name
    refine entry_apart hne hencloses hlists category' "" ⟨rest ++ [""], ?_⟩
    rw [← hrest, List.append_assoc, List.append_assoc]
    rfl

/-- Requests in another scope make no difference to a scope: the places of the two do not meet, and
the directory of a session that they share does not bring out that a project is named too long. -/
structure Isolated (scope other : Scope) : Prop where
  ne : scope ≠ other
  not_encloses : ¬scope.Encloses other
  not_enclosed : ¬other.Encloses scope
  fits : other.session = scope.session → Fits [scope.session.text] → Fits scope.keys

theorem isolated_iff : scope.Isolated other ↔
    (scope ≠ other ∧ ¬scope.Encloses other ∧ ¬other.Encloses scope) ∧
      (other.session = scope.session → Fits [scope.session.text] → Fits scope.keys) :=
  ⟨fun ⟨hne, hencloses, henclosed, hfits⟩ => ⟨⟨hne, hencloses, henclosed⟩, hfits⟩,
    fun ⟨⟨hne, hencloses, henclosed⟩, hfits⟩ => ⟨hne, hencloses, henclosed, hfits⟩⟩

instance (scope other : Scope) : Decidable (scope.Isolated other) :=
  decidable_of_iff _ isolated_iff.symm

/-- An entry of a scope, or of one apart from it, is on no way to a category. -/
theorem entry_off_way (h : other = scope ∨ scope.Isolated other) (hlists : category.Lists name)
    (category' : Category) : ¬other.place category ++ [name] <+: scope.place category' := by
  intro hway
  rcases h with rfl | hisolated
  · have hlength := hway.length_le
    simp only [place, List.length_append, List.length_singleton] at hlength
    omega
  · have happart := entry_apart hisolated.ne.symm hisolated.not_enclosed hlists category' ""
    exact happart (hway.trans (List.prefix_append _ _))

end Scope

/-! ## Places on a disk -/

namespace Store

variable {disk : Disk} {store : Store}

theorem folder_eq_below (store : Store) (scope : Scope) (category : Category) :
    store.folder scope category = store.config.baseDir.below (scope.place category) := by
  obtain ⟨session, project⟩ := scope
  cases project <;> rfl

theorem folder_entry_eq_below (store : Store) (scope : Scope) (category : Category)
    (name : String) : store.folder scope category / name =
      store.config.baseDir.below (scope.place category ++ [name]) := by
  rw [folder_eq_below, Path.below_concat]

/-- The place of an entry of a category. -/
theorem goal_entry (disk : Disk) (store : Store) (scope : Scope) (category : Category)
    (name : String) : disk.goal (store.folder scope category) ++ [name] =
      disk.goal store.config.baseDir ++ (scope.place category ++ [name]) := by
  rw [folder_eq_below, goal_below disk _ (scope.isName_of_mem_place category), List.append_assoc]

end Store

namespace Outliner

variable {disk next : Disk} {outliner : Outliner}

/-- **A change in a scope leaves what is neither on a way to an entry nor below one.** -/
theorem Change.get?_apart (h : Change outliner scope disk next)
    (hbase : disk.kind? outliner.store.config.baseDir = some .directory)
    (hapart : ∀ category name, category.Lists name →
      ¬names <+: scope.place category ++ [name] ∧ ¬scope.place category ++ [name] <+: names) :
    next.root.get? (disk.goal outliner.store.config.baseDir ++ names) =
      disk.root.get? (disk.goal outliner.store.config.baseDir ++ names) := by
  have hentry : ∀ {category name}, Path.IsName name → category.Lists name →
      ¬disk.goal (outliner.store.folder scope category / name) <+:
          disk.goal outliner.store.config.baseDir ++ names ∧
        ¬disk.goal outliner.store.config.baseDir ++ names <+:
          disk.goal (outliner.store.folder scope category / name) := by
    intro category name hname hlists
    rw [goal_join disk _ hname, Store.goal_entry, List.prefix_append_right_inj,
      List.prefix_append_right_inj]
    exact (hapart category name hlists).symm
  cases h with
  | provides category =>
    have halong := Store.provideDir_along hbase (scope.isName_of_mem_place category)
      (scope.place_ne_nil category)
    rw [Store.folder_eq_below]
    refine halong.apart _ ?_
    rw [List.prefix_append_right_inj]
    intro hway
    exact (hapart category "" category.lists_empty).1 (hway.trans (List.prefix_append _ _))
  | @stores _ name _ hname h =>
    have hlists := Category.lists_of_mem_sources (Category.ofName_mem_sources name) name
    obtain ⟨hbelow, habove⟩ := hentry hname hlists
    exact (create_eq_ok h).1.get?_apart hbelow habove
  | @outlines _ name _ _ _ hname _ _ _ h =>
    obtain ⟨hbelow, habove⟩ :=
      hentry (Store.isName_outline hname) (Category.lists_outline .outlines name)
    exact (replace_eq_ok h).1.get?_apart hbelow habove

/-- A change in a scope makes directories only on the ways to its categories, and none whose name is
too long. -/
theorem Change.dirAt (h : Change outliner scope disk next)
    (hbase : disk.kind? outliner.store.config.baseDir = some .directory)
    (hdir : next.root.DirAt (disk.goal outliner.store.config.baseDir ++ names)) :
    disk.root.DirAt (disk.goal outliner.store.config.baseDir ++ names) ∨
      Fits names ∧ ∃ category, names <+: scope.place category := by
  cases h with
  | provides category =>
    have halong := Store.provideDir_along hbase (scope.isName_of_mem_place category)
      (scope.place_ne_nil category)
    rw [Store.folder_eq_below] at hdir
    by_cases hway : names <+: scope.place category
    · rcases halong.fits names hway hdir with hthere | hfits
      · exact .inl hthere
      · exact .inr ⟨hfits, category, hway⟩
    · rw [FileTree.DirAt, halong.apart _ (by rwa [List.prefix_append_right_inj])] at hdir
      exact .inl hdir
  | stores _ h => exact .inl (((create_eq_ok h).1.dirAt_file _).mp hdir)
  | outlines _ _ _ _ h => exact .inl (((replace_eq_ok h).1.dirAt_file _).mp hdir)

section Isolated

variable (hchange : Change outliner other disk next) (hisolated : scope.Isolated other)
  (hbase : disk.kind? outliner.store.config.baseDir = some .directory)

include hchange hisolated hbase

/-- **A change in another scope leaves the entries of a scope as they are.** -/
theorem Change.get?_entry (hlists : category.Lists name) :
    next.root.get? (disk.goal outliner.store.config.baseDir ++ (scope.place category ++ [name])) =
      disk.root.get?
        (disk.goal outliner.store.config.baseDir ++ (scope.place category ++ [name])) := by
  refine hchange.get?_apart hbase fun category' name' hlists' => ⟨?_, ?_⟩
  · exact Scope.entry_apart hisolated.ne hisolated.not_encloses hlists category' name'
  · exact Scope.entry_apart hisolated.ne.symm hisolated.not_enclosed hlists' category name

/-- A change in another scope makes no directory of sources in a scope. -/
theorem Change.dirAt_place (hcategory : category ∈ Category.sources) :
    next.root.DirAt (disk.goal outliner.store.config.baseDir ++ scope.place category) ↔
      disk.root.DirAt (disk.goal outliner.store.config.baseDir ++ scope.place category) := by
  refine ⟨fun hdir => ?_, hchange.grows.dirAt _⟩
  rcases hchange.dirAt hbase hdir with hthere | ⟨-, category', hway⟩
  · exact hthere
  · exact absurd hway
      (Scope.place_apart hisolated.ne hisolated.not_encloses hcategory category')

/-- A change in another scope makes no directory on the way to a scope whose name is too long. -/
theorem Change.dirAt_keys (hlong : ¬Fits scope.keys) (hnames : names <+: scope.keys) :
    next.root.DirAt (disk.goal outliner.store.config.baseDir ++ names) ↔
      disk.root.DirAt (disk.goal outliner.store.config.baseDir ++ names) := by
  refine ⟨fun hdir => ?_, hchange.grows.dirAt _⟩
  rcases hchange.dirAt hbase hdir with hthere | ⟨hfits, category', hway⟩
  · exact hthere
  · cases names with
    | nil =>
      rw [List.append_nil]
      exact (kind?_eq_directory_iff.mp hbase).2
    | cons first rest =>
      obtain ⟨hfirst, -⟩ := List.cons_prefix_cons.mp hnames
      obtain ⟨hsession, -⟩ := List.cons_prefix_cons.mp hway
      rw [hfirst] at hfits hsession
      have hshort : Fits [scope.session.text] :=
        hfits.above (List.cons_prefix_cons.mpr ⟨rfl, List.nil_prefix⟩)
      exact absurd (hisolated.fits (Segment.ext hsession.symm) hshort) hlong

end Isolated

end Outliner

end DmlOutline
