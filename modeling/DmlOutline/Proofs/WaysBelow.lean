import DmlOutline.Proofs.SameTrees
import DmlOutline.Proofs.StoreWrites
import Mathlib.Data.List.Induction

/-!
# Ways below a directory

Names below a directory lead to what is at their place in its tree, whatever the text of its path
is. Where they lead to nothing, it is told why: a directory is missing, a file is in the way, or a
name is too long.

* `Disk.Fits` — names that are not too long.
* `FileTree.descend` — what names lead to, or why they lead to nothing.
* `FileTree.Clear` — ways without files on them.
* `Path.below` — a path with names below it.
* `Disk.permit` — what is said of a name before anything is made in a directory.

Principal results: `Disk.find_below`, `Disk.find_below_eq_ok_iff`: what is found;
`FileTree.Clear.descend_of_fits`, `FileTree.Clear.descend_of_not_fits`: why nothing is found;
`Disk.create_join`, `Disk.replace_join`, `Disk.makeDir_join`: entries of a directory.
-/

namespace DmlOutline

open Disk

/-! ## What names lead to in a tree -/

namespace Disk

/-- Names that an entry of a directory may bear, as far as their length goes. -/
def Fits (names : List String) : Prop :=
  ∀ name ∈ names, name.utf8ByteSize ≤ maxNameLength

instance (names : List String) : Decidable (Fits names) :=
  inferInstanceAs (Decidable (∀ name ∈ names, name.utf8ByteSize ≤ maxNameLength))

theorem fits_concat {names : List String} {name : String} :
    Fits (names ++ [name]) ↔ Fits names ∧ Fits [name] := by
  simp [Fits, or_imp, forall_and]

theorem Fits.above {front names : List String} (h : Fits names) (hfront : front <+: names) :
    Fits front :=
  fun name hname => h name (hfront.subset hname)

end Disk

namespace FileTree

variable {tree a b found : FileTree} {names front : List String} {name : String}

/-- The entry with a name, or the reason why there is none. -/
def child (tree : FileTree) (name : String) : Except IoError FileTree :=
  match tree with
  | file _ => .error .notADirectory
  | directory entries =>
    if maxNameLength < name.utf8ByteSize then .error .nameTooLong
    else
      match entries.lookup name with
      | none => .error .notFound
      | some found => .ok found

/-- What names lead to, one after the other, or the reason why they lead to nothing. -/
def descend (tree : FileTree) (names : List String) : Except IoError FileTree :=
  names.foldlM child tree

theorem descend_concat (tree : FileTree) (names : List String) (name : String) :
    tree.descend (names ++ [name]) = (tree.descend names).bind (·.child name) := by
  simp only [descend, List.foldlM_append, List.foldlM_cons, List.foldlM_nil, bind_pure]
  rfl

theorem child_eq_ok_iff :
    tree.child name = .ok found ↔ Fits [name] ∧ tree.get? [name] = some found := by
  cases tree with
  | file content => simp [child, get?]
  | directory entries =>
    by_cases hlong : maxNameLength < name.utf8ByteSize
    · simp [child, hlong, Fits, Nat.not_le.mpr hlong]
    · simp only [child, hlong, if_false, Fits, List.mem_singleton, forall_eq,
        Nat.le_of_not_lt hlong, true_and, get?]
      cases entries.lookup name <;> simp

/-- What directories have under a name depends on what is at its place. -/
theorem child_congr {entries entries' : List (String × FileTree)}
    (h : (directory entries).get? [name] = (directory entries').get? [name]) :
    (directory entries).child name = (directory entries').child name := by
  have hlookup : entries.lookup name = entries'.lookup name := by
    simp only [get?] at h
    revert h
    cases entries.lookup name <;> cases entries'.lookup name <;> simp
  rw [child, child, hlookup]

/-- **Names lead to what is at their place, unless one of them is too long.** -/
theorem descend_eq_ok_iff :
    tree.descend names = .ok found ↔ Fits names ∧ tree.get? names = some found := by
  induction names using List.reverseRecOn generalizing found with
  | nil =>
    change Except.ok tree = .ok found ↔ _
    simp [Fits]
  | append_singleton names name ih =>
    rw [descend_concat, fits_concat, get?_append]
    constructor
    · intro h
      cases habove : tree.descend names with
      | error cause => rw [habove] at h; cases h
      | ok above =>
        rw [habove] at h
        obtain ⟨hfits, hget⟩ := ih.mp habove
        obtain ⟨hname, hchild⟩ := child_eq_ok_iff.mp h
        exact ⟨⟨hfits, hname⟩, by rw [hget, Option.bind_some, hchild]⟩
    · rintro ⟨⟨hfits, hname⟩, hget⟩
      obtain ⟨above, habove, hchild⟩ := Option.bind_eq_some_iff.mp hget
      rw [ih.mpr ⟨hfits, habove⟩]
      exact child_eq_ok_iff.mpr ⟨hname, hchild⟩

/-! ## Ways without files on them -/

/-- There is no file on the way that names lead. -/
def Clear (tree : FileTree) (names : List String) : Prop :=
  ∀ front, front <+: names → tree.fileAt front = none

theorem Clear.above (h : tree.Clear names) (hfront : front <+: names) : tree.Clear front :=
  fun start hstart => h start (hstart.trans hfront)

theorem Clear.concat (h : tree.Clear (names ++ [name])) : tree.Clear names :=
  h.above (List.prefix_append _ _)

/-- On such a way there is a directory or nothing. -/
theorem Clear.get?_eq_none (h : tree.Clear names) (hdir : ¬tree.DirAt names) :
    tree.get? names = none := by
  have hfile := h names (List.prefix_refl names)
  cases hget : tree.get? names with
  | none => rfl
  | some found =>
    cases found with
    | file content =>
      rw [fileAt_eq_some_iff.mpr hget] at hfile
      cases hfile
    | directory entries => exact absurd ⟨entries, hget⟩ hdir

theorem descend_of_dirAt (hfits : Fits names) (hdir : tree.DirAt names) :
    ∃ entries, tree.descend names = .ok (directory entries) := by
  obtain ⟨entries, hentries⟩ := hdir
  exact ⟨entries, descend_eq_ok_iff.mpr ⟨hfits, hentries⟩⟩

/-- Names that fit and lead to no directory lead to nothing. -/
theorem Clear.descend_of_fits (h : tree.Clear names) (hfits : Fits names)
    (hdir : ¬tree.DirAt names) : tree.descend names = .error .notFound := by
  induction names using List.reverseRecOn with
  | nil =>
    have hnone := h.get?_eq_none hdir
    rw [get?_nil] at hnone
    cases hnone
  | append_singleton names name ih =>
    obtain ⟨hfront, hname⟩ := fits_concat.mp hfits
    rw [descend_concat]
    by_cases habove : tree.DirAt names
    · obtain ⟨entries, hentries⟩ := descend_of_dirAt hfront habove
      have hnone := h.get?_eq_none hdir
      rw [get?_append, (descend_eq_ok_iff.mp hentries).2, Option.bind_some, get?] at hnone
      have hshort : ¬maxNameLength < name.utf8ByteSize :=
        Nat.not_lt.mpr (hname name (List.mem_singleton_self name))
      rw [hentries]
      change (directory entries).child name = _
      rw [child, if_neg hshort]
      cases hlookup : entries.lookup name with
      | none => rfl
      | some found => rw [hlookup] at hnone; simp at hnone
    · rw [ih h.concat hfront habove]
      rfl

/-- Names of which one is too long lead to nothing. That is known only where all directories before
it are there. -/
theorem Clear.descend_of_not_fits (h : tree.Clear names) (hfits : ¬Fits names) :
    (tree.descend names = .error .notFound ∧
      ∃ front, front <+: names ∧ Fits front ∧ ¬tree.DirAt front) ∨
      tree.descend names = .error .nameTooLong ∧
        ∀ front, front <+: names → Fits front → tree.DirAt front := by
  induction names using List.reverseRecOn with
  | nil => exact absurd (fun name hname => absurd hname List.not_mem_nil) hfits
  | append_singleton names name ih =>
    have hbefore : ∀ front, front <+: names ++ [name] → Fits front → front <+: names := by
      intro front hfront hshort
      rcases List.prefix_concat_iff.mp hfront with rfl | hfront
      · exact absurd hshort hfits
      · exact hfront
    have hinside : names <+: names ++ [name] := List.prefix_append _ _
    rw [descend_concat]
    by_cases hnames : Fits names
    · have hname : maxNameLength < name.utf8ByteSize := by
        by_contra hle
        refine hfits (fits_concat.mpr ⟨hnames, fun other hother => ?_⟩)
        rw [List.mem_singleton.mp hother]
        exact Nat.le_of_not_lt hle
      by_cases hdir : tree.DirAt names
      · obtain ⟨entries, hentries⟩ := descend_of_dirAt hnames hdir
        rw [hentries]
        refine .inr ⟨?_, fun front hfront hshort => hdir.above (hbefore front hfront hshort)⟩
        change (directory entries).child name = _
        rw [child, if_pos hname]
      · rw [h.concat.descend_of_fits hnames hdir]
        exact .inl ⟨rfl, names, hinside, hnames, hdir⟩
    · rcases ih h.concat hnames with ⟨hmissing, front, hfront, hgone⟩ | ⟨hlong, hall⟩
      · rw [hmissing]
        exact .inl ⟨rfl, front, hfront.trans hinside, hgone⟩
      · rw [hlong]
        exact .inr ⟨rfl, fun front hfront hshort => hall front (hbefore front hfront hshort) hshort⟩

/-- Where the same directories are there, names that do not fit lead to the same. -/
theorem Clear.descend_congr (ha : a.Clear names) (hb : b.Clear names) (hfits : ¬Fits names)
    (hdirs : ∀ front, front <+: names → (a.DirAt front ↔ b.DirAt front)) :
    a.descend names = b.descend names := by
  rcases ha.descend_of_not_fits hfits with ⟨hmissing, front, hfront, hshort, hgone⟩ | ⟨hlong, hall⟩
  · rcases hb.descend_of_not_fits hfits with ⟨hmissing', -⟩ | ⟨-, hall⟩
    · rw [hmissing, hmissing']
    · exact absurd ((hdirs front hfront).mpr (hall front hfront hshort)) hgone
  · rcases hb.descend_of_not_fits hfits with ⟨-, front, hfront, hshort, hgone⟩ | ⟨hlong', -⟩
    · exact absurd ((hdirs front hfront).mp (hall front hfront hshort)) hgone
    · rw [hlong, hlong']

/-- Where the same directory and the same entry are there, names that fit lead to the same entry. -/
theorem Clear.descend_entry_congr (ha : a.Clear names) (hb : b.Clear names) (hfits : Fits names)
    (hdir : a.DirAt names ↔ b.DirAt names)
    (hentry : a.get? (names ++ [name]) = b.get? (names ++ [name])) :
    a.descend (names ++ [name]) = b.descend (names ++ [name]) := by
  rw [descend_concat, descend_concat]
  by_cases hthere : a.DirAt names
  · obtain ⟨entries, hentries⟩ := descend_of_dirAt hfits hthere
    obtain ⟨entries', hentries'⟩ := descend_of_dirAt hfits (hdir.mp hthere)
    rw [get?_append, get?_append, (descend_eq_ok_iff.mp hentries).2,
      (descend_eq_ok_iff.mp hentries').2] at hentry
    rw [hentries, hentries']
    exact child_congr hentry
  · rw [ha.descend_of_fits hfits hthere, hb.descend_of_fits hfits fun h => hthere (hdir.mpr h)]

end FileTree

/-- A path with names below it, one after the other. -/
def Path.below (base : Path) (names : List String) : Path :=
  names.foldl (· / ·) base

theorem Path.below_concat (base : Path) (names : List String) (name : String) :
    base.below (names ++ [name]) = base.below names / name := by
  rw [below, List.foldl_append]
  rfl

namespace Disk

variable {disk next : Disk} {base dir : Path} {names : List String} {name : String}
  {top sub found : FileTree} {content : ByteArray}

/-! ## What names below a directory lead to -/

theorem goal_below (disk : Disk) (base : Path) (hnames : ∀ name ∈ names, Path.IsName name) :
    disk.goal (base.below names) = disk.goal base ++ names := by
  induction names using List.reverseRecOn with
  | nil => rw [List.append_nil]; rfl
  | append_singleton names name ih =>
    rw [List.forall_mem_append, List.forall_mem_singleton] at hnames
    rw [Path.below_concat, goal_join disk _ hnames.2, ih hnames.1, List.append_assoc]

theorem steps_below (base : Path) (hnames : ∀ name ∈ names, Path.IsName name) :
    (base.below names).steps = base.steps ++ names.map .down := by
  induction names using List.reverseRecOn with
  | nil => rw [List.map_nil, List.append_nil]; rfl
  | append_singleton names name ih =>
    rw [List.forall_mem_append, List.forall_mem_singleton] at hnames
    rw [Path.below_concat, Path.steps_join _ hnames.2, ih hnames.1, List.map_append,
      List.append_assoc]
    rfl

theorem isAbsolute_below (base : Path) (hnames : ∀ name ∈ names, Path.IsName name) :
    (base.below names).isAbsolute = base.isAbsolute := by
  induction names using List.reverseRecOn with
  | nil => rfl
  | append_singleton names name ih =>
    rw [List.forall_mem_append, List.forall_mem_singleton] at hnames
    rw [Path.below_concat, Path.isAbsolute_join _ hnames.2.isRelative, ih hnames.1]

theorem goesOn_below (base : Path) (hnames : ∀ name ∈ names, Path.IsName name) (hne : names ≠ []) :
    GoesOn base (names.map .down) (base.below names) where
  steps_eq := steps_below base hnames
  isAbsolute_eq := isAbsolute_below base hnames
  endsInSlash_eq := by
    obtain ⟨front, last, rfl⟩ := List.eq_nil_or_concat names |>.resolve_left hne
    rw [List.concat_eq_append] at hnames ⊢
    rw [List.forall_mem_append, List.forall_mem_singleton] at hnames
    rw [Path.below_concat]
    exact Path.endsInSlash_join _ hnames.2

theorem stays_down (depth : Nat) (names : List String) : Stays depth (names.map .down) := by
  induction names generalizing depth with
  | nil => trivial
  | cons name rest ih => exact ih (depth + 1)

theorem findIn_down (sub : FileTree) (names : List String) :
    findIn sub (names.map .down) = sub.descend names := by
  induction names using List.reverseRecOn with
  | nil => rfl
  | append_singleton names name ih =>
    rw [FileTree.descend_concat, ← ih, List.map_append, findIn, walk_append, findIn]
    cases walk sub [] (names.map .down) with
    | error cause => rfl
    | ok place =>
      simp only [Except.bind, List.map_cons, List.map_nil, walk]
      cases hplace : sub.get? place with
      | none => rfl
      | some above =>
        cases above with
        | file content => rfl
        | directory entries =>
          simp only [FileTree.child]
          by_cases hlong : maxNameLength < name.utf8ByteSize
          · rw [if_pos hlong, if_pos hlong]
          · rw [if_neg hlong, if_neg hlong]
            simp only [FileTree.get?_append, hplace, Option.bind_some, FileTree.get?]
            cases entries.lookup name with
            | none => rfl
            | some found => simp

/-- **Names below a directory lead to what they lead to in its tree.** -/
theorem find_below (hbase : disk.find base = .ok top) (hnames : ∀ name ∈ names, Path.IsName name)
    (hne : names ≠ []) :
    disk.find (base.below names) =
      (refuseText (base.below names)).bind fun _ => top.descend names := by
  rw [find_of_goesOn hbase (goesOn_below base hnames hne) (stays_down 0 names), findIn_down]

theorem get?_base (hbase : disk.find base = .ok top) (names : List String) :
    disk.root.get? (disk.goal base ++ names) = top.get? names := by
  rw [FileTree.get?_append, (find_eq_ok_iff.mp hbase).2, Option.bind_some]

/-- What names below a directory lead to is at their place. -/
theorem find_below_eq_ok_iff (hbase : disk.find base = .ok top)
    (hnames : ∀ name ∈ names, Path.IsName name) (hne : names ≠ []) :
    disk.find (base.below names) = .ok found ↔
      refuseText (base.below names) = .ok () ∧ Fits names ∧
        disk.root.get? (disk.goal base ++ names) = some found := by
  rw [find_below hbase hnames hne, get?_base hbase, ← FileTree.descend_eq_ok_iff]
  cases refuseText (base.below names) with
  | error cause => simp [Except.bind]
  | ok value => simp [Except.bind]

/-! ## Entries of a directory -/

/-- What is said of a name in a directory before anything is made: its path may be refused, and the
name may be too long. -/
def permit (path : Path) (name : String) : Except IoError Unit :=
  (refuseText path).bind fun _ => if Fits [name] then .ok () else .error .nameTooLong

/-- The way to a name in a directory can be gone, unless the name is too long. -/
theorem walk_of_directory (hdir : disk.kind? dir = some .directory) (hname : Path.IsName name) :
    walk disk.root (disk.start (dir / name)) (dir / name).steps =
      if Fits [name] then .ok (disk.goal dir ++ [name]) else .error .nameTooLong := by
  obtain ⟨hlocate, entries, hentries⟩ := kind?_eq_directory_iff.mp hdir
  rw [start_join disk dir hname, walk_join _ _ dir hname, way_of_locate hlocate]
  simp only [Except.bind, walk, hentries]
  by_cases hlong : maxNameLength < name.utf8ByteSize
  · simp [hlong, Fits, Nat.not_le.mpr hlong]
  · simp [hlong, Fits, Nat.le_of_not_lt hlong]

/-- **What can be read in a directory is each file that can be reached there.** -/
theorem read_join (hdir : disk.kind? dir = some .directory) (hname : Path.IsName name) :
    disk.read (dir / name) = .ok content ↔
      isReachable dir name = true ∧ disk.fileAt (disk.goal dir ++ [name]) = some content := by
  rw [← goal_join disk dir hname]
  constructor
  · intro hread
    exact ⟨isReachable_of_read hname hread, (read_eq_ok_iff.mp hread).2⟩
  · rintro ⟨hreach, hfile⟩
    refine read_eq_ok_iff.mpr ⟨?_, hfile⟩
    rw [isReachable, Bool.and_eq_true, decide_eq_true_eq] at hreach
    obtain ⟨htext, hlength⟩ := hreach
    have hfits : Fits [name] := by simpa [Fits] using hlength
    unfold locate
    cases hrefuse : refuseText (dir / name) with
    | error cause => rw [hrefuse] at htext; cases htext
    | ok value =>
      simp only [allSteps, Path.endsInSlash_join dir hname, Bool.false_eq_true, if_false,
        walk_of_directory hdir hname, if_pos hfits, goal_join disk dir hname]

/-- **A directory lists the names of its files that can be read**, in order and each once. -/
theorem exists_fileNames (hdir : disk.kind? dir = some .directory) :
    ∃ names, disk.fileNames dir = .ok names ∧ names.Pairwise (· < ·) ∧
      ∀ name, Path.IsName name →
        (name ∈ names ↔ ∃ content, disk.read (dir / name) = .ok content) := by
  obtain ⟨hlocate, entries, hentries⟩ := kind?_eq_directory_iff.mp hdir
  have hfind := find_eq_ok_iff.mpr ⟨hlocate, hentries⟩
  refine ⟨_, by rw [Disk.fileNames, hfind], (FileTree.sorted_fileNames _).filter _, ?_⟩
  intro name hname
  have hfile : ∀ content, (FileTree.directory entries).fileAt [name] = some content ↔
      disk.fileAt (disk.goal dir ++ [name]) = some content := by
    intro content
    rw [Disk.fileAt, FileTree.fileAt_eq_some_iff, FileTree.fileAt_eq_some_iff,
      FileTree.get?_append, hentries, Option.bind_some]
  simp only [List.mem_filter, FileTree.mem_fileNames, hfile, read_join hdir hname]
  constructor
  · rintro ⟨⟨content, hcontent⟩, hreach⟩
    exact ⟨content, hreach, hcontent⟩
  · rintro ⟨content, hreach, hcontent⟩
    exact ⟨⟨content, hcontent⟩, hreach⟩

/-- The place that a name in a directory stands for, unless it is refused. -/
theorem target_join (hdir : disk.kind? dir = some .directory) (hname : Path.IsName name) :
    disk.target (dir / name) =
      (permit (dir / name) name).map fun _ => some (disk.goal dir ++ [name]) := by
  have hlast : (dir / name).steps.getLast? = some (.down name) := by
    rw [Path.steps_join dir hname, List.getLast?_concat]
  unfold target permit
  cases refuseText (dir / name) with
  | error cause => rfl
  | ok value =>
    simp only [hlast, walk_of_directory hdir hname, Except.bind]
    by_cases hfits : Fits [name]
    · simp only [if_pos hfits, Except.map]
    · simp only [if_neg hfits, Except.map]

theorem create_join (hdir : disk.kind? dir = some .directory) (hname : Path.IsName name)
    (content : ByteArray) :
    disk.create (dir / name) content = (permit (dir / name) name).bind fun _ =>
      match disk.root.get? (disk.goal dir ++ [name]) with
      | some _ => .error .alreadyExists
      | none => .ok (disk.put (disk.goal dir ++ [name]) (.file content)) := by
  have hslash := Path.endsInSlash_join dir hname
  rw [create, target_join hdir hname]
  cases permit (dir / name) name with
  | error cause => rfl
  | ok value =>
    simp only [Except.map, hslash, Bool.false_eq_true, if_false]
    rfl

theorem replace_join (hdir : disk.kind? dir = some .directory) (hname : Path.IsName name)
    (content : ByteArray) :
    disk.replace (dir / name) content = (roomBeside (dir / name)).bind fun _ =>
      (permit (dir / name) name).bind fun _ =>
        match disk.root.get? (disk.goal dir ++ [name]) with
        | some (.directory _) => .error .isADirectory
        | _ => .ok (disk.put (disk.goal dir ++ [name]) (.file content)) := by
  have hslash := Path.endsInSlash_join dir hname
  rw [replace]
  cases roomBeside (dir / name) with
  | error cause => rfl
  | ok value =>
    simp only [Except.bind]
    rw [supplant, target_join hdir hname]
    cases permit (dir / name) name with
    | error cause => rfl
    | ok value => exact if_neg (Bool.eq_false_iff.mp hslash)

theorem makeDir_join (hdir : disk.kind? dir = some .directory) (hname : Path.IsName name) :
    disk.makeDir (dir / name) = (permit (dir / name) name).bind fun _ =>
      match disk.root.get? (disk.goal dir ++ [name]) with
      | some _ => .error .alreadyExists
      | none => .ok (disk.put (disk.goal dir ++ [name]) (.directory [])) := by
  rw [makeDir, target_join hdir hname]
  cases permit (dir / name) name <;> rfl

end Disk

end DmlOutline
