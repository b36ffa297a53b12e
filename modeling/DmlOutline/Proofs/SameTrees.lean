import DmlOutline.Proofs.DiskFiles
import Mathlib.Data.List.Sort
import Mathlib.Data.List.Perm.Basic

/-!
# Trees that hold the same

Two trees hold the same when they have the same files and the same directories. The order of their
entries may differ, and that is never seen. So what a way that stays below a directory leads to is
the same on two disks that hold the same there, whatever else they hold.

* `FileTree.Same` — two trees that hold the same.
* `FileTree.Named` — trees whose entries bear names.
* `Disk.Stays` — steps that do not leave the place where they begin by going up.
* `Disk.SameAt` — a path that leads to the same on two disks.

Principal results: `FileTree.fileNames_congr`; `Disk.SameAt.below`: what is below a path that leads
to the same directory.
-/

namespace DmlOutline

namespace FileTree

variable {a b : FileTree} {place : Location} {name : String}

/-! ## The same files and directories -/

/-- Two trees with the same files and the same directories. -/
structure Same (a b : FileTree) : Prop where
  fileAt_eq : ∀ place, a.fileAt place = b.fileAt place
  dirAt_iff : ∀ place, a.DirAt place ↔ b.DirAt place

namespace Same

theorem refl (a : FileTree) : a.Same a :=
  ⟨fun _ => rfl, fun _ => Iff.rfl⟩

/-- What two trees that hold the same have at one place. -/
theorem cases (h : a.Same b) (place : Location) :
    (a.get? place = none ∧ b.get? place = none) ∨
      (∃ content, a.get? place = some (file content) ∧ b.get? place = some (file content)) ∨
      ∃ entries entries', a.get? place = some (directory entries) ∧
        b.get? place = some (directory entries') := by
  have hfile := h.fileAt_eq place
  cases hb : b.get? place with
  | none =>
    cases ha : a.get? place with
    | none => exact .inl ⟨rfl, rfl⟩
    | some found =>
      cases found with
      | file content => simp [fileAt, ha, hb] at hfile
      | directory entries =>
        obtain ⟨entries', hentries⟩ := (h.dirAt_iff place).mp ⟨entries, ha⟩
        rw [hb] at hentries
        cases hentries
  | some found =>
    cases found with
    | file content =>
      have hcontent : b.fileAt place = some content := fileAt_eq_some_iff.mpr hb
      exact .inr (.inl ⟨content, fileAt_eq_some_iff.mp (hfile.trans hcontent), rfl⟩)
    | directory entries' =>
      obtain ⟨entries, hentries⟩ := (h.dirAt_iff place).mpr ⟨entries', hb⟩
      exact .inr (.inr ⟨entries, entries', hentries, rfl⟩)

/-- What two trees that hold the same have at a place holds the same. -/
theorem below (h : a.Same b) {inner inner' : FileTree} (ha : a.get? place = some inner)
    (hb : b.get? place = some inner') : inner.Same inner' where
  fileAt_eq rest := by
    have hfile := h.fileAt_eq (place ++ rest)
    simpa only [fileAt, get?_append, ha, hb, Option.bind_some] using hfile
  dirAt_iff rest := by
    have hdir := h.dirAt_iff (place ++ rest)
    simpa only [DirAt, get?_append, ha, hb, Option.bind_some] using hdir

end Same

/-! ## Names in order -/

theorem nodup_eraseDups : (names : List String) → names.eraseDups.Nodup
  | [] => by
    rw [List.eraseDups_nil]
    exact .nil
  | name :: rest => by
    rw [List.eraseDups_cons]
    refine List.nodup_cons.mpr ⟨?_, nodup_eraseDups _⟩
    simp
termination_by names => names.length
decreasing_by exact Nat.lt_succ_of_le (List.length_filter_le _ _)

theorem mem_names_directory {entries : List (String × FileTree)} :
    name ∈ (directory entries).names ↔ (directory entries).get? [name] ≠ none := by
  have hkeys : name ∈ entries.map (·.1) ↔ entries.lookup name ≠ none := by
    rw [ne_eq, List.lookup_eq_none_iff, List.mem_map]
    constructor
    · rintro ⟨entry, hentry, rfl⟩ hall
      simpa using hall entry hentry
    · intro hnot
      refine Classical.byContradiction fun hno => hnot ?_
      intro entry hentry
      exact bne_iff_ne.mpr fun heq => hno ⟨entry, hentry, heq.symm⟩
  rw [names, List.mem_mergeSort, List.mem_eraseDups, hkeys, get?]
  cases entries.lookup name with
  | none => simp
  | some found => simp

/-- The files in a directory, by their names. -/
theorem mem_fileNames {tree : FileTree} :
    name ∈ tree.fileNames ↔ ∃ content, tree.fileAt [name] = some content := by
  simp only [fileAt_eq_some_iff]
  cases tree with
  | file content => simp [fileNames, names, get?]
  | directory entries =>
    rw [fileNames, List.mem_filter, mem_names_directory]
    cases (directory entries).get? [name] with
    | none => simp
    | some found => cases found <;> simp [isFile]

@[simp]
theorem fileNames_empty : (directory []).fileNames = [] := by
  simp [fileNames, names]

theorem nodup_names : (tree : FileTree) → tree.names.Nodup
  | file _ => .nil
  | directory _ => List.nodup_mergeSort.mpr (nodup_eraseDups _)

theorem sorted_names : (tree : FileTree) → tree.names.Pairwise (· ≤ ·)
  | file _ => .nil
  | directory _ => by
    refine (List.pairwise_mergeSort ?_ ?_ _).imp fun h => of_decide_eq_true h
    · intro first second third hfirst hsecond
      have := String.le_trans (of_decide_eq_true hfirst) (of_decide_eq_true hsecond)
      exact decide_eq_true this
    · intro first second
      rcases String.le_total first second with h | h <;> simp [h]

/-- The names of files are in order, each once. -/
theorem sorted_fileNames (tree : FileTree) : tree.fileNames.Pairwise (· < ·) := by
  refine (((sorted_names tree).and (nodup_names tree)).imp ?_).filter _
  rintro first second ⟨hle, hne⟩
  exact String.not_le.mp fun hge => hne (String.le_antisymm hle hge)

/-- **Directories with the same files list the same names.** -/
theorem fileNames_congr (h : ∀ name, a.fileAt [name] = b.fileAt [name]) :
    a.fileNames = b.fileNames := by
  have hnodup : ∀ tree : FileTree, tree.fileNames.Nodup := fun tree => (nodup_names tree).filter _
  have hsorted : ∀ tree : FileTree, tree.fileNames.Pairwise (· ≤ ·) :=
    fun tree => (sorted_names tree).filter _
  have hperm := (List.perm_ext_iff_of_nodup (hnodup a) (hnodup b)).mpr fun name => by
    rw [mem_fileNames, mem_fileNames, h]
  exact hperm.eq_of_pairwise (fun _ _ _ _ h h' => String.le_antisymm h h') (hsorted a) (hsorted b)

/-! ## Entries that bear names -/

mutual

/-- Every entry of a tree bears a name. -/
def Named : FileTree → Prop
  | file _ => True
  | directory entries => EntriesNamed entries

/-- All entries bear names, and so do those below them. -/
def EntriesNamed : List (String × FileTree) → Prop
  | [] => True
  | entry :: rest => EntryNamed entry ∧ EntriesNamed rest

/-- An entry bears a name, and so do those below it. -/
def EntryNamed : String × FileTree → Prop
  | (name, tree) => Path.IsName name ∧ Named tree

end

theorem EntriesNamed.lookup {found : FileTree} : {entries : List (String × FileTree)} →
    EntriesNamed entries → entries.lookup name = some found → Path.IsName name ∧ found.Named
  | (first, tree) :: rest, ⟨hfirst, hrest⟩, h => by
    rw [List.lookup_cons] at h
    cases hname : name == first with
    | true =>
      rw [hname] at h
      obtain rfl := eq_of_beq hname
      cases h
      exact hfirst
    | false =>
      rw [hname] at h
      exact hrest.lookup h

theorem Named.get? {tree found : FileTree} (hnamed : tree.Named)
    (h : tree.get? place = some found) : found.Named ∧ ∀ name ∈ place, Path.IsName name := by
  induction place generalizing tree with
  | nil =>
    rw [get?_nil] at h
    cases h
    exact ⟨hnamed, fun name hname => absurd hname List.not_mem_nil⟩
  | cons first rest ih =>
    cases tree with
    | file content => cases h
    | directory entries =>
      rw [FileTree.get?] at h
      cases hlookup : entries.lookup first with
      | none => rw [hlookup] at h; cases h
      | some entry =>
        rw [hlookup] at h
        obtain ⟨hfirst, hentry⟩ := EntriesNamed.lookup hnamed hlookup
        obtain ⟨hfound, hrest⟩ := ih hentry h
        exact ⟨hfound, List.forall_mem_cons.mpr ⟨hfirst, hrest⟩⟩

end FileTree

namespace Disk

variable {a b disk : Disk} {root top sub inner inner' : FileTree} {path target : Path}
  {steps : List Path.Step}

/-! ## Ways that stay below a place -/

/-- Steps from this far below a place that never leave it by going up. -/
def Stays : Nat → List Path.Step → Prop
  | _, [] => True
  | depth, .stay :: rest => Stays depth rest
  | 0, .up :: _ => False
  | depth + 1, .up :: rest => Stays depth rest
  | depth, .down _ :: rest => Stays (depth + 1) rest

instance decidableStays : (depth : Nat) → (steps : List Path.Step) → Decidable (Stays depth steps)
  | _, [] => .isTrue trivial
  | depth, .stay :: rest => decidableStays depth rest
  | 0, .up :: _ => .isFalse id
  | depth + 1, .up :: rest => decidableStays depth rest
  | depth, .down _ :: rest => decidableStays (depth + 1) rest

/-- **A way that stays below a place is a way in the tree at that place.** -/
theorem walk_below {place : Location} (hroot : root.get? place = some sub) :
    ∀ reached : Location, Stays reached.length steps →
      walk root (place ++ reached) steps = (walk sub reached steps).map (place ++ ·) := by
  induction steps with
  | nil => exact fun _ _ => rfl
  | cons step rest ih =>
    intro reached hstays
    have hget : root.get? (place ++ reached) = sub.get? reached := by
      rw [FileTree.get?_append, hroot, Option.bind_some]
    simp only [walk, hget]
    cases sub.get? reached with
    | none => rfl
    | some found =>
      cases found with
      | file content => rfl
      | directory entries =>
        cases step with
        | stay =>
          simp only [Stays] at hstays
          exact ih reached hstays
        | down name =>
          simp only [Stays] at hstays
          by_cases hlong : maxNameLength < name.utf8ByteSize
          · simp only [if_pos hlong]
            rfl
          · have hrest := ih (reached ++ [name]) (by simpa using hstays)
            simp only [if_neg hlong]
            rw [← hrest, List.append_assoc]
        | up =>
          -- the way goes up only where it has gone down before
          cases hreached : reached with
          | nil =>
            rw [hreached] at hstays
            exact hstays.elim
          | cons first more =>
            have hne : reached ≠ [] := by simp [hreached]
            have hdepth : Stays reached.dropLast.length rest := by
              rw [hreached] at hstays ⊢
              simpa [Stays] using hstays
            rw [← hreached]
            rw [List.dropLast_append_of_ne_nil hne]
            exact ih _ hdepth

/-- The same ways can be gone in trees that hold the same. -/
theorem walk_same (h : inner.Same inner') (reached : Location) :
    walk inner reached steps = walk inner' reached steps := by
  induction steps generalizing reached with
  | nil => rfl
  | cons step rest ih =>
    rcases h.cases reached with ⟨ha, hb⟩ | ⟨content, ha, hb⟩ | ⟨entries, entries', ha, hb⟩
    · simp only [walk, ha, hb]
    · simp only [walk, ha, hb]
    · simp only [walk, ha, hb, ih]

/-- What some steps lead to in a tree. -/
def findIn (sub : FileTree) (steps : List Path.Step) : Except IoError FileTree :=
  match walk sub [] steps with
  | .error cause => .error cause
  | .ok place =>
    match sub.get? place with
    | none => .error .notFound
    | some found => .ok found

/-- A path that goes on from another one by some steps. -/
structure GoesOn (path : Path) (steps : List Path.Step) (target : Path) : Prop where
  steps_eq : target.steps = path.steps ++ steps
  isAbsolute_eq : target.isAbsolute = path.isAbsolute
  endsInSlash_eq : target.endsInSlash = false

theorem goesOn_self (hslash : path.endsInSlash = false) : GoesOn path [] path :=
  ⟨by rw [List.append_nil], rfl, hslash⟩

/-- What is put below a path goes on from where the path goes on. -/
theorem GoesOn.join_relative {name : String} (h : GoesOn path steps target)
    (hname : Path.IsRelative name) (hne : name ≠ "") (hslash : Path.endsInSlash ⟨name⟩ = false) :
    GoesOn path (steps ++ Path.steps ⟨name⟩) (target / name) where
  steps_eq := by rw [Path.steps_join_relative target hname, h.steps_eq, List.append_assoc]
  isAbsolute_eq := by rw [Path.isAbsolute_join target hname, h.isAbsolute_eq]
  endsInSlash_eq := by rw [Path.endsInSlash_join_relative target hname hne, hslash]

theorem GoesOn.join {name : String} (h : GoesOn path steps target) (hname : Path.IsName name) :
    GoesOn path (steps ++ [.down name]) (target / name) where
  steps_eq := by rw [Path.steps_join target hname, h.steps_eq, List.append_assoc]
  isAbsolute_eq := by rw [Path.isAbsolute_join target hname.isRelative, h.isAbsolute_eq]
  endsInSlash_eq := Path.endsInSlash_join target hname

/-- What a path leads to that goes on from another one and stays below it. -/
theorem find_of_goesOn (hfind : disk.find path = .ok sub) (hon : GoesOn path steps target)
    (hstays : Stays 0 steps) :
    disk.find target = (refuseText target).bind fun _ => findIn sub steps := by
  obtain ⟨hlocate, hsub⟩ := find_eq_ok_iff.mp hfind
  have hway := way_of_locate hlocate
  have hbelow := walk_below hsub [] hstays
  rw [List.append_nil] at hbelow
  have hstart : disk.start target = disk.start path := by
    rw [Disk.start, hon.isAbsolute_eq, Disk.start]
  unfold find locate
  cases refuseText target with
  | error cause => rfl
  | ok value =>
    simp only [allSteps, hon.endsInSlash_eq, Bool.false_eq_true, if_false, hstart, hon.steps_eq,
      walk_append, hway, Except.bind, hbelow, findIn]
    cases walk sub [] steps with
    | error cause => rfl
    | ok place =>
      cases hfound : sub.get? place with
      | none => simp only [Except.map, FileTree.get?_append, hsub, Option.bind_some, hfound]
      | some found => simp only [Except.map, FileTree.get?_append, hsub, Option.bind_some, hfound]

/-! ## Paths that lead to the same -/

/-- A path leads to the same on two disks, or is refused for the same reason. -/
def SameAt (a b : Disk) (path : Path) : Prop :=
  (∃ cause, a.find path = .error cause ∧ b.find path = .error cause) ∨
    ∃ inner inner', a.find path = .ok inner ∧ b.find path = .ok inner' ∧ inner.Same inner'

namespace SameAt

/-- Such a path is refused, or leads to one file, or to directories that hold the same. -/
theorem cases (h : a.SameAt b path) :
    (∃ cause, a.find path = .error cause ∧ b.find path = .error cause) ∨
      (∃ content, a.find path = .ok (.file content) ∧ b.find path = .ok (.file content)) ∨
        ∃ entries entries', a.find path = .ok (.directory entries) ∧
          b.find path = .ok (.directory entries') ∧
            (FileTree.directory entries).Same (.directory entries') := by
  rcases h with hrefused | ⟨inner, inner', ha, hb, hsame⟩
  · exact .inl hrefused
  · have hhere := hsame.cases []
    simp only [FileTree.get?_nil, Option.some.injEq, reduceCtorEq, false_and, false_or] at hhere
    rcases hhere with ⟨content, rfl, rfl⟩ | ⟨entries, entries', rfl, rfl⟩
    · exact .inr (.inl ⟨content, ha, hb⟩)
    · exact .inr (.inr ⟨entries, entries', ha, hb, hsame⟩)

theorem kind?_eq (h : a.SameAt b path) : a.kind? path = b.kind? path := by
  unfold kind?
  rcases h.cases with ⟨cause, ha, hb⟩ | ⟨content, ha, hb⟩ | ⟨entries, entries', ha, hb, -⟩ <;>
    rw [ha, hb]

theorem read_eq (h : a.SameAt b path) : a.read path = b.read path := by
  unfold read
  rcases h.cases with ⟨cause, ha, hb⟩ | ⟨content, ha, hb⟩ | ⟨entries, entries', ha, hb, -⟩ <;>
    rw [ha, hb]

theorem fileNames_eq (h : a.SameAt b path) : a.fileNames path = b.fileNames path := by
  unfold Disk.fileNames
  rcases h.cases with ⟨cause, ha, hb⟩ | ⟨content, ha, hb⟩ | ⟨entries, entries', ha, hb, hsame⟩
  · rw [ha, hb]
  · rw [ha, hb]
  · simp only [ha, hb, FileTree.fileNames_congr fun name => hsame.fileAt_eq [name]]

/-- What some steps lead to in trees that hold the same. -/
theorem findIn_same (h : inner.Same inner') (steps : List Path.Step) :
    (∃ cause, findIn inner steps = .error cause ∧ findIn inner' steps = .error cause) ∨
      ∃ found found', findIn inner steps = .ok found ∧ findIn inner' steps = .ok found' ∧
        found.Same found' := by
  unfold findIn
  rw [walk_same h []]
  cases walk inner' [] steps with
  | error cause => exact .inl ⟨cause, rfl, rfl⟩
  | ok place =>
    rcases h.cases place with ⟨ha, hb⟩ | ⟨content, ha, hb⟩ | ⟨entries, entries', ha, hb⟩
    · exact .inl ⟨.notFound, by simp only [ha], by simp only [hb]⟩
    · exact .inr ⟨_, _, by simp only [ha], by simp only [hb], h.below ha hb⟩
    · exact .inr ⟨_, _, by simp only [ha], by simp only [hb], h.below ha hb⟩

/-- **Below a directory that is the same on two disks, a path that stays there leads to the
same.** -/
theorem below (h : a.SameAt b path) (hdir : a.kind? path = some .directory)
    (hon : GoesOn path steps target) (hstays : Stays 0 steps) : a.SameAt b target := by
  rcases h with ⟨cause, ha, -⟩ | ⟨inner, inner', ha, hb, hsame⟩
  · rw [kind?, ha] at hdir
    cases hdir
  · unfold SameAt
    rw [find_of_goesOn ha hon hstays, find_of_goesOn hb hon hstays]
    cases refuseText target with
    | error cause => exact .inl ⟨cause, rfl, rfl⟩
    | ok value => exact findIn_same hsame steps

end SameAt

end Disk

end DmlOutline
