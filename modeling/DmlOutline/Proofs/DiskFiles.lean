import DmlOutline.Disk
import DmlOutline.Proofs.FileTreePut
import DmlOutline.Proofs.PathNames

/-!
# The files of a disk

A path stands for one place, whatever is on the disk; the disk decides only whether the way there
can be gone. So each operation on files is said by what it does to the file at one place.

* `Disk.fileAt` — the file at a place.
* `Disk.Grows` — a disk that has all directories of another one.

Principal results: `Disk.create_eq_ok`, `Disk.replace_eq_ok`, `Disk.makeDirs_widens`: what becomes
of the files; `Disk.Grows.read`: files that stay can still be read.
-/

namespace DmlOutline.Disk

open FileTree DmlOutline.Path

variable {disk next : Disk} {path : Path} {name : String} {root root' : FileTree}
  {start place : Location} {steps : List Path.Step} {content : ByteArray}

/-! ## The place that a path stands for -/

theorem follow_append (place : Location) (front back : List Path.Step) :
    follow place (front ++ back) = follow (follow place front) back := by
  induction front generalizing place with
  | nil => rfl
  | cons step rest ih => cases step <;> exact ih _

theorem start_join (disk : Disk) (path : Path) (h : IsName name) :
    disk.start (path / name) = disk.start path := by
  rw [Disk.start, isAbsolute_join path h.isRelative, Disk.start]

theorem goal_join (disk : Disk) (path : Path) (h : IsName name) :
    disk.goal (path / name) = disk.goal path ++ [name] := by
  rw [goal, start_join disk path h, steps_join path h, follow_append, goal]
  rfl

/-! ## Ways that can be gone -/

/-- One step leaves a directory, and goes to no name that is too long. -/
theorem walk_single_eq_ok_iff {step : Path.Step} :
    walk root start [step] = .ok place ↔
      root.DirAt start ∧ place = follow start [step] ∧
        ∀ name, step = .down name → name.utf8ByteSize ≤ maxNameLength := by
  unfold DirAt
  simp only [walk]
  cases root.get? start with
  | none => simp
  | some found =>
    cases found with
    | file content => simp
    | directory entries =>
      cases step with
      | stay => simp [follow, eq_comm]
      | up => simp [follow, eq_comm]
      | down name =>
        by_cases hlong : maxNameLength < name.utf8ByteSize
        · simp [hlong]
        · simp [hlong, follow, eq_comm, Nat.le_of_not_lt hlong]

theorem walk_cons (root : FileTree) (start : Location) (step : Path.Step)
    (rest : List Path.Step) :
    walk root start (step :: rest) =
      (walk root start [step]).bind fun reached => walk root reached rest := by
  simp only [walk]
  cases root.get? start with
  | none => rfl
  | some found =>
    cases found with
    | file content => rfl
    | directory entries =>
      cases step with
      | stay => rfl
      | up => rfl
      | down name =>
        by_cases hlong : maxNameLength < name.utf8ByteSize
        · simp only [if_pos hlong]; rfl
        · simp only [if_neg hlong]; rfl

theorem walk_cons_eq_ok {step : Path.Step} {rest : List Path.Step} :
    walk root start (step :: rest) = .ok place ↔
      ∃ reached, walk root start [step] = .ok reached ∧ walk root reached rest = .ok place := by
  rw [walk_cons]
  cases walk root start [step] with
  | error cause => simp [Except.bind]
  | ok reached => simp [Except.bind]

/-- A way that can be gone leads to the place that its steps stand for. -/
theorem walk_eq_follow (h : walk root start steps = .ok place) : place = follow start steps := by
  induction steps generalizing start with
  | nil => cases h; rfl
  | cons step rest ih =>
    obtain ⟨reached, hstep, hrest⟩ := walk_cons_eq_ok.mp h
    obtain ⟨-, rfl, -⟩ := walk_single_eq_ok_iff.mp hstep
    rw [ih hrest, ← follow_append, List.singleton_append]

theorem walk_append (root : FileTree) (start : Location) (front back : List Path.Step) :
    walk root start (front ++ back) =
      (walk root start front).bind fun reached => walk root reached back := by
  induction front generalizing start with
  | nil => rfl
  | cons step rest ih =>
    rw [List.cons_append, walk_cons, walk_cons root start step rest]
    cases walk root start [step] with
    | error cause => rfl
    | ok reached => exact ih reached

/-- A way can still be gone when there are more directories. -/
theorem walk_of_dirAt (hdirs : ∀ place, root.DirAt place → root'.DirAt place)
    (h : walk root start steps = .ok place) : walk root' start steps = .ok place := by
  induction steps generalizing start with
  | nil => exact h
  | cons step rest ih =>
    obtain ⟨reached, hstep, hrest⟩ := walk_cons_eq_ok.mp h
    obtain ⟨hdir, hreached, hname⟩ := walk_single_eq_ok_iff.mp hstep
    exact walk_cons_eq_ok.mpr
      ⟨reached, walk_single_eq_ok_iff.mpr ⟨hdirs start hdir, hreached, hname⟩, ih hrest⟩

theorem locate_eq_ok (h : disk.locate path = .ok place) : place = disk.goal path := by
  unfold locate at h
  split at h
  · cases h
  · rw [walk_eq_follow h, goal]
    unfold allSteps
    split
    · rw [follow_append]; rfl
    · rfl

/-! ## Files and directories -/

/-- The content of the file at a place. -/
def fileAt (disk : Disk) (place : Location) : Option ByteArray :=
  disk.root.fileAt place

/-- A disk that has all directories of another one, and starts relative paths from the same. -/
structure Grows (disk next : Disk) : Prop where
  here_eq : next.here = disk.here
  dirAt : ∀ place, disk.root.DirAt place → next.root.DirAt place

namespace Grows

theorem refl (disk : Disk) : disk.Grows disk :=
  ⟨rfl, fun _ h => h⟩

theorem trans {last : Disk} (h : disk.Grows next) (hnext : next.Grows last) : disk.Grows last :=
  ⟨hnext.here_eq.trans h.here_eq, fun place hdir => hnext.dirAt place (h.dirAt place hdir)⟩

theorem start_eq (h : disk.Grows next) (path : Path) : next.start path = disk.start path := by
  rw [Disk.start, Disk.start, h.here_eq]

theorem goal (h : disk.Grows next) (path : Path) : next.goal path = disk.goal path := by
  rw [Disk.goal, Disk.goal, h.start_eq]

theorem locate (h : disk.Grows next) (hlocate : disk.locate path = .ok place) :
    next.locate path = .ok place := by
  unfold Disk.locate at hlocate ⊢
  rw [h.start_eq]
  split at hlocate
  · cases hlocate
  · exact walk_of_dirAt h.dirAt hlocate

end Grows

theorem find_eq_ok_iff {found : FileTree} :
    disk.find path = .ok found ↔
      disk.locate path = .ok (disk.goal path) ∧ disk.root.get? (disk.goal path) = some found := by
  unfold find
  cases hlocate : disk.locate path with
  | error cause => simp
  | ok place =>
    obtain rfl := locate_eq_ok hlocate
    simp only [true_and]
    cases disk.root.get? (disk.goal path) with
    | none => simp
    | some other => simp

theorem read_eq_ok_iff :
    disk.read path = .ok content ↔
      disk.locate path = .ok (disk.goal path) ∧ disk.fileAt (disk.goal path) = some content := by
  rw [fileAt, fileAt_eq_some_iff, ← find_eq_ok_iff]
  unfold read
  cases disk.find path with
  | error cause => simp
  | ok found => cases found <;> simp

/-- What can be read is a file that is found. -/
theorem find_eq_file_iff : disk.find path = .ok (.file content) ↔ disk.read path = .ok content := by
  unfold read
  cases disk.find path with
  | error cause => simp
  | ok found => cases found <;> simp

/-- **A file that stays as it is can still be read.** -/
theorem Grows.read (h : disk.Grows next) (hread : disk.read path = .ok content)
    (hfile : next.fileAt (disk.goal path) = some content) : next.read path = .ok content := by
  rw [read_eq_ok_iff] at hread ⊢
  rw [h.goal]
  exact ⟨h.locate hread.1, hfile⟩

theorem kind?_eq_file_iff :
    disk.kind? path = some .file ↔ ∃ content, disk.read path = .ok content := by
  unfold kind? read
  cases disk.find path with
  | error cause => simp
  | ok found => cases found <;> simp

theorem kind?_eq_directory_iff :
    disk.kind? path = some .directory ↔
      disk.locate path = .ok (disk.goal path) ∧ disk.root.DirAt (disk.goal path) := by
  unfold DirAt
  have hfind : (∃ entries, disk.find path = .ok (.directory entries)) ↔
      disk.locate path = .ok (disk.goal path) ∧
        ∃ entries, disk.root.get? (disk.goal path) = some (directory entries) := by
    simp only [find_eq_ok_iff, exists_and_left]
  rw [← hfind]
  unfold kind?
  cases disk.find path with
  | error cause => simp
  | ok found => cases found <;> simp

theorem Grows.kind?_directory (h : disk.Grows next) (hkind : disk.kind? path = some .directory) :
    next.kind? path = some .directory := by
  rw [kind?_eq_directory_iff] at hkind ⊢
  rw [h.goal]
  exact ⟨h.locate hkind.1, h.dirAt _ hkind.2⟩

/-! ## What the operations do -/

/-- The entry that a path names is in a directory that is there. -/
theorem target_eq_some (h : disk.target path = .ok (some place)) :
    place = disk.goal path ∧ refuseText path = .ok () ∧
      walk disk.root (disk.start path) path.steps = .ok place ∧
      ∃ parent name, place = parent ++ [name] ∧ disk.root.DirAt parent := by
  unfold target at h
  split at h
  · cases h
  · rename_i htext
    split at h
    · rename_i name hlast
      split at h
      · cases h
      · rename_i reached hwalk
        cases h
        refine ⟨walk_eq_follow hwalk, htext, hwalk, ?_⟩
        obtain ⟨front, hsteps⟩ := List.getLast?_eq_some_iff.mp hlast
        rw [hsteps, walk_append] at hwalk
        cases hfront : walk disk.root (disk.start path) front with
        | error cause => rw [hfront] at hwalk; cases hwalk
        | ok parent =>
          rw [hfront] at hwalk
          change walk disk.root parent [.down name] = .ok place at hwalk
          obtain ⟨hdir, rfl, -⟩ := walk_single_eq_ok_iff.mp hwalk
          exact ⟨parent, name, rfl, hdir⟩
    · split at h <;> cases h

/-- A disk with an entry put in the place that a path names, which is no directory. -/
structure Puts (disk : Disk) (path : Path) (entry : FileTree) (next : Disk) : Prop where
  next_eq : next = disk.put (disk.goal path) entry
  inside : ∃ parent name, disk.goal path = parent ++ [name] ∧ disk.root.DirAt parent
  notDir : ¬disk.root.DirAt (disk.goal path)
  text : refuseText path = .ok ()
  way : walk disk.root (disk.start path) path.steps = .ok (disk.goal path)

namespace Puts

variable {entry : FileTree}

theorem of_target (h : disk.target path = .ok (some place)) (hnot : ¬disk.root.DirAt place)
    (entry : FileTree) : disk.Puts path entry (disk.put place entry) := by
  obtain ⟨rfl, htext, hway, hinside⟩ := target_eq_some h
  exact ⟨rfl, hinside, hnot, htext, hway⟩

theorem grows (h : disk.Puts path entry next) : disk.Grows next := by
  obtain ⟨rfl, ⟨parent, name, hgoal, hdir⟩, hnot, -, -⟩ := h
  rw [hgoal] at hnot ⊢
  exact ⟨rfl, fun place hplace => hplace.put hdir hnot entry⟩

/-- What is put in a place is there. -/
theorem get?_self (h : disk.Puts path entry next) :
    next.root.get? (disk.goal path) = some entry := by
  obtain ⟨rfl, ⟨parent, name, hgoal, entries, hentries⟩, -, -, -⟩ := h
  rw [hgoal]
  exact get?_put_self hentries rfl entry

/-- Places apart from the one of the entry keep what they have. -/
theorem get?_apart (h : disk.Puts path entry next) {other : Location}
    (hbelow : ¬disk.goal path <+: other) (habove : ¬other <+: disk.goal path) :
    next.root.get? other = disk.root.get? other := by
  rw [h.next_eq]
  exact get?_put_apart entry hbelow habove

theorem fileAt_file (h : disk.Puts path (.file content) next) (other : Location) :
    next.fileAt other = if other = disk.goal path then some content else disk.fileAt other := by
  obtain ⟨rfl, ⟨parent, name, hgoal, hdir⟩, hnot, -, -⟩ := h
  rw [hgoal] at hnot ⊢
  exact fileAt_put_file hdir hnot content other

theorem dirAt_file (h : disk.Puts path (.file content) next) (other : Location) :
    next.root.DirAt other ↔ disk.root.DirAt other := by
  obtain ⟨rfl, ⟨parent, name, hgoal, hdir⟩, hnot, -, -⟩ := h
  rw [hgoal] at hnot ⊢
  exact dirAt_put_file hdir hnot content other

theorem fileAt_directory (h : disk.Puts path (.directory []) next)
    (hnone : disk.root.get? (disk.goal path) = none) (other : Location) :
    next.fileAt other = disk.fileAt other := by
  obtain ⟨rfl, ⟨parent, name, hgoal, hdir⟩, -, -, -⟩ := h
  rw [hgoal] at hnone ⊢
  exact fileAt_put_directory hdir hnone other

/-- The way to what a path names can be gone before as well. -/
theorem locate_before (h : disk.Puts path entry next) (hslash : path.endsInSlash = false) :
    disk.locate path = .ok (disk.goal path) := by
  simp only [Disk.locate, h.text, allSteps, hslash, Bool.false_eq_true, if_false]
  exact h.way

/-- What a path names can be found by it, unless the path asks for a directory. -/
theorem locate (h : disk.Puts path entry next) (hslash : path.endsInSlash = false) :
    next.locate path = .ok (disk.goal path) :=
  h.grows.locate (h.locate_before hslash)

end Puts

theorem not_dirAt_of_get? {found : Option FileTree} (h : root.get? place = found)
    (hnot : ∀ entries, found ≠ some (.directory entries)) : ¬root.DirAt place := by
  rintro ⟨entries, hentries⟩
  exact hnot entries (h ▸ hentries)

/-- **Making a file puts it where there was nothing.** -/
theorem create_eq_ok (h : disk.create path content = .ok next) :
    disk.Puts path (.file content) next ∧ disk.root.get? (disk.goal path) = none ∧
      path.endsInSlash = false := by
  unfold create at h
  split at h
  · cases h
  · cases h
  · rename_i place htarget
    split at h
    · cases h
    · rename_i hslash
      split at h
      · cases h
      · rename_i hnone
        cases h
        have hnot : ¬disk.root.DirAt place := not_dirAt_of_get? hnone fun _ h => by cases h
        have hgoal := (target_eq_some htarget).1
        exact ⟨.of_target htarget hnot _, hgoal ▸ hnone, by simpa using hslash⟩

/-- A file that is made empty is made with any content. -/
theorem create_eq_map (disk : Disk) (path : Path) (content : ByteArray) :
    disk.create path content =
      (disk.create path .empty).map fun _ => disk.put (disk.goal path) (.file content) := by
  unfold create
  cases htarget : disk.target path with
  | error cause => rfl
  | ok found =>
    cases found with
    | none => rfl
    | some place =>
      obtain ⟨rfl, -⟩ := target_eq_some htarget
      dsimp only
      split
      · rfl
      · cases disk.root.get? (disk.goal path) <;> rfl

/-- **Supplanting puts a file where there was no directory.** -/
theorem supplant_eq_ok (h : disk.supplant path content = .ok next) :
    disk.Puts path (.file content) next ∧ path.endsInSlash = false := by
  unfold supplant at h
  split at h
  · cases h
  · cases h
  · rename_i place htarget
    split at h
    · cases h
    · rename_i hslash
      split at h
      · cases h
      · rename_i hfound
        cases h
        have hnot : ¬disk.root.DirAt place := fun ⟨entries, hentries⟩ => hfound entries hentries
        exact ⟨.of_target htarget hnot _, by simpa using hslash⟩

theorem replace_eq_ok_iff :
    disk.replace path content = .ok next ↔
      roomBeside path = .ok () ∧ disk.supplant path content = .ok next := by
  unfold replace
  cases roomBeside path with
  | error cause => simp
  | ok value => simp

/-- **Replacing puts a file where there was no directory.** -/
theorem replace_eq_ok (h : disk.replace path content = .ok next) :
    disk.Puts path (.file content) next ∧ path.endsInSlash = false :=
  supplant_eq_ok (replace_eq_ok_iff.mp h).2

/-- A file gets its content just where it could be supplanted; only the refusals differ. -/
theorem overwrite_eq_ok_iff :
    disk.overwrite path content = .ok next ↔ disk.supplant path content = .ok next := by
  unfold overwrite supplant
  cases disk.target path with
  | error cause => simp
  | ok found =>
    cases found with
    | none => simp
    | some place =>
      simp only
      split
      · simp
      · cases disk.root.get? place with
        | none => simp
        | some entry => cases entry <;> simp

/-- A file that was put in the place of a path can be read. -/
theorem Puts.read (h : disk.Puts path (.file content) next) (hslash : path.endsInSlash = false) :
    next.read path = .ok content := by
  rw [read_eq_ok_iff, h.grows.goal, h.fileAt_file, if_pos rfl]
  exact ⟨h.locate hslash, rfl⟩

theorem read_of_create (h : disk.create path content = .ok next) :
    next.read path = .ok content := by
  obtain ⟨hputs, -, hslash⟩ := create_eq_ok h
  exact hputs.read hslash

theorem read_of_replace (h : disk.replace path content = .ok next) :
    next.read path = .ok content := by
  obtain ⟨hputs, hslash⟩ := replace_eq_ok h
  exact hputs.read hslash

theorem read_of_overwrite (h : disk.overwrite path content = .ok next) :
    next.read path = .ok content := by
  obtain ⟨hputs, hslash⟩ := supplant_eq_ok (overwrite_eq_ok_iff.mp h)
  exact hputs.read hslash

/-- Where a file is replaced and none could be read before, there was none. -/
theorem fileAt_of_replace (h : disk.replace path content = .ok next)
    (hkind : disk.kind? path ≠ some .file) : disk.fileAt (disk.goal path) = none := by
  obtain ⟨hputs, hslash⟩ := replace_eq_ok h
  cases hfile : disk.fileAt (disk.goal path) with
  | none => rfl
  | some held =>
    have hread := read_eq_ok_iff.mpr ⟨hputs.locate_before hslash, hfile⟩
    exact absurd (kind?_eq_file_iff.mpr ⟨held, hread⟩) hkind

/-- **Making a directory puts it where there was nothing.** -/
theorem makeDir_eq_ok (h : disk.makeDir path = .ok next) :
    disk.Puts path (.directory []) next ∧ disk.root.get? (disk.goal path) = none := by
  unfold makeDir at h
  split at h
  · cases h
  · cases h
  · rename_i place htarget
    split at h
    · cases h
    · rename_i hnone
      cases h
      have hnot : ¬disk.root.DirAt place := not_dirAt_of_get? hnone fun _ h => by cases h
      have hgoal := (target_eq_some htarget).1
      exact ⟨.of_target htarget hnot _, hgoal ▸ hnone⟩

/-- A disk that differs from another one by more directories alone. -/
structure Widens (disk next : Disk) : Prop extends Grows disk next where
  fileAt : ∀ place, next.fileAt place = disk.fileAt place

theorem Widens.refl (disk : Disk) : disk.Widens disk :=
  ⟨.refl disk, fun _ => rfl⟩

theorem Widens.trans {last : Disk} (h : disk.Widens next) (hnext : next.Widens last) :
    disk.Widens last :=
  ⟨h.toGrows.trans hnext.toGrows, fun place => (hnext.fileAt place).trans (h.fileAt place)⟩

theorem makeDir_widens (h : disk.makeDir path = .ok next) : disk.Widens next := by
  obtain ⟨hputs, hnone⟩ := makeDir_eq_ok h
  exact ⟨hputs.grows, hputs.fileAt_directory hnone⟩

/-- Making directories, whether it succeeds or not, is making some of them one after the other. -/
theorem makeFirst_rel {R : Disk → Disk → Prop} {paths : List Path} (hrefl : ∀ disk, R disk disk)
    (htrans : ∀ {a b c}, R a b → R b c → R a c)
    (hmake : ∀ path ∈ paths, ∀ disk next : Disk, disk.makeDir path = .ok next → R disk next)
    (disk : Disk) : R disk (disk.makeFirst paths).2 := by
  induction paths with
  | nil => exact hrefl disk
  | cons path outer ih =>
    have hfirst := hmake path List.mem_cons_self
    have houter := ih fun path hpath => hmake path (List.mem_cons_of_mem _ hpath)
    rw [makeFirst]
    split
    · exact hrefl disk
    · split
      · rename_i made hmade
        exact hfirst _ _ hmade
      · cases hrest : disk.makeFirst outer with
        | mk result reached =>
          rw [hrest] at houter
          cases result with
          | error cause => exact houter
          | ok value =>
            simp only
            split
            · rename_i made hmade
              exact htrans houter (hfirst _ _ hmade)
            · split <;> exact houter
      · split <;> exact hrefl disk

/-- **Making directories, whether it succeeds or not, changes no files.** -/
theorem makeFirst_widens (disk : Disk) (paths : List Path) :
    disk.Widens (disk.makeFirst paths).2 :=
  makeFirst_rel (R := Widens) .refl .trans (fun _ _ _ _ => makeDir_widens) disk

theorem makeDirs_widens (disk : Disk) (path : Path) : disk.Widens (disk.makeDirs path).2 :=
  makeFirst_widens disk path.ancestors

/-- Where the steps of a path lead to a directory, so does the path, though it may end in a slash. -/
theorem kind?_of_walk (htext : refuseText path = .ok ())
    (hway : walk disk.root (disk.start path) path.steps = .ok (disk.goal path))
    (hdir : disk.root.DirAt (disk.goal path)) : disk.kind? path = some .directory := by
  refine kind?_eq_directory_iff.mpr ⟨?_, hdir⟩
  obtain ⟨entries, hentries⟩ := hdir
  simp only [locate, htext, allSteps]
  split
  · rw [walk_append, hway]
    simp only [Except.bind, walk, hentries]
  · exact hway

theorem kind?_of_makeDir (h : disk.makeDir path = .ok next) :
    next.kind? path = some .directory := by
  obtain ⟨hputs, -⟩ := makeDir_eq_ok h
  have hway := walk_of_dirAt hputs.grows.dirAt hputs.way
  refine kind?_of_walk hputs.text ?_ ?_
  · rw [hputs.grows.start_eq, hputs.grows.goal, hway]
  · rw [hputs.grows.goal]
    exact ⟨[], hputs.get?_self⟩

theorem exists_ancestors (path : Path) : ∃ outer, path.ancestors = path :: outer := by
  cases hup : path.parent? with
  | none => exact ⟨[], ancestors_of_parent?_eq_none hup⟩
  | some up => exact ⟨up.ancestors, ancestors_of_parent? hup⟩

theorem makeFirst_of_made {outer : List Path} (htext : path.text ≠ "")
    (h : disk.makeDir path = .ok next) : disk.makeFirst (path :: outer) = (.ok (), next) := by
  rw [makeFirst, if_neg htext, h]

theorem makeFirst_of_refused {outer : List Path} {cause : IoError} (htext : path.text ≠ "")
    (hcause : cause ≠ .notFound) (h : disk.makeDir path = .error cause) :
    disk.makeFirst (path :: outer) =
      if disk.kind? path = some .directory then (.ok (), disk) else (.error cause, disk) := by
  rw [makeFirst, if_neg htext, h]
  cases cause <;> first | rfl | exact absurd rfl hcause

/-- A directory that was refused because it is there is there. -/
theorem kind?_of_refused {cause : IoError}
    (h : (if disk.kind? path = some .directory then (Except.ok (), disk)
      else (Except.error cause, disk)).1 = Except.ok ()) :
    (if disk.kind? path = some .directory then (Except.ok (), disk)
      else (Except.error cause, disk)).2.kind? path = some .directory := by
  split at h
  · rename_i hkind
    rw [if_pos hkind]
    exact hkind
  · cases h

/-- **The first of some directories that were made is there.** -/
theorem kind?_of_makeFirst {outer : List Path} (h : (disk.makeFirst (path :: outer)).1 = .ok ())
    (htext : path.text ≠ "") :
    (disk.makeFirst (path :: outer)).2.kind? path = some .directory := by
  cases hmake : disk.makeDir path with
  | ok made =>
    rw [makeFirst_of_made htext hmake]
    exact kind?_of_makeDir hmake
  | error cause =>
    by_cases hmissing : cause = .notFound
    · subst hmissing
      rw [makeFirst, if_neg htext, hmake] at h ⊢
      cases hrest : disk.makeFirst outer with
      | mk result reached =>
        rw [hrest] at h
        cases result with
        | error cause => cases h
        | ok value =>
          simp only at h ⊢
          cases hagain : reached.makeDir path with
          | ok made => exact kind?_of_makeDir hagain
          | error cause =>
            rw [hagain] at h
            exact kind?_of_refused h
    · rw [makeFirst_of_refused htext hmissing hmake] at h ⊢
      exact kind?_of_refused h

/-- **A directory that was made is there.** -/
theorem kind?_of_makeDirs (h : (disk.makeDirs path).1 = .ok ()) (htext : path.text ≠ "") :
    (disk.makeDirs path).2.kind? path = some .directory := by
  obtain ⟨outer, houter⟩ := exists_ancestors path
  unfold makeDirs at h ⊢
  rw [houter] at h ⊢
  exact kind?_of_makeFirst h htext

/-! ## What is found below a directory -/

/-- What a path leads to depends on the way and on what is at its place. -/
theorem find_congr (hstart : next.start path = disk.start path) (hslash : path.endsInSlash = false)
    (hway : walk next.root (disk.start path) path.steps =
      walk disk.root (disk.start path) path.steps)
    (hget : next.root.get? (disk.goal path) = disk.root.get? (disk.goal path)) :
    next.find path = disk.find path := by
  unfold find locate
  simp only [allSteps, hslash, hstart, Bool.false_eq_true, if_false, hway]
  cases refuseText path with
  | error cause => rfl
  | ok value =>
    cases hwalk : walk disk.root (disk.start path) path.steps with
    | error cause => rfl
    | ok place =>
      simp only
      rw [walk_eq_follow hwalk]
      rw [goal] at hget
      rw [hget]

/-- The way to a name below a path. -/
theorem walk_join (root : FileTree) (start : Location) (path : Path) (h : IsName name) :
    walk root start (path / name).steps =
      (walk root start path.steps).bind fun reached => walk root reached [.down name] := by
  rw [steps_join path h, walk_append]

/-- Where a path leads to something, its steps alone lead there, though it may end in a slash. -/
theorem way_of_locate (hlocate : disk.locate path = .ok place) :
    walk disk.root (disk.start path) path.steps = .ok (disk.goal path) := by
  unfold locate allSteps at hlocate
  split at hlocate
  · cases hlocate
  · split at hlocate
    · rw [walk_append] at hlocate
      cases hway : walk disk.root (disk.start path) path.steps with
      | error cause => rw [hway] at hlocate; cases hlocate
      | ok reached => rw [walk_eq_follow hway, goal]
    · rw [hlocate, walk_eq_follow hlocate, goal]

/-- Where something is found below a path, there is a directory. -/
theorem way_of_locate_join (h : IsName name) (hlocate : disk.locate (path / name) = .ok place) :
    walk disk.root (disk.start path) path.steps = .ok (disk.goal path) ∧
      disk.root.DirAt (disk.goal path) := by
  unfold locate at hlocate
  split at hlocate
  · cases hlocate
  · rw [allSteps, if_neg (by rw [endsInSlash_join path h]; exact Bool.false_ne_true),
      start_join disk path h, walk_join _ _ path h] at hlocate
    cases hway : walk disk.root (disk.start path) path.steps with
    | error cause => rw [hway] at hlocate; cases hlocate
    | ok reached =>
      rw [hway] at hlocate
      change walk disk.root reached [.down name] = .ok place at hlocate
      obtain rfl : reached = disk.goal path := walk_eq_follow hway
      exact ⟨rfl, (walk_single_eq_ok_iff.mp hlocate).1⟩

/-- A file that can be read is reached in its directory. -/
theorem isReachable_of_read (h : IsName name) (hread : disk.read (path / name) = .ok content) :
    isReachable path name = true := by
  have hlocate := (read_eq_ok_iff.mp hread).1
  have htext : refuseText (path / name) = .ok () := by
    unfold locate at hlocate
    split at hlocate
    · cases hlocate
    · assumption
  have hway := way_of_locate hlocate
  rw [start_join disk path h, walk_join _ _ path h] at hway
  cases hfront : walk disk.root (disk.start path) path.steps with
  | error cause => rw [hfront] at hway; cases hway
  | ok reached =>
    rw [hfront] at hway
    change walk disk.root reached [.down name] = _ at hway
    have hlength := (walk_single_eq_ok_iff.mp hway).2.2 name rfl
    rw [isReachable, htext, Bool.and_eq_true]
    exact ⟨rfl, decide_eq_true hlength⟩

/-- No file is made where there is one. -/
theorem create_of_read {held : ByteArray} (h : IsName name)
    (hread : disk.read (path / name) = .ok held) (content : ByteArray) :
    disk.create (path / name) content = .error .alreadyExists := by
  have hslash := endsInSlash_join path h
  obtain ⟨hlocate, hfile⟩ := read_eq_ok_iff.mp hread
  have hlast : (path / name).steps.getLast? = some (.down name) := by
    rw [steps_join path h, List.getLast?_concat]
  have htarget : disk.target (path / name) = .ok (some (disk.goal (path / name))) := by
    unfold locate allSteps at hlocate
    rw [hslash, if_neg Bool.false_ne_true] at hlocate
    unfold target
    split at hlocate
    · cases hlocate
    · simp only [hlast, hlocate]
  unfold create
  simp only [htarget, hslash, Bool.false_eq_true, if_false, fileAt_eq_some_iff.mp hfile]

/-- **What is found in a directory of a directory does not depend on its neighbours.** -/
theorem Grows.find_below (h : disk.Grows next) {folder : String} (hf : IsName folder)
    (hway : walk disk.root (disk.start path) path.steps = .ok (disk.goal path))
    (hdir : disk.root.DirAt (disk.goal path))
    (hsame : ∀ rest, next.root.get? (disk.goal path ++ folder :: rest) =
      disk.root.get? (disk.goal path ++ folder :: rest)) :
    next.find (path / folder) = disk.find (path / folder) ∧
      ∀ name, IsName name →
        next.find (path / folder / name) = disk.find (path / folder / name) := by
  have hfolder : walk next.root (disk.start (path / folder)) (path / folder).steps =
      walk disk.root (disk.start (path / folder)) (path / folder).steps := by
    rw [start_join disk path hf, walk_join _ _ path hf, walk_join _ _ path hf, hway,
      walk_of_dirAt h.dirAt hway]
    obtain ⟨entries, hentries⟩ := hdir
    obtain ⟨more, hmore⟩ := h.dirAt _ ⟨entries, hentries⟩
    change walk next.root (disk.goal path) _ = walk disk.root (disk.goal path) _
    simp only [walk, hentries, hmore]
  constructor
  · refine find_congr (h.start_eq _) (endsInSlash_join path hf) hfolder ?_
    rw [goal_join disk path hf]
    exact hsame []
  · intro name hname
    refine find_congr (h.start_eq _) (endsInSlash_join _ hname) ?_ ?_
    · rw [start_join disk _ hname, walk_join _ _ _ hname, walk_join _ _ _ hname, hfolder]
      cases hreach : walk disk.root (disk.start (path / folder)) (path / folder).steps with
      | error cause => rfl
      | ok place =>
        have hplace : place = disk.goal (path / folder) := walk_eq_follow hreach
        have hget := hsame []
        rw [← goal_join disk path hf, ← hplace] at hget
        change walk next.root place _ = walk disk.root place _
        simp only [walk, hget]
    · rw [goal_join disk _ hname, goal_join disk path hf, List.append_assoc]
      exact hsame [name]

/-! ## Places with nothing below them -/

/-- There is nothing below the place of a path, whether a directory is there or not. -/
def Vacant (disk : Disk) (path : Path) : Prop :=
  ∀ name rest, disk.root.get? (disk.goal path ++ name :: rest) = none

/-- Nothing is below an empty directory. -/
theorem vacant_of_find (h : disk.find path = .ok (.directory [])) : disk.Vacant path := by
  intro name rest
  rw [FileTree.get?_append, (find_eq_ok_iff.mp h).2, Option.bind_some]
  rfl

theorem Vacant.join (h : disk.Vacant path) (hname : IsName name) : disk.Vacant (path / name) := by
  intro first rest
  rw [goal_join disk path hname, List.append_assoc]
  exact h name (first :: rest)

theorem Vacant.fileAt (h : disk.Vacant path) (name : String) (rest : Location) :
    disk.fileAt (disk.goal path ++ name :: rest) = none := by
  rw [Disk.fileAt, FileTree.fileAt, h name rest]

end DmlOutline.Disk
