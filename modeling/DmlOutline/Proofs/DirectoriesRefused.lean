import DmlOutline.Proofs.DirectoriesMade
import DmlOutline.Proofs.PavedWays

/-!
# Directories that cannot be made

When a directory cannot be made, some that are above it may have been made all the same. Trying again
changes nothing more: it fails as well, though it may be for another reason. For a path that names a
directory, or one that can be made, leads through the directory above it; so what is above a path that
failed for that reason is missing still.

Principal results: `Disk.kind?_parent?`: where the directory above is; `Disk.makeFirst_again`,
`Store.provideDir_again`: what failed fails again, and makes nothing more.
-/

namespace DmlOutline

open Disk

namespace Disk

variable {disk next reached : Disk} {path up : Path} {root : FileTree} {start place : Location}
  {front steps : List Path.Step} {cause : IoError}

/-! ## The directory above -/

/-- A way leads through directories before it ends. -/
theorem dirAt_of_walk (h : walk root start steps = .ok place) (hfront : front <+: steps)
    (hlength : front.length < steps.length) :
    ∃ inside, walk root start front = .ok inside ∧ root.DirAt inside := by
  obtain ⟨back, rfl⟩ := hfront
  cases back with
  | nil => simp at hlength
  | cons step rest =>
    rw [walk_append] at h
    cases hinside : walk root start front with
    | error refused => rw [hinside] at h; cases h
    | ok inside =>
      rw [hinside] at h
      obtain ⟨reached, hstep, -⟩ := walk_cons_eq_ok.mp h
      exact ⟨inside, rfl, (walk_single_eq_ok_iff.mp hstep).1⟩

/-- Where the steps of a path can be gone, the directory above it is there. -/
theorem kind?_parent? (hup : path.parent? = some up) (hne : up.text ≠ "")
    (htext : refuseText path = .ok ())
    (hway : walk disk.root (disk.start path) path.steps = .ok place) :
    disk.kind? up = some .directory := by
  obtain ⟨hsteps, habsolute⟩ := Path.steps_parent? hup
  obtain ⟨back, hback⟩ := Path.text_parent? hup
  obtain ⟨inside, hinside, hdir⟩ := dirAt_of_walk hway hsteps (Path.length_steps_parent? hup)
  have hstart : disk.start up = disk.start path := by
    rw [Disk.start, Disk.start, habsolute]
  rw [← hstart] at hinside
  have hgoal : inside = disk.goal up := walk_eq_follow hinside
  rw [hgoal] at hinside hdir
  exact kind?_of_walk (refuseText_of_append hback hne htext) hinside hdir

/-- A directory that can be made has one above it. -/
theorem kind?_parent?_of_makeDir (hup : path.parent? = some up) (hne : up.text ≠ "")
    (h : disk.makeDir path = .ok next) : disk.kind? up = some .directory := by
  obtain ⟨hputs, -⟩ := makeDir_eq_ok h
  exact kind?_parent? hup hne hputs.text hputs.way

/-- A directory that is there has one above it. -/
theorem kind?_parent?_of_directory (hup : path.parent? = some up) (hne : up.text ≠ "")
    (h : disk.kind? path = some .directory) : disk.kind? up = some .directory := by
  have hlocate := (kind?_eq_directory_iff.mp h).1
  refine kind?_parent? hup hne ?_ (way_of_locate hlocate)
  unfold locate at hlocate
  split at hlocate
  · cases hlocate
  · assumption

/-! ## Directories that are there -/

/-- A directory that is there is not made. -/
theorem makeDir_of_directory (h : disk.kind? path = some .directory) :
    disk.makeDir path = .error .alreadyExists := by
  obtain ⟨hlocate, entries, hentries⟩ := kind?_eq_directory_iff.mp h
  have hway := way_of_locate hlocate
  have htext : refuseText path = .ok () := by
    unfold locate at hlocate
    split at hlocate
    · cases hlocate
    · assumption
  unfold makeDir target
  simp only [htext]
  split
  · rename_i cause htarget
    split at htarget
    · rw [hway] at htarget
      cases htarget
    · rw [walk_append, hway] at htarget
      simp only [Except.bind, walk, hentries] at htarget
      cases htarget
  · rfl
  · rename_i place htarget
    split at htarget
    · rw [hway] at htarget
      cases htarget
      rw [hentries]
    · rw [walk_append, hway] at htarget
      simp only [Except.bind, walk, hentries] at htarget
      cases htarget

/-- Where the first of some directories is there, nothing is made. -/
theorem makeFirst_of_directory (hne : path.text ≠ "") (h : disk.kind? path = some .directory)
    (outer : List Path) : disk.makeFirst (path :: outer) = (.ok (), disk) := by
  rw [makeFirst_of_refused hne IoError.noConfusion (makeDir_of_directory h), if_pos h]

/-- A directory that was made is not made again. -/
theorem makeFirst_again_of_ok (h : disk.makeFirst path.ancestors = (.ok (), reached)) :
    reached.makeFirst path.ancestors = (.ok (), reached) := by
  obtain ⟨outer, houter⟩ := exists_ancestors path
  rw [houter] at h ⊢
  by_cases hne : path.text = ""
  · rw [makeFirst, if_pos hne]
  · have hkind : (disk.makeFirst (path :: outer)).2.kind? path = some .directory :=
      kind?_of_makeFirst (by rw [h]) hne
    rw [h] at hkind
    exact makeFirst_of_directory hne hkind outer

/-! ## Directories that were refused -/

/-- A directory that was refused on a disk is refused there again. -/
theorem makeFirst_of_error {outer : List Path} (hne : path.text ≠ "")
    (hmake : ∀ made, disk.makeDir path ≠ .ok made) (hkind : disk.kind? path ≠ some .directory)
    (houter : (disk.makeFirst outer).2 = disk) :
    ∃ cause, disk.makeFirst (path :: outer) = (.error cause, disk) := by
  cases hmade : disk.makeDir path with
  | ok made => exact absurd hmade (hmake made)
  | error cause =>
    by_cases hmissing : cause = .notFound
    · subst hmissing
      rw [makeFirst, if_neg hne, hmade]
      cases hrest : disk.makeFirst outer with
      | mk result same =>
        rw [hrest] at houter
        obtain rfl : same = disk := houter
        cases result with
        | error cause => exact ⟨cause, rfl⟩
        | ok value =>
          simp only [hmade, if_neg hkind]
          exact ⟨_, rfl⟩
    · rw [makeFirst_of_refused hne hmissing hmade, if_neg hkind]
      exact ⟨cause, rfl⟩

/-- Why the first of some directories could not be made: it was refused at once, what is above it
could not be made, or it was refused when that was there. -/
theorem makeFirst_eq_error {outer : List Path}
    (h : disk.makeFirst (path :: outer) = (.error cause, reached)) :
    path.text ≠ "" ∧ (reached = disk ∨ disk.makeFirst outer = (.error cause, reached) ∨
      disk.makeFirst outer = (.ok (), reached) ∧ (∀ made, reached.makeDir path ≠ .ok made) ∧
        reached.kind? path ≠ some .directory) := by
  have hne : path.text ≠ "" := by
    intro hempty
    rw [makeFirst, if_pos hempty] at h
    cases h
  refine ⟨hne, ?_⟩
  cases hmade : disk.makeDir path with
  | ok made =>
    rw [makeFirst_of_made hne hmade] at h
    cases h
  | error refused =>
    by_cases hmissing : refused = .notFound
    · subst hmissing
      rw [makeFirst, if_neg hne, hmade] at h
      cases hrest : disk.makeFirst outer with
      | mk result stopped =>
        rw [hrest] at h
        cases result with
        | error cause => exact .inr (.inl h)
        | ok value =>
          cases hagain : stopped.makeDir path with
          | ok made =>
            simp only [hagain] at h
            cases h
          | error again =>
            simp only [hagain] at h
            split at h
            · cases h
            · rename_i hkind
              cases h
              refine .inr (.inr ⟨rfl, fun made hmake => ?_, hkind⟩)
              rw [hagain] at hmake
              cases hmake
    · rw [makeFirst_of_refused hne hmissing hmade] at h
      split at h
      · cases h
      · cases h
        exact .inl rfl

/-- Where what is above a path cannot be made, there is no directory above it. -/
theorem not_directory_of_makeFirst {outcome : Disk}
    (h : disk.makeFirst path.ancestors = (.error cause, outcome)) :
    path.text ≠ "" ∧ disk.kind? path ≠ some .directory := by
  obtain ⟨outer, houter⟩ := exists_ancestors path
  rw [houter] at h
  obtain ⟨hne, -⟩ := makeFirst_eq_error h
  refine ⟨hne, fun hkind => ?_⟩
  rw [makeFirst_of_directory hne hkind outer] at h
  cases h

/-- **What could not be made cannot be made on the disk that was reached, and nothing more is made
there.** -/
theorem makeFirst_again (h : disk.makeFirst path.ancestors = (.error cause, reached)) :
    ∃ again, reached.makeFirst path.ancestors = (.error again, reached) := by
  induction path using Path.ancestors.induct generalizing cause reached with
  | case1 path hnone =>
    rw [Path.ancestors_of_parent?_eq_none hnone] at h ⊢
    rcases (makeFirst_eq_error h).2 with rfl | hrest | ⟨hrest, -⟩
    · exact ⟨cause, h⟩
    · cases hrest
    · cases hrest
      exact ⟨cause, h⟩
  | case2 path up hup ih =>
    rw [Path.ancestors_of_parent? hup] at h ⊢
    obtain ⟨hne, rfl | hrest | ⟨hrest, hmake, hkind⟩⟩ := makeFirst_eq_error h
    · exact ⟨cause, h⟩
    · -- nothing is above the path on the disk that was reached, so it is neither there nor made
      obtain ⟨again, hagain⟩ := ih hrest
      obtain ⟨hupText, hupKind⟩ := not_directory_of_makeFirst hagain
      refine makeFirst_of_error hne (fun made hmake => ?_) (fun hkind => ?_) (by rw [hagain])
      · exact hupKind (kind?_parent?_of_makeDir hup hupText hmake)
      · exact hupKind (kind?_parent?_of_directory hup hupText hkind)
    · exact makeFirst_of_error hne hmake hkind (by rw [makeFirst_again_of_ok hrest])

end Disk

/-- **A directory that could not be provided cannot be provided afterwards, and nothing changes any
more.** -/
theorem Store.provideDir_again {disk reached : Disk} {path : Path} {error : Error}
    (h : disk.run (provideDir path) = (.error error, reached)) :
    ∃ again, reached.run (provideDir path) = (.error again, reached) := by
  rw [run_provideDir] at h
  split at h
  · cases h
  · cases hmade : disk.makeDirs path with
    | mk result stopped =>
      rw [hmade] at h
      cases result with
      | ok value => cases h
      | error cause =>
        cases h
        obtain ⟨again, hagain⟩ := makeFirst_again hmade
        have hkind := (not_directory_of_makeFirst hagain).2
        rw [run_provideDir, if_neg hkind, makeDirs, hagain]
        exact ⟨_, rfl⟩

end DmlOutline
