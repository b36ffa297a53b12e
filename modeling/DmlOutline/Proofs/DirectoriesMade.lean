import DmlOutline.Proofs.DiskFiles
import Mathlib.Data.List.Basic

/-!
# Directories that are made on the way

A directory is made with all that are missing on the way to it, and the way is that of its text:
what is above a path stands for a front part of its steps. So whatever the disk is like, and whether
the directory can be made or not, the only change is a number of directories on the way.

* `Disk.OnWay` — the places on the way to a path.
* `Disk.WidensTo` — a disk that has more directories on the way to a path, and nothing else.

Principal results: `Path.steps_parent?`: the steps of a parent; `Disk.makeFirst_widensTo`: what is
made.
-/

namespace DmlOutline

variable {path up other : Path} {name : String}

/-! ## What is above a path -/

namespace Path

/-- The steps that a text stands for. -/
def stepsOf (text : List Char) : List Step :=
  (Text.split '/' text).filterMap Step.ofComponent?

theorem stepsOf_append_slash (front back : List Char) :
    stepsOf (front ++ '/' :: back) = stepsOf front ++ stepsOf back := by
  rw [stepsOf, Text.split_append_cons, List.filterMap_append]
  rfl

/-- What is dropped at the end of a path stands for steps at the end. -/
theorem stepsOf_trimBack (back : List Char) :
    stepsOf (trimBack back).reverse <+: stepsOf back.reverse := by
  fun_induction trimBack back with
  | case1 => exact List.prefix_refl _
  | case2 rest hrest ih =>
    rw [List.reverse_cons, stepsOf_append_slash]
    exact ih.trans (List.prefix_append _ _)
  | case3 => exact ⟨[.stay], rfl⟩
  | case4 rest hrest ih =>
    rw [List.reverse_cons, List.reverse_cons, List.append_assoc, List.singleton_append,
      stepsOf_append_slash]
    exact ih.trans (List.prefix_append _ _)
  | case5 back => exact List.prefix_refl _

theorem getLast?_trimBack (back : List Char) : (trimBack back).getLast? = back.getLast? := by
  fun_induction trimBack back with
  | case1 => rfl
  | case2 rest hrest ih =>
    obtain ⟨c, more, rfl⟩ := List.exists_cons_of_ne_nil hrest
    rw [ih, List.getLast?_cons_cons]
  | case3 => rfl
  | case4 rest hrest ih =>
    obtain ⟨c, more, rfl⟩ := List.exists_cons_of_ne_nil hrest
    rw [ih, List.getLast?_cons_cons, List.getLast?_cons_cons]
  | case5 back => rfl

/-- A trimmed text is its last component, and before that nothing or what ends in a slash. -/
theorem trimBack_eq_lastBack_append (back : List Char) :
    ∃ rest, trimBack back = lastBack back ++ rest ∧
      (trimBack back).drop (lastBack back).length = rest ∧
      (rest = [] ∨ ∃ more, rest = '/' :: more) := by
  have hsplit : lastBack back ++ (trimBack back).dropWhile (· ≠ '/') = trimBack back :=
    List.takeWhile_append_dropWhile
  refine ⟨(trimBack back).dropWhile (· ≠ '/'), hsplit.symm, ?_, ?_⟩
  · conv_lhs => rw [← hsplit]
    exact List.drop_left
  · have hhead := List.head?_dropWhile_not (· ≠ '/') (trimBack back)
    cases hrest : (trimBack back).dropWhile (· ≠ '/') with
    | nil => exact .inl rfl
    | cons c more =>
      rw [hrest] at hhead
      obtain rfl : c = '/' := by simpa using hhead
      exact .inr ⟨more, rfl⟩

theorem slash_notMem_lastBack (back : List Char) : '/' ∉ lastBack back := by
  intro hmem
  have hne := List.mem_takeWhile_imp hmem
  simp at hne

/-- The text before the last component stands for the first steps, from the same start. -/
theorem stepsOf_drop_lastBack (back : List Char) :
    let front := trimBack ((trimBack back).drop (lastBack back).length)
    stepsOf front.reverse <+: stepsOf back.reverse ∧
      (front.getLast? == some '/') = (back.getLast? == some '/') := by
  obtain ⟨rest, htrim, hdrop, hrest⟩ := trimBack_eq_lastBack_append back
  have hsteps := stepsOf_trimBack back
  have hslash := slash_notMem_lastBack back
  simp only [hdrop, getLast?_trimBack]
  rw [← getLast?_trimBack back, htrim]
  rw [htrim] at hsteps
  rcases hrest with rfl | ⟨more, rfl⟩
  · refine ⟨List.nil_prefix, ?_⟩
    cases hend : (lastBack back).getLast? with
    | none => simp [hend]
    | some c =>
      have hc : c ≠ '/' := by
        rintro rfl
        exact hslash (List.mem_of_getLast? hend)
      simp [hend, hc]
  · rw [List.reverse_append, List.reverse_cons, List.append_assoc, List.singleton_append,
      stepsOf_append_slash] at hsteps
    have hfront := stepsOf_trimBack ('/' :: more)
    rw [List.reverse_cons, stepsOf_append_slash] at hfront
    have hnone : stepsOf [] = [] := rfl
    rw [hnone, List.append_nil] at hfront
    refine ⟨hfront.trans ((List.prefix_append _ _).trans hsteps), ?_⟩
    rw [List.getLast?_append_of_ne_nil _ (List.cons_ne_nil _ _)]

theorem trimBack_suffix (back : List Char) : trimBack back <:+ back := by
  fun_induction trimBack back with
  | case1 => exact List.suffix_refl _
  | case2 rest hrest ih => exact ih.trans (List.suffix_cons _ _)
  | case3 => exact List.suffix_cons _ _
  | case4 rest hrest ih =>
    exact ih.trans ((List.suffix_cons _ _).trans (List.suffix_cons _ _))
  | case5 back => exact List.suffix_refl _

/-- The text of a parent is how the text of the path begins. -/
theorem text_parent? (h : path.parent? = some up) : ∃ back, path.text = up.text ++ back := by
  simp only [parent?] at h
  split at h
  · cases h
  · obtain rfl := Option.some.inj h
    have hsuffix := (trimBack_suffix ((trimBack path.text.toList.reverse).drop
      (lastBack path.text.toList.reverse).length)).trans
        ((List.drop_suffix _ _).trans (trimBack_suffix _))
    obtain ⟨back, hback⟩ := List.reverse_prefix.mpr hsuffix
    rw [List.reverse_reverse] at hback
    refine ⟨String.ofList back, ?_⟩
    rw [← String.toList_inj, String.toList_append, String.toList_ofList, String.toList_ofList,
      hback]

/-- A component that is not empty stands for a step. -/
theorem length_stepsOf_of_notMem {back : List Char} (hslash : '/' ∉ back) (hne : back ≠ []) :
    (stepsOf back).length = 1 := by
  have hstep : ∃ step, Step.ofComponent? back = some step := by
    unfold Step.ofComponent?
    split
    · contradiction
    all_goals exact ⟨_, rfl⟩
  obtain ⟨step, hstep⟩ := hstep
  rw [stepsOf, Text.split_of_not_mem hslash, List.filterMap_cons, hstep]
  rfl

/-- **A parent has fewer steps than the path.** -/
theorem length_steps_parent? (h : path.parent? = some up) :
    up.steps.length < path.steps.length := by
  simp only [parent?] at h
  split at h
  · cases h
  · rename_i hlast
    obtain rfl := Option.some.inj h
    obtain ⟨rest, htrim, hdrop, hrest⟩ := trimBack_eq_lastBack_append path.text.toList.reverse
    have hsteps := (stepsOf_trimBack path.text.toList.reverse).length_le
    have hone : (stepsOf (lastBack path.text.toList.reverse).reverse).length = 1 := by
      refine length_stepsOf_of_notMem (fun hmem => ?_) (by simpa using hlast)
      exact slash_notMem_lastBack _ (List.mem_reverse.mp hmem)
    rw [List.reverse_reverse, htrim] at hsteps
    rw [steps, String.toList_ofList, hdrop]
    change (stepsOf _).length < (stepsOf _).length
    rcases hrest with rfl | ⟨more, rfl⟩
    · rw [List.append_nil, hone] at hsteps
      exact hsteps
    · have hfront := (stepsOf_trimBack ('/' :: more)).length_le
      rw [List.reverse_cons, stepsOf_append_slash] at hfront
      rw [List.reverse_append, List.reverse_cons, List.append_assoc, List.singleton_append,
        stepsOf_append_slash, List.length_append, hone] at hsteps
      have hnone : stepsOf [] = [] := rfl
      rw [hnone, List.append_nil] at hfront
      omega

/-- **The steps of a parent are the first ones of the path, from the same start.** -/
theorem steps_parent? (h : path.parent? = some up) :
    up.steps <+: path.steps ∧ up.isAbsolute = path.isAbsolute := by
  obtain ⟨hsteps, hstart⟩ := stepsOf_drop_lastBack path.text.toList.reverse
  rw [List.reverse_reverse] at hsteps
  rw [List.getLast?_reverse] at hstart
  simp only [parent?] at h
  split at h
  · cases h
  · obtain rfl := Option.some.inj h
    refine ⟨?_, ?_⟩
    · rw [steps, String.toList_ofList]
      exact hsteps
    · rw [isAbsolute, String.toList_ofList, List.head?_reverse]
      exact hstart

/-- What is above a path stands for its first steps, from the same start. -/
theorem steps_of_mem_ancestors (h : other ∈ path.ancestors) :
    other.steps <+: path.steps ∧ other.isAbsolute = path.isAbsolute := by
  induction path using ancestors.induct with
  | case1 path hnone =>
    rw [ancestors_of_parent?_eq_none hnone, List.mem_singleton] at h
    rw [h]
    exact ⟨List.prefix_refl _, rfl⟩
  | case2 path up hup ih =>
    rw [ancestors_of_parent? hup] at h
    rcases List.mem_cons.mp h with rfl | h
    · exact ⟨List.prefix_refl _, rfl⟩
    · obtain ⟨hsteps, hstart⟩ := ih h
      obtain ⟨hfront, hsame⟩ := steps_parent? hup
      exact ⟨hsteps.trans hfront, hstart.trans hsame⟩

end Path

/-! ## Directories on the way -/

namespace Disk

variable {disk next last : Disk} {place : Location}

/-- A place on the way to a path. -/
def OnWay (disk : Disk) (path : Path) (place : Location) : Prop :=
  ∃ front, front <+: path.steps ∧ place = follow (disk.start path) front

theorem onWay_goal (disk : Disk) (path : Path) : disk.OnWay path (disk.goal path) :=
  ⟨path.steps, List.prefix_refl _, rfl⟩

theorem OnWay.of_ancestor (h : disk.OnWay other place) (hother : other ∈ path.ancestors) :
    disk.OnWay path place := by
  obtain ⟨front, hfront, rfl⟩ := h
  obtain ⟨hsteps, habsolute⟩ := Path.steps_of_mem_ancestors hother
  refine ⟨front, hfront.trans hsteps, ?_⟩
  rw [start, start, habsolute]

/-- A disk that has more directories on the way to a path, and nothing else. -/
structure WidensTo (path : Path) (disk next : Disk) : Prop extends Widens disk next where
  onWay : ∀ place, next.root.DirAt place → disk.root.DirAt place ∨ disk.OnWay path place

namespace WidensTo

theorem refl (path : Path) (disk : Disk) : WidensTo path disk disk :=
  ⟨.refl disk, fun _ => .inl⟩

theorem trans (h : WidensTo path disk next) (hnext : WidensTo path next last) :
    WidensTo path disk last := by
  refine ⟨h.toWidens.trans hnext.toWidens, ?_⟩
  intro place hdir
  rcases hnext.onWay place hdir with hdir | ⟨front, hfront, hplace⟩
  · exact h.onWay place hdir
  · rw [h.start_eq] at hplace
    exact .inr ⟨front, hfront, hplace⟩

theorem of_makeDir (h : disk.makeDir other = .ok next) (hother : other ∈ path.ancestors) :
    WidensTo path disk next := by
  refine ⟨makeDir_widens h, ?_⟩
  intro place hdir
  obtain ⟨⟨rfl, ⟨parent, name, hgoal, hparent⟩, -, -, -⟩, -⟩ := makeDir_eq_ok h
  rw [hgoal] at hdir
  rcases FileTree.dirAt_of_put_directory hparent hdir with hdir | rfl
  · exact .inl hdir
  · rw [← hgoal]
    exact .inr ((onWay_goal disk other).of_ancestor hother)

end WidensTo

/-- **Making directories around a path, whether it succeeds or not, makes nothing but directories on
the way to it.** -/
theorem makeFirst_widensTo (disk : Disk) {paths : List Path} (h : paths ⊆ path.ancestors) :
    WidensTo path disk (disk.makeFirst paths).2 :=
  makeFirst_rel (R := WidensTo path) (.refl path) .trans
    (fun _ hother _ _ hmade => .of_makeDir hmade (h hother)) disk

end Disk

end DmlOutline
