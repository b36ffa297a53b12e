import DmlOutline.FileName
import DmlOutline.Path
import Mathlib.Data.List.TakeWhile

/-!
# Names below paths

A name is put below a path by text alone. What is read off such a path — its steps, its last
component, its parent — is what the name and the path stand for.

* `Path.IsName` — the texts that name an entry of a directory.
* `Path.IsRelative` — the texts that go on from a path.

Principal results: `Path.steps_join`, `Path.fileName?_join`, `Path.parent?_join`.
-/

namespace DmlOutline

namespace Path

/-! ## Names -/

/-- A text that names an entry of a directory. -/
structure IsName (name : String) : Prop where
  ne_empty : name ≠ ""
  ne_dot : name ≠ "."
  ne_dots : name ≠ ".."
  no_slash : '/' ∉ name.toList

instance (name : String) : Decidable (IsName name) :=
  decidable_of_iff (name ≠ "" ∧ name ≠ "." ∧ name ≠ ".." ∧ '/' ∉ name.toList)
    ⟨fun ⟨hempty, hdot, hdots, hslash⟩ => ⟨hempty, hdot, hdots, hslash⟩,
      fun ⟨hempty, hdot, hdots, hslash⟩ => ⟨hempty, hdot, hdots, hslash⟩⟩

theorem isName_of_isSegment {name : String} (h : isSegment name = true) : IsName name := by
  simp only [isSegment, Bool.and_eq_true, decide_eq_true_eq, List.all_eq_true] at h
  obtain ⟨⟨⟨hempty, hdot⟩, hdots⟩, hall⟩ := h
  refine ⟨hempty, hdot, hdots, ?_⟩
  intro hmem
  have := hall '/' hmem
  simp at this

variable {path : Path} {name : String}

theorem IsName.toList_ne_nil (h : IsName name) : name.toList ≠ [] :=
  fun hnil => h.ne_empty (String.toList_eq_nil_iff.mp hnil)

theorem IsName.ofComponent? (h : IsName name) :
    Step.ofComponent? name.toList = some (.down name) := by
  unfold Step.ofComponent?
  split
  · rename_i hnil; exact absurd hnil h.toList_ne_nil
  · rename_i hdot; exact absurd (String.toList_inj.mp hdot) h.ne_dot
  · rename_i hdots; exact absurd (String.toList_inj.mp hdots) h.ne_dots
  · rw [String.ofList_toList]

/-! ## The text below a path -/

/-- A text that does not begin with a slash goes on from the path it is put below. -/
def IsRelative (name : String) : Prop :=
  name.toList.head? ≠ some '/'

theorem IsName.isRelative (h : IsName name) : IsRelative name :=
  fun hslash => h.no_slash (List.mem_of_head? hslash)

/-- What is put below a path has a slash before it, unless the path is empty. -/
theorem toList_join (path : Path) (h : IsRelative name) :
    (path.text = "" ∧ (path / name).text = name) ∨
      ∃ stem, (path / name).text.toList = stem ++ '/' :: name.toList ∧
        (path.text.toList = stem ∨ path.text.toList = stem ++ ['/']) ∧ path.text.toList ≠ [] := by
  have hhead : ¬(name.toList.head? == some '/') = true := by
    rw [beq_iff_eq]
    exact h
  change (path.text = "" ∧ (path.join name).text = name) ∨ ∃ stem,
    (path.join name).text.toList = stem ++ '/' :: name.toList ∧ _
  by_cases hempty : path.text = ""
  · refine .inl ⟨hempty, ?_⟩
    simp [join, hhead, hempty]
  · have hnil : path.text.toList ≠ [] := fun hnil => hempty (String.toList_eq_nil_iff.mp hnil)
    by_cases hslash : path.endsInSlash = true
    · obtain ⟨stem, hstem⟩ := List.getLast?_eq_some_iff.mp (by simpa [endsInSlash] using hslash)
      refine .inr ⟨stem, ?_, .inr hstem, hnil⟩
      simp [join, hhead, hslash, hstem]
    · refine .inr ⟨path.text.toList, ?_, .inl rfl, hnil⟩
      simp [join, hhead, hslash, hempty]

theorem mem_of_mem_join {path : Path} {c : Char} (h : IsRelative name)
    (hmem : c ∈ (path / name).text.toList) :
    c ∈ path.text.toList ∨ c = '/' ∨ c ∈ name.toList := by
  rcases toList_join path h with ⟨-, hjoin⟩ | ⟨stem, hjoin, hpath, -⟩
  · rw [hjoin] at hmem
    exact .inr (.inr hmem)
  · rw [hjoin, List.mem_append, List.mem_cons] at hmem
    refine hmem.imp_left fun hstem => ?_
    rcases hpath with hpath | hpath
    · rwa [hpath]
    · rw [hpath]
      exact List.mem_append_left _ hstem

/-- **What is put below a path is walked after it.** -/
theorem steps_join_relative (path : Path) (h : IsRelative name) :
    (path / name).steps = path.steps ++ steps ⟨name⟩ := by
  rcases toList_join path h with ⟨hempty, hjoin⟩ | ⟨stem, hjoin, hpath, -⟩
  · rw [steps, hjoin, steps, hempty]
    rfl
  · rw [steps, hjoin, Text.split_append_cons, List.filterMap_append]
    rcases hpath with hpath | hpath
    · rw [steps, hpath, steps]
    · rw [steps, hpath, Text.split_append_cons, List.filterMap_append, steps]
      simp [Text.split, Step.ofComponent?]

theorem steps_name (h : IsName name) : steps ⟨name⟩ = [.down name] := by
  rw [steps, Text.split_of_not_mem h.no_slash]
  simp [h.ofComponent?]

/-- **A name below a path is one step more.** -/
theorem steps_join (path : Path) (h : IsName name) :
    (path / name).steps = path.steps ++ [.down name] := by
  rw [steps_join_relative path h.isRelative, steps_name h]

theorem isAbsolute_join (path : Path) (h : IsRelative name) :
    (path / name).isAbsolute = path.isAbsolute := by
  rcases toList_join path h with ⟨hempty, hjoin⟩ | ⟨stem, hjoin, hpath, hnil⟩
  · rw [isAbsolute, hjoin, isAbsolute, hempty]
    simpa [IsRelative] using h
  · rw [isAbsolute, hjoin, isAbsolute]
    rcases hpath with hpath | hpath
    · cases stem with
      | nil => exact absurd hpath hnil
      | cons c rest => rw [hpath]; rfl
    · rw [hpath]
      cases stem <;> rfl

/-- What is put below a path is the end of it. -/
theorem endsInSlash_join_relative (path : Path) (h : IsRelative name) (hne : name ≠ "") :
    (path / name).endsInSlash = endsInSlash ⟨name⟩ := by
  have hnil : name.toList ≠ [] := fun hnil => hne (String.toList_eq_nil_iff.mp hnil)
  obtain ⟨last, hlast⟩ := Option.isSome_iff_exists.mp (List.getLast?_isSome.mpr hnil)
  rcases toList_join path h with ⟨-, hjoin⟩ | ⟨stem, hjoin, -, -⟩
  · rw [endsInSlash, hjoin, endsInSlash]
  · rw [endsInSlash, hjoin, endsInSlash, ← List.singleton_append, ← List.append_assoc,
      List.getLast?_append, hlast, Option.some_or]

theorem endsInSlash_join (path : Path) (h : IsName name) : (path / name).endsInSlash = false := by
  rw [endsInSlash_join_relative path h.isRelative h.ne_empty, endsInSlash, beq_eq_false_iff_ne]
  exact fun hslash => h.no_slash (List.mem_of_getLast? hslash)

theorem text_join_ne_empty (path : Path) (h : IsName name) : (path / name).text ≠ "" := by
  rcases toList_join path h.isRelative with ⟨-, hjoin⟩ | ⟨stem, hjoin, -, -⟩
  · rw [hjoin]
    exact h.ne_empty
  · intro hempty
    rw [hempty] at hjoin
    simp at hjoin

/-! ## The last component -/

/-- Nothing is dropped behind a name. -/
theorem trimBack_name (h : IsName name) (front : List Char) :
    trimBack (name.toList.reverse ++ front) = name.toList.reverse ++ front := by
  have hslash : '/' ∉ name.toList.reverse := fun hmem => h.no_slash (List.mem_reverse.mp hmem)
  have hdot : name.toList.reverse ≠ ['.'] := fun hdot => by
    have hname : name.toList = ['.'] := by simpa using congrArg List.reverse hdot
    exact h.ne_dot (String.toList_inj.mp hname)
  cases hback : name.toList.reverse with
  | nil => exact absurd (List.reverse_eq_nil_iff.mp hback) h.toList_ne_nil
  | cons c more =>
    rw [hback] at hslash hdot
    have hc : c ≠ '/' := fun hc => hslash (by rw [hc]; exact List.mem_cons_self)
    have hnext : c = '.' → (more ++ front).head? ≠ some '/' := by
      rintro rfl
      cases more with
      | nil => exact absurd rfl hdot
      | cons d rest =>
        intro hd
        simp at hd
        exact hslash (by simp [hd])
    unfold trimBack
    split
    · rename_i heq; simp at heq; exact absurd heq.1 hc
    · rename_i heq; simp at heq; exact absurd heq.1 hc
    · rename_i heq; simp at heq; exact absurd (by simp [heq.2]) (hnext heq.1)
    · rename_i heq; simp at heq; exact absurd (by simp [heq.2]) (hnext heq.1)
    · rfl

/-- The reversed text of a name below a path. -/
theorem reverse_join (path : Path) (h : IsName name) :
    (path.text = "" ∧ (path / name).text.toList.reverse = name.toList.reverse) ∨
      ∃ front, (path / name).text.toList.reverse = name.toList.reverse ++ '/' :: front ∧
        (path.text.toList.reverse = front ∨ path.text.toList.reverse = '/' :: front) ∧
        path.text.toList ≠ [] := by
  rcases toList_join path h.isRelative with ⟨hempty, hjoin⟩ | ⟨stem, hjoin, hpath, hnil⟩
  · exact .inl ⟨hempty, by rw [hjoin]⟩
  · refine .inr ⟨stem.reverse, by rw [hjoin]; simp, ?_, hnil⟩
    rcases hpath with hpath | hpath
    · exact .inl (by rw [hpath])
    · exact .inr (by rw [hpath]; simp)

theorem lastBack_join (path : Path) (h : IsName name) :
    lastBack (path / name).text.toList.reverse = name.toList.reverse := by
  have hslash : ∀ c ∈ name.toList.reverse, (decide (c ≠ '/')) = true := by
    intro c hc
    simp only [decide_eq_true_eq]
    rintro rfl
    exact h.no_slash (List.mem_reverse.mp hc)
  have hname := trimBack_name h
  rcases reverse_join path h with ⟨-, hback⟩ | ⟨front, hback, -, -⟩
  · rw [lastBack, hback]
    have htrim := hname []
    rw [List.append_nil] at htrim
    rw [htrim, List.takeWhile_eq_self_iff.mpr hslash]
  · rw [lastBack, hback, hname, List.takeWhile_append_of_pos hslash, List.takeWhile_cons_of_neg,
      List.append_nil]
    simp

/-- **The last component of a name below a path is the name.** -/
theorem fileName?_join (path : Path) (h : IsName name) : (path / name).fileName? = some name := by
  have hlast : (lastBack (path / name).text.toList.reverse).reverse = name.toList := by
    rw [lastBack_join path h, List.reverse_reverse]
  have hdot : name.toList ≠ ['.'] := fun hdot => h.ne_dot (String.toList_inj.mp hdot)
  have hdots : name.toList ≠ ['.', '.'] := fun hdots => h.ne_dots (String.toList_inj.mp hdots)
  rw [fileName?, hlast, if_neg (by simp [h.toList_ne_nil, hdot, hdots]), String.ofList_toList]

/-- **A name below a path that ends in a name has that path as its parent.** -/
theorem parent?_join (path : Path) {folder : String} (hf : IsName folder) (h : IsName name) :
    (path / folder / name).parent? = some (path / folder) := by
  have hback := lastBack_join (path / folder) h
  have hne : name.toList.reverse ≠ [] := fun hnil =>
    h.toList_ne_nil (List.reverse_eq_nil_iff.mp hnil)
  rcases reverse_join (path / folder) h with ⟨hempty, -⟩ | ⟨front, hjoin, hpath, -⟩
  · exact absurd hempty (text_join_ne_empty path hf)
  · -- the path ends in a name, not in a slash
    have hfront : (path / folder).text.toList.reverse = front := by
      rcases hpath with hpath | hpath
      · exact hpath
      · have hend := endsInSlash_join path hf
        rw [endsInSlash, List.getLast?_eq_head?_reverse, hpath] at hend
        simp at hend
    have htrim : trimBack ('/' :: front) = front := by
      obtain ⟨stem, hstem⟩ : ∃ stem, front = folder.toList.reverse ++ stem := by
        rcases reverse_join path hf with ⟨-, hback⟩ | ⟨stem, hback, -, -⟩
        · exact ⟨[], by rw [← hfront, hback, List.append_nil]⟩
        · exact ⟨'/' :: stem, by rw [← hfront, hback]⟩
      have hne : front ≠ [] := by
        rw [hstem]
        simp [hf.toList_ne_nil]
      cases front with
      | nil => exact absurd rfl hne
      | cons c rest =>
        rw [trimBack, hstem, trimBack_name hf]
        · exact fun hnil => by cases hnil
    rw [parent?, hback, if_neg hne, hjoin, trimBack_name h, List.drop_left, htrim, ← hfront,
      List.reverse_reverse, String.ofList_toList]

/-! ## What is above a path -/

theorem ancestors_of_parent?_eq_none {path : Path} (h : path.parent? = none) :
    path.ancestors = [path] := by
  rw [ancestors.eq_def]
  split
  · rfl
  · rename_i up hup
    rw [h] at hup
    cases hup

theorem ancestors_of_parent? {path up : Path} (h : path.parent? = some up) :
    path.ancestors = path :: up.ancestors := by
  rw [ancestors.eq_def]
  split
  · rename_i hnone
    rw [h] at hnone
    cases hnone
  · rename_i other hother
    rw [h] at hother
    cases hother
    rfl

end Path

theorem Segment.isName (segment : Segment) : Path.IsName segment.text :=
  Path.isName_of_isSegment segment.2

end DmlOutline
