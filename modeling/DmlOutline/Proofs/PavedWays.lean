import DmlOutline.Proofs.WaysBelow

/-!
# Directories that are made on a way

When a directory is to be made, all that are missing on the way to it are made first. From a
directory that is there, and where no file is in the way, that fails only for a name that is too
long, and what was made before stays. So what is there afterwards is known beforehand.

* `Disk.WidensAlong` — a disk with more directories on a way, and nothing else.
* `Disk.Paved` — a disk with all directories on a way, as far as the names fit; `Disk.Paves` is the
  outcome of making them.

Principal results: `Disk.makeDirs_along`, `Disk.makeDirs_below`; `Store.run_provideDir_below`.
-/

namespace DmlOutline

open Disk

namespace Disk

variable {disk next : Disk} {base dir : Path} {names : List String} {name : String}

/-! ## Refusals -/

theorem text_of_refuseText {path : Path} {cause : IoError} (htext : path.text ≠ "")
    (h : refuseText path = .error cause) : cause ≠ .notFound := by
  unfold refuseText at h
  rw [if_neg htext] at h
  split at h
  · cases h
    exact IoError.noConfusion
  · split at h
    · cases h
      exact IoError.noConfusion
    · cases h

/-- A path that is not refused does not begin with one that is. -/
theorem refuseText_of_append {path : Path} {back : String} (htext : path.text = dir.text ++ back)
    (hdir : dir.text ≠ "") (h : refuseText path = .ok ()) : refuseText dir = .ok () := by
  unfold refuseText at h ⊢
  rw [htext] at h
  split at h
  · cases h
  · rename_i hnul
    split at h
    · cases h
    · split at h
      · cases h
      · rename_i hlong
        have hnul' : '\x00' ∉ dir.text.toList := fun hmem =>
          hnul (by rw [String.toList_append]; exact List.mem_append_left _ hmem)
        rw [String.utf8ByteSize_append] at hlong
        rw [if_neg hnul', if_neg hdir, if_neg (by omega)]

/-- A path that is not refused has a parent that is not. -/
theorem refuseText_of_join (hname : Path.IsName name) (hdir : dir.text ≠ "")
    (h : refuseText (dir / name) = .ok ()) : refuseText dir = .ok () := by
  have htext : ∃ back, (dir / name).text = dir.text ++ back := by
    change ∃ back, (dir.join name).text = dir.text ++ back
    unfold Path.join
    have hhead : ¬(name.toList.head? == some '/') = true := by
      rw [beq_iff_eq]
      exact hname.isRelative
    rw [if_neg hhead]
    split
    · exact ⟨name, rfl⟩
    · exact ⟨"/" ++ name, String.append_assoc⟩
  obtain ⟨back, htext⟩ := htext
  exact refuseText_of_append htext hdir h

/-- What is found in a directory is found where that directory is. -/
theorem kind?_of_join (hname : Path.IsName name) (hdir : dir.text ≠ "")
    (h : disk.kind? (dir / name) ≠ none) : disk.kind? dir = some .directory := by
  have hlocate : ∃ place, disk.locate (dir / name) = .ok place := by
    unfold kind? find at h
    cases hlocate : disk.locate (dir / name) with
    | error cause => simp [hlocate] at h
    | ok place => exact ⟨place, rfl⟩
  obtain ⟨place, hlocate⟩ := hlocate
  obtain ⟨hway, hthere⟩ := way_of_locate_join hname hlocate
  refine kind?_of_walk (refuseText_of_join hname hdir ?_) hway hthere
  unfold locate at hlocate
  split at hlocate
  · cases hlocate
  · assumption

theorem ne_notFound_of_permit {cause : IoError} (hname : Path.IsName name)
    (h : permit (dir / name) name = .error cause) : cause ≠ .notFound := by
  unfold permit at h
  cases hrefuse : refuseText (dir / name) with
  | error refused =>
    rw [hrefuse] at h
    cases h
    exact text_of_refuseText (Path.text_join_ne_empty dir hname) hrefuse
  | ok value =>
    rw [hrefuse, Except.bind] at h
    split at h
    · cases h
    · cases h
      exact IoError.noConfusion

theorem find_of_kind?_directory (h : disk.kind? dir = some .directory) :
    ∃ entries, disk.find dir = .ok (.directory entries) := by
  obtain ⟨hlocate, entries, hentries⟩ := kind?_eq_directory_iff.mp h
  exact ⟨entries, find_eq_ok_iff.mpr ⟨hlocate, hentries⟩⟩

/-- Where names lead to a directory. -/
theorem kind?_below_iff (hbase : disk.kind? base = some .directory)
    (hnames : ∀ part ∈ names, Path.IsName part) (hne : names ≠ []) :
    disk.kind? (base.below names) = some .directory ↔
      refuseText (base.below names) = .ok () ∧ Fits names ∧
        disk.root.DirAt (disk.goal base ++ names) := by
  obtain ⟨entries, hentries⟩ := find_of_kind?_directory hbase
  have hfind : disk.kind? (base.below names) = some .directory ↔
      ∃ inner, disk.find (base.below names) = .ok (.directory inner) := by
    unfold kind?
    cases disk.find (base.below names) with
    | error cause => simp
    | ok found => cases found <;> simp
  rw [hfind]
  simp only [find_below_eq_ok_iff hentries hnames hne, exists_and_left]
  rfl

/-- In a directory nothing is missing. -/
theorem makeDir_ne_notFound (hdir : disk.kind? dir = some .directory) (hname : Path.IsName name) :
    disk.makeDir (dir / name) ≠ .error .notFound := by
  rw [makeDir_join hdir hname]
  cases hpermit : permit (dir / name) name with
  | error cause =>
    rintro ⟨⟩
    exact ne_notFound_of_permit hname hpermit rfl
  | ok value =>
    rw [Except.bind]
    cases disk.root.get? (disk.goal dir ++ [name]) with
    | none => exact fun h => nomatch h
    | some found => exact fun h => nomatch h

theorem text_below_ne_empty (base : Path) (hnames : ∀ part ∈ names, Path.IsName part)
    (hne : names ≠ []) : (base.below names).text ≠ "" := by
  obtain ⟨front, last, rfl⟩ := List.eq_nil_or_concat names |>.resolve_left hne
  rw [List.concat_eq_append] at hnames ⊢
  rw [List.forall_mem_append, List.forall_mem_singleton] at hnames
  rw [Path.below_concat]
  exact Path.text_join_ne_empty _ hnames.2

/-- The path of a name below other names comes before theirs. -/
theorem ancestors_below (base : Path) (hne : names ≠ []) (hnames : ∀ part ∈ names, Path.IsName part)
    (hname : Path.IsName name) :
    (base.below names / name).ancestors =
      base.below names / name :: (base.below names).ancestors := by
  obtain ⟨front, last, rfl⟩ := List.eq_nil_or_concat names |>.resolve_left hne
  rw [List.concat_eq_append] at hnames ⊢
  rw [List.forall_mem_append, List.forall_mem_singleton] at hnames
  have hparent := Path.parent?_join (base.below front) hnames.2 hname
  rw [Path.below_concat, Path.ancestors_of_parent? hparent]

/-! ## What is made on a way -/

/-- A disk with more directories on the way that names lead from a base, and nothing else. -/
structure WidensAlong (base : Path) (names : List String) (disk next : Disk) : Prop
    extends Widens disk next where
  /-- Nothing is made but on the way. -/
  apart : ∀ place, ¬place <+: disk.goal base ++ names → next.root.get? place = disk.root.get? place
  /-- Nothing is made under a name that is too long. -/
  fits : ∀ front, front <+: names → next.root.DirAt (disk.goal base ++ front) →
    disk.root.DirAt (disk.goal base ++ front) ∨ Fits front

namespace WidensAlong

variable {last : Disk} {front : List String}

theorem refl (base : Path) (names : List String) (disk : Disk) : WidensAlong base names disk disk :=
  ⟨.refl disk, fun _ _ => rfl, fun _ _ => .inl⟩

theorem trans (h : WidensAlong base names disk next) (hnext : WidensAlong base names next last) :
    WidensAlong base names disk last := by
  refine ⟨h.toWidens.trans hnext.toWidens, fun place hplace => ?_, fun start hstart hdir => ?_⟩
  · have hplace' := hplace
    rw [← h.goal] at hplace'
    rw [hnext.apart place hplace', h.apart place hplace]
  · rw [← h.goal] at hdir
    rcases hnext.fits start hstart hdir with hdir | hfits
    · rw [h.goal] at hdir
      exact h.fits start hstart hdir
    · exact .inr hfits

/-- What is made on a way is made on any longer way. -/
theorem lengthen (h : WidensAlong base front disk next) (hfront : front <+: names) :
    WidensAlong base names disk next := by
  have hway : disk.goal base ++ front <+: disk.goal base ++ names :=
    (List.prefix_append_right_inj _).mpr hfront
  refine ⟨h.toWidens, fun place hoff => h.apart place fun hon => hoff (hon.trans hway),
    fun start hstart hdir => ?_⟩
  by_cases hinside : start <+: front
  · exact h.fits start hinside hdir
  · have hoff : ¬disk.goal base ++ start <+: disk.goal base ++ front := by
      rwa [List.prefix_append_right_inj]
    rw [FileTree.DirAt, h.apart _ hoff] at hdir
    exact .inl hdir

/-- **Making one directory makes nothing but that.** -/
theorem of_makeDir (hbase : disk.kind? base = some .directory)
    (hnames : ∀ part ∈ names, Path.IsName part) (hne : names ≠ [])
    (h : disk.makeDir (base.below names) = .ok next) : WidensAlong base names disk next := by
  have hwidens := makeDir_widens h
  obtain ⟨hputs, hnone⟩ := makeDir_eq_ok h
  have hgoal := goal_below disk base hnames
  have hkind := kind?_of_makeDir h
  have hfits := ((kind?_below_iff (hwidens.kind?_directory hbase) hnames hne).mp hkind).2.1
  refine ⟨hwidens, fun place hoff => ?_, fun front hfront _ => .inr (hfits.above hfront)⟩
  rw [← hgoal] at hoff
  by_cases hbelow : disk.goal (base.below names) <+: place
  · obtain ⟨rest, rfl⟩ := hbelow
    have hrest : rest ≠ [] := by
      rintro rfl
      rw [List.append_nil] at hoff
      exact hoff (List.prefix_refl _)
    obtain ⟨first, more, rfl⟩ := List.exists_cons_of_ne_nil hrest
    rw [FileTree.get?_append, hputs.get?_self, FileTree.get?_append, hnone]
    rfl
  · exact hputs.get?_apart hbelow hoff

end WidensAlong

/-- **Making a directory below one that is there, whether it succeeds or not, makes nothing but
directories on the way.** -/
theorem makeDirs_along (hbase : disk.kind? base = some .directory)
    (hnames : ∀ part ∈ names, Path.IsName part) (hne : names ≠ []) :
    WidensAlong base names disk (disk.makeDirs (base.below names)).2 := by
  induction names using List.reverseRecOn with
  | nil => exact absurd rfl hne
  | append_singleton front name ih =>
    have hlast := hnames
    rw [List.forall_mem_append, List.forall_mem_singleton] at hlast
    obtain ⟨hfrontNames, hname⟩ := hlast
    have htext := Path.text_join_ne_empty (base.below front) hname
    have hmade : ∀ {disk made : Disk}, disk.kind? base = some .directory →
        disk.makeDir (base.below front / name) = .ok made →
          WidensAlong base (front ++ [name]) disk made := by
      intro disk made hbase hmake
      exact .of_makeDir hbase hnames hne (by rw [Path.below_concat, hmake])
    obtain ⟨outer, houter⟩ := exists_ancestors (base.below front / name)
    rw [Path.below_concat, makeDirs, houter]
    cases hmake : disk.makeDir (base.below front / name) with
    | ok made =>
      rw [makeFirst_of_made htext hmake]
      exact hmade hbase hmake
    | error cause =>
      by_cases hmissing : cause = .notFound
      · subst hmissing
        have hempty : front ≠ [] := by
          rintro rfl
          exact makeDir_ne_notFound hbase hname hmake
        rw [ancestors_below base hempty hfrontNames hname, List.cons.injEq] at houter
        obtain ⟨-, rfl⟩ := houter
        have habove : WidensAlong base (front ++ [name]) disk
            (disk.makeDirs (base.below front)).2 :=
          (ih hfrontNames hempty).lengthen (List.prefix_append _ _)
        rw [makeDirs] at habove
        rw [makeFirst, if_neg htext, hmake]
        cases hreached : disk.makeFirst (base.below front).ancestors with
        | mk result reached =>
          rw [hreached] at habove
          cases result with
          | error cause => exact habove
          | ok value =>
            simp only
            cases hagain : reached.makeDir (base.below front / name) with
            | ok made => exact habove.trans (hmade (habove.kind?_directory hbase) hagain)
            | error cause =>
              simp only
              split <;> exact habove
      · rw [makeFirst_of_refused htext hmissing hmake]
        split <;> exact .refl base _ disk

/-! ## Ways that are paved -/

/-- A disk with the directories on the way that names lead from a base, as far as the names fit. -/
structure Paved (base : Path) (names : List String) (disk next : Disk) : Prop
    extends WidensAlong base names disk next where
  paved : ∀ front, front <+: names → Fits front → next.root.DirAt (disk.goal base ++ front)

theorem Paved.dirAt_iff (h : Paved base names disk next) {front : List String}
    (hfront : front <+: names) : next.root.DirAt (disk.goal base ++ front) ↔
      disk.root.DirAt (disk.goal base ++ front) ∨ Fits front := by
  constructor
  · exact h.fits front hfront
  · rintro (hthere | hfits)
    · exact h.toWidens.toGrows.dirAt _ hthere
    · exact h.paved front hfront hfits

theorem Paved.trans {last : Disk} {front : List String} (hfront : front <+: names)
    (h : Paved base front disk next) (hnext : Paved base names next last) :
    Paved base names disk last := by
  refine ⟨(h.toWidensAlong.lengthen hfront).trans hnext.toWidensAlong, fun start hstart hfits => ?_⟩
  rw [← h.goal]
  exact hnext.paved start hstart hfits

/-- Where all directories are there as far as the names fit, the way is paved already. -/
theorem paved_refl (h : ∀ start, start <+: names → Fits start →
    disk.root.DirAt (disk.goal base ++ start)) : Paved base names disk disk :=
  ⟨.refl base names disk, h⟩

/-- What is paved as far as it fits is paved on any longer way. -/
theorem Paved.lengthen {front : List String} (h : Paved base front disk next)
    (hlong : ¬Fits (front ++ [name])) : Paved base (front ++ [name]) disk next := by
  refine ⟨h.toWidensAlong.lengthen (List.prefix_append _ _), fun start hstart hfits => ?_⟩
  rcases List.prefix_concat_iff.mp hstart with rfl | hstart
  · exact absurd hfits hlong
  · exact h.paved start hstart hfits

/-- What making a way comes to: all directories as far as the names fit, and a failure if one does
not. -/
structure Paves (base : Path) (names : List String) (disk : Disk)
    (outcome : Except IoError Unit × Disk) : Prop where
  result_eq : outcome.1 = if Fits names then .ok () else .error .nameTooLong
  paved : Paved base names disk outcome.2

/-- A way that does not fit is made no further than the one before it. -/
theorem Paved.paves_of_not_fits {front : List String} (h : Paved base front disk next)
    (hlong : ¬Fits (front ++ [name])) :
    Paves base (front ++ [name]) disk (.error .nameTooLong, next) :=
  ⟨by rw [if_neg hlong], h.lengthen hlong⟩

/-- **In a directory on the way, the next one is made.** -/
theorem paves_of_directory {front : List String} (hfrontNames : ∀ part ∈ front, Path.IsName part)
    (hname : Path.IsName name) (hbase : disk.kind? base = some .directory)
    (hdir : disk.kind? (base.below front) = some .directory)
    (hfront : Fits front) (hfile : disk.fileAt (disk.goal base ++ (front ++ [name])) = none)
    (htext : refuseText (base.below front / name) = .ok ()) (outer : List Path) :
    Paves base (front ++ [name]) disk (disk.makeFirst (base.below front / name :: outer)) := by
  have hnames : ∀ part ∈ front ++ [name], Path.IsName part := by
    rw [List.forall_mem_append, List.forall_mem_singleton]
    exact ⟨hfrontNames, hname⟩
  have hgoal := goal_below disk base hfrontNames
  have habove := (kind?_eq_directory_iff.mp hdir).2
  have hempty := Path.text_join_ne_empty (base.below front) hname
  have hkind := kind?_below_iff hbase hnames (by simp)
  have hmake := makeDir_join hdir hname
  rw [hgoal] at habove
  rw [Path.below_concat, htext] at hkind
  rw [hgoal, List.append_assoc, permit, htext, Except.bind] at hmake
  by_cases hfits : Fits [name]
  · have hall := fits_concat.mpr ⟨hfront, hfits⟩
    rw [if_pos hfits, Except.bind] at hmake
    cases hget : disk.root.get? (disk.goal base ++ (front ++ [name])) with
    | none =>
      rw [hget] at hmake
      have halong := WidensAlong.of_makeDir hbase hnames (by simp)
        (by rw [Path.below_concat, hmake])
      have hthere := (makeDir_eq_ok hmake).1.get?_self
      rw [goal_join disk _ hname, hgoal, List.append_assoc] at hthere
      rw [makeFirst_of_made hempty hmake]
      refine ⟨by rw [if_pos hall], halong, fun start hstart _ => ?_⟩
      exact FileTree.DirAt.above ⟨[], hthere⟩ ((List.prefix_append_right_inj _).mpr hstart)
    | some found =>
      cases found with
      | file content =>
        rw [fileAt, FileTree.fileAt_eq_some_iff.mpr hget] at hfile
        cases hfile
      | directory entries =>
        have hthere : disk.root.DirAt (disk.goal base ++ (front ++ [name])) := ⟨entries, hget⟩
        rw [hget] at hmake
        rw [makeFirst_of_refused hempty IoError.noConfusion hmake,
          if_pos (hkind.mpr ⟨rfl, hall, hthere⟩)]
        refine ⟨by rw [if_pos hall], paved_refl fun start hstart _ => ?_⟩
        exact hthere.above ((List.prefix_append_right_inj _).mpr hstart)
  · have hall : ¬Fits (front ++ [name]) := fun h => hfits (fits_concat.mp h).2
    rw [if_neg hfits, Except.bind] at hmake
    rw [makeFirst_of_refused hempty IoError.noConfusion hmake,
      if_neg (fun h => hall (hkind.mp h).2.1)]
    have hkept : Paved base front disk disk := paved_refl fun start hstart _ =>
      habove.above ((List.prefix_append_right_inj _).mpr hstart)
    exact hkept.paves_of_not_fits hall

/-- Where the directory of a path is missing, nothing is made, for the reason why it is missing. -/
theorem makeDir_of_missing {cause : IoError} (hname : Path.IsName name)
    (hslash : dir.endsInSlash = false) (hdir : refuseText dir = .ok ())
    (htext : refuseText (dir / name) = .ok ()) (h : disk.find dir = .error cause) :
    disk.makeDir (dir / name) = .error cause := by
  have hlast : (dir / name).steps.getLast? = some (.down name) := by
    rw [Path.steps_join dir hname, List.getLast?_concat]
  have htarget : disk.target (dir / name) = .error cause := by
    unfold find locate allSteps at h
    simp only [hdir, hslash, Bool.false_eq_true, if_false] at h
    unfold target
    simp only [htext, hlast, start_join disk dir hname, walk_join _ _ dir hname]
    cases hway : walk disk.root (disk.start dir) dir.steps with
    | error refused =>
      rw [hway] at h
      cases h
      rfl
    | ok place =>
      simp only [hway] at h
      cases hget : disk.root.get? place with
      | none =>
        rw [hget] at h
        cases h
        simp only [Except.bind, walk, hget]
      | some found => rw [hget] at h; cases h
  rw [makeDir, htarget]

/-- What is missing is made first. -/
theorem makeFirst_of_missing {path : Path} {outer : List Path} {reached : Disk}
    (htext : path.text ≠ "") (h : disk.makeDir path = .error .notFound)
    (houter : disk.makeFirst outer = (.ok (), reached))
    (hagain : reached.makeDir path ≠ .error .notFound) :
    disk.makeFirst (path :: outer) = reached.makeFirst (path :: outer) := by
  rw [makeFirst, if_neg htext, h, houter]
  cases hmake : reached.makeDir path with
  | ok made =>
    simp only [hmake, makeFirst_of_made htext hmake]
  | error cause =>
    have hcause : cause ≠ .notFound := by
      rintro rfl
      exact hagain hmake
    simp only [hmake, makeFirst_of_refused htext hcause hmake]

theorem makeFirst_of_missing_error {path : Path} {outer : List Path} {reached : Disk}
    {cause : IoError} (htext : path.text ≠ "") (h : disk.makeDir path = .error .notFound)
    (houter : disk.makeFirst outer = (.error cause, reached)) :
    disk.makeFirst (path :: outer) = (.error cause, reached) := by
  rw [makeFirst, if_neg htext, h, houter]

section Ways

variable {front : List String} {entries : List (String × FileTree)}
  (hbase : disk.find base = .ok (.directory entries))
  (hnames : ∀ part ∈ front, Path.IsName part) (hne : front ≠ []) (hname : Path.IsName name)
  (hclear : (FileTree.directory entries).Clear front)
  (htext : refuseText (base.below front / name) = .ok ())
  (hbelow : Paves base front disk (disk.makeFirst (base.below front).ancestors))

include hbase hnames hne hname hclear htext hbelow

/-- Where a way fits, it is made up to its last directory, and then that one. -/
theorem paves_of_fits (hfits : Fits front)
    (hlast : disk.fileAt (disk.goal base ++ (front ++ [name])) = none) :
    Paves base (front ++ [name]) disk
      (disk.makeFirst (base.below front / name :: (base.below front).ancestors)) := by
  have hdirText := refuseText_of_join hname (text_below_ne_empty base hnames hne) htext
  have hkind : disk.kind? base = some .directory := by rw [kind?, hbase]
  by_cases hthere : disk.root.DirAt (disk.goal base ++ front)
  · have hdir := (kind?_below_iff hkind hnames hne).mpr ⟨hdirText, hfits, hthere⟩
    exact paves_of_directory hnames hname hkind hdir hfits hlast htext _
  · have hgone : ¬(FileTree.directory entries).DirAt front := by
      unfold FileTree.DirAt at hthere ⊢
      rwa [get?_base hbase] at hthere
    have hfind := find_below hbase hnames hne
    rw [hdirText, Except.bind, hclear.descend_of_fits hfits hgone] at hfind
    have hslash := (goesOn_below base hnames hne).endsInSlash_eq
    have hmake := makeDir_of_missing hname hslash hdirText htext hfind
    cases hmade : disk.makeFirst (base.below front).ancestors with
    | mk result reached =>
      rw [hmade] at hbelow
      obtain ⟨hresult, hpaved⟩ := hbelow
      rw [if_pos hfits] at hresult
      obtain rfl : result = .ok () := hresult
      -- on the disk that was reached, the way leads to a directory
      have hkind' := hpaved.kind?_directory hkind
      have hthere' := hpaved.paved front (List.prefix_refl _) hfits
      rw [← hpaved.fileAt, ← hpaved.goal] at hlast
      rw [← hpaved.goal] at hthere'
      have hdir := (kind?_below_iff hkind' hnames hne).mpr ⟨hdirText, hfits, hthere'⟩
      rw [makeFirst_of_missing (Path.text_join_ne_empty _ hname) hmake hmade
        (makeDir_ne_notFound hdir hname)]
      obtain ⟨hresult, hlater⟩ := paves_of_directory hnames hname hkind' hdir hfits hlast htext _
      exact ⟨hresult, hpaved.trans (List.prefix_append _ _) hlater⟩

/-- Where a way does not fit, no more than what fits is made. -/
theorem paves_of_not_fits (hfits : ¬Fits front) :
    Paves base (front ++ [name]) disk
      (disk.makeFirst (base.below front / name :: (base.below front).ancestors)) := by
  have hdirText := refuseText_of_join hname (text_below_ne_empty base hnames hne) htext
  have hslash := (goesOn_below base hnames hne).endsInSlash_eq
  have hpath := Path.text_join_ne_empty (base.below front) hname
  have hlong : ¬Fits (front ++ [name]) := fun h => hfits (fits_concat.mp h).1
  have hfind := find_below hbase hnames hne
  rw [hdirText, Except.bind] at hfind
  rcases hclear.descend_of_not_fits hfits with ⟨hmissing, -⟩ | ⟨htooLong, hall⟩
  · rw [hmissing] at hfind
    have hmake := makeDir_of_missing hname hslash hdirText htext hfind
    cases hmade : disk.makeFirst (base.below front).ancestors with
    | mk result reached =>
      rw [hmade] at hbelow
      obtain ⟨hresult, hpaved⟩ := hbelow
      rw [if_neg hfits] at hresult
      obtain rfl : result = .error .nameTooLong := hresult
      rw [makeFirst_of_missing_error hpath hmake hmade]
      exact hpaved.paves_of_not_fits hlong
  · rw [htooLong] at hfind
    have hmake := makeDir_of_missing hname hslash hdirText htext hfind
    have hkind : disk.kind? (base.below front / name) ≠ some .directory := by
      rw [← Path.below_concat, ne_eq, kind?_below_iff (by rw [kind?, hbase])]
      · exact fun h => hlong h.2.1
      · rw [List.forall_mem_append, List.forall_mem_singleton]
        exact ⟨hnames, hname⟩
      · simp
    rw [makeFirst_of_refused hpath IoError.noConfusion hmake, if_neg hkind]
    have hkept : Paved base front disk disk := paved_refl fun start hstart hshort => by
      obtain ⟨inner, hinner⟩ := hall start hstart hshort
      exact ⟨inner, (get?_base hbase start).trans hinner⟩
    exact hkept.paves_of_not_fits hlong

end Ways

/-- **What becomes of a way when its last directory is to be made.** All that fits is made, and that
fails when something does not fit. -/
theorem makeDirs_below (hbase : disk.kind? base = some .directory)
    (hnames : ∀ part ∈ names, Path.IsName part) (hne : names ≠ [])
    (hclear : ∀ front, front <+: names → disk.fileAt (disk.goal base ++ front) = none)
    (htext : refuseText (base.below names) = .ok ()) :
    Paves base names disk (disk.makeDirs (base.below names)) := by
  obtain ⟨entries, hentries⟩ := find_of_kind?_directory hbase
  induction names using List.reverseRecOn with
  | nil => exact absurd rfl hne
  | append_singleton front name ih =>
    rw [List.forall_mem_append, List.forall_mem_singleton] at hnames
    obtain ⟨hfrontNames, hname⟩ := hnames
    rw [Path.below_concat] at htext ⊢
    have hlast := hclear (front ++ [name]) (List.prefix_refl _)
    by_cases hempty : front = []
    · subst hempty
      obtain ⟨outer, houter⟩ := exists_ancestors (base.below [] / name)
      rw [makeDirs, houter]
      exact paves_of_directory hfrontNames hname hbase hbase (by decide) hlast htext outer
    · have hclear' : ∀ start, start <+: front → disk.fileAt (disk.goal base ++ start) = none :=
        fun start hstart => hclear start (hstart.trans (List.prefix_append _ _))
      have hdirText := refuseText_of_join hname (text_below_ne_empty base hfrontNames hempty) htext
      have hbelow := ih hfrontNames hempty hclear' hdirText
      have hway : (FileTree.directory entries).Clear front := by
        intro start hstart
        rw [← hclear' start hstart, fileAt, FileTree.fileAt_congr (get?_base hentries start)]
      rw [makeDirs, ancestors_below base hempty hfrontNames hname]
      by_cases hfits : Fits front
      · exact paves_of_fits hentries hfrontNames hempty hname hway htext hbelow hfits hlast
      · exact paves_of_not_fits hentries hfrontNames hempty hname hway htext hbelow hfits

end Disk

/-! ## Directories that are provided -/

namespace Store

variable {disk : Disk} {base path : Path} {names : List String}

/-- Providing a directory below one that is there makes nothing but directories on the way. -/
theorem provideDir_along (hbase : disk.kind? base = some .directory)
    (hnames : ∀ part ∈ names, Path.IsName part) (hne : names ≠ []) :
    WidensAlong base names disk (disk.run (provideDir (base.below names))).2 := by
  rw [run_provideDir]
  split
  · exact .refl base names disk
  · exact makeDirs_along hbase hnames hne

/-- **Providing a directory below one that is there paves the way to it.** That fails when a name
does not fit. -/
theorem run_provideDir_below (hbase : disk.kind? base = some .directory)
    (hnames : ∀ part ∈ names, Path.IsName part) (hne : names ≠ [])
    (hclear : ∀ front, front <+: names → disk.fileAt (disk.goal base ++ front) = none)
    (htext : refuseText (base.below names) = .ok ()) :
    (disk.run (provideDir (base.below names))).1 =
        (if Fits names then .ok ()
          else .error (.directoryCreation (base.below names) .nameTooLong)) ∧
      Paved base names disk (disk.run (provideDir (base.below names))).2 := by
  rw [run_provideDir]
  by_cases hkind : disk.kind? (base.below names) = some .directory
  · obtain ⟨-, hfits, hthere⟩ := (kind?_below_iff hbase hnames hne).mp hkind
    rw [if_pos hkind, if_pos hfits]
    exact ⟨rfl, paved_refl fun start hstart _ =>
      hthere.above ((List.prefix_append_right_inj _).mpr hstart)⟩
  · obtain ⟨hresult, hpaved⟩ := makeDirs_below hbase hnames hne hclear htext
    rw [if_neg hkind]
    refine ⟨?_, hpaved⟩
    rw [hresult]
    by_cases hfits : Fits names
    · rw [if_pos hfits, if_pos hfits]
      rfl
    · rw [if_neg hfits, if_neg hfits]
      rfl

/-- A directory whose path is refused is not provided. -/
theorem run_provideDir_of_refused (disk : Disk) {cause : IoError} (hempty : path.text ≠ "")
    (htext : refuseText path = .error cause) :
    disk.run (provideDir path) = (.error (.directoryCreation path cause), disk) := by
  have hkind : disk.kind? path ≠ some .directory := by
    unfold kind? find locate
    rw [htext]
    exact fun h => nomatch h
  have hmake : disk.makeDir path = .error cause := by
    unfold makeDir target
    rw [htext]
  obtain ⟨outer, houter⟩ := exists_ancestors path
  rw [run_provideDir, if_neg hkind, makeDirs, houter,
    makeFirst_of_refused hempty (text_of_refuseText hempty htext) hmake, if_neg hkind]
  rfl

end Store

end DmlOutline
