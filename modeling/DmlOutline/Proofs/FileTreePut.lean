import DmlOutline.FileTree

/-!
# Trees with something else at one place

Something put at a place changes what is at this place and below it, and nothing else. Files and
directories are told apart, since most of what a disk promises is about files.

* `FileTree.fileAt` — the content of the file at a place.
* `FileTree.DirAt` — there is a directory at a place.

Principal results: `FileTree.fileAt_put_file`, `FileTree.fileAt_put_directory`, and
`FileTree.get?_put_apart`: other places keep what they have; `FileTree.put_put`,
`FileTree.remove_put`: what was put can be replaced, and be taken away again.
-/

namespace DmlOutline.FileTree

variable {tree new : FileTree} {place other parent : Location} {name : String}
  {content : ByteArray}

/-- The content of the file at a place. -/
def fileAt (tree : FileTree) (place : Location) : Option ByteArray :=
  match tree.get? place with
  | some (file content) => some content
  | _ => none

/-- There is a directory at a place. -/
def DirAt (tree : FileTree) (place : Location) : Prop :=
  ∃ entries, tree.get? place = some (directory entries)

theorem fileAt_eq_some_iff : tree.fileAt place = some content ↔
    tree.get? place = some (file content) := by
  unfold fileAt
  split
  · rename_i found hfound
    rw [hfound]
    simp
  · rename_i hfile
    constructor
    · intro h; cases h
    · intro h; exact absurd h (hfile content)

theorem fileAt_eq_none_of_dirAt (h : tree.DirAt place) : tree.fileAt place = none := by
  obtain ⟨entries, h⟩ := h
  rw [fileAt, h]

theorem fileAt_congr {tree' : FileTree} (h : tree.get? place = tree'.get? other) :
    tree.fileAt place = tree'.fileAt other := by
  rw [fileAt, h, fileAt]

/-! ## Places below a place -/

theorem get?_append (tree : FileTree) (front back : Location) :
    tree.get? (front ++ back) = (tree.get? front).bind (·.get? back) := by
  induction front generalizing tree with
  | nil => rw [List.nil_append, get?_nil, Option.bind_some]
  | cons name rest ih =>
    cases tree with
    | file content => rfl
    | directory entries =>
      rw [List.cons_append, get?, get?]
      cases entries.lookup name with
      | none => rfl
      | some entry => exact ih entry

/-- Only directories have something below them. -/
theorem dirAt_of_get?_append {found : FileTree}
    (h : tree.get? (place ++ name :: other) = some found) : tree.DirAt place := by
  rw [get?_append] at h
  obtain ⟨above, habove, hbelow⟩ := Option.bind_eq_some_iff.mp h
  cases above with
  | file content => cases hbelow
  | directory entries => exact ⟨entries, habove⟩

theorem DirAt.above (h : tree.DirAt parent) (hbegins : place <+: parent) :
    tree.DirAt place := by
  obtain ⟨rest, rfl⟩ := hbegins
  cases rest with
  | nil => rwa [List.append_nil] at h
  | cons name rest =>
    obtain ⟨entries, h⟩ := h
    exact dirAt_of_get?_append h

theorem get?_append_of_not_dirAt (h : ¬tree.DirAt place) (name : String) (rest : Location) :
    tree.get? (place ++ name :: rest) = none := by
  cases hfound : tree.get? (place ++ name :: rest) with
  | none => rfl
  | some found => exact absurd (dirAt_of_get?_append hfound) h

/-! ## Something else at a place -/

/-- What is put into a directory has its own places below it. -/
theorem get?_put_append (hdir : tree.DirAt parent) (name : String) (new : FileTree)
    (rest : Location) :
    (tree.put (parent ++ [name]) new).get? (parent ++ [name] ++ rest) = new.get? rest := by
  obtain ⟨entries, hentries⟩ := hdir
  rw [get?_append, get?_put_self hentries rfl, Option.bind_some]

/-- **Places that are neither above nor below keep what they have.** -/
theorem get?_put_apart (new : FileTree) (hbelow : ¬place <+: other)
    (habove : ¬other <+: place) : (tree.put place new).get? other = tree.get? other := by
  induction place generalizing tree other with
  | nil => exact absurd List.nil_prefix hbelow
  | cons name rest ih =>
    cases other with
    | nil => exact absurd List.nil_prefix habove
    | cons first more =>
      cases tree with
      | file content => rfl
      | directory entries =>
        by_cases hname : first = name
        · subst hname
          rw [List.cons_prefix_cons, not_and] at hbelow habove
          cases hentry : entries.lookup first with
          | some entry =>
            simp only [put, get?, hentry, lookup_putEntry_self]
            exact ih (hbelow rfl) (habove rfl)
          | none =>
            cases rest with
            | nil => exact absurd List.nil_prefix (hbelow rfl)
            | cons next rest => simp only [put, hentry]
        · cases hentry : entries.lookup name with
          | some entry => simp only [put, get?, hentry, lookup_putEntry_of_ne hname]
          | none =>
            cases rest with
            | nil => simp only [put, get?, hentry, lookup_putEntry_of_ne hname]
            | cons next rest => simp only [put, hentry]

/-- A directory stays one when something is put below it. -/
theorem dirAt_put_below (new : FileTree) (h : tree.DirAt place) {rest : Location}
    (hrest : rest ≠ []) : (tree.put (place ++ rest) new).DirAt place := by
  induction place generalizing tree with
  | nil =>
    obtain ⟨entries, h⟩ := h
    rw [get?_nil] at h
    obtain rfl := Option.some.inj h
    obtain ⟨name, more, rfl⟩ := List.exists_cons_of_ne_nil hrest
    unfold DirAt
    simp only [List.nil_append, put, get?_nil]
    cases entries.lookup name with
    | some entry => exact ⟨_, rfl⟩
    | none => cases more <;> exact ⟨_, rfl⟩
  | cons first more ih =>
    obtain ⟨below, h⟩ := h
    cases tree with
    | file content => cases h
    | directory entries =>
      cases hentry : entries.lookup first with
      | none => simp only [get?, hentry] at h; cases h
      | some entry =>
        simp only [get?, hentry] at h
        obtain ⟨found, hfound⟩ := ih ⟨below, h⟩
        refine ⟨found, ?_⟩
        simp only [List.cons_append, put, get?, hentry, lookup_putEntry_self, hfound]

/-- How a place lies to that of an entry. -/
theorem place_cases (parent : Location) (name : String) (other : Location) :
    (∃ rest, other = parent ++ [name] ++ rest) ∨ other <+: parent ∨
      ¬parent ++ [name] <+: other ∧ ¬other <+: parent ++ [name] := by
  by_cases hbelow : parent ++ [name] <+: other
  · obtain ⟨rest, rfl⟩ := hbelow
    exact .inl ⟨rest, rfl⟩
  · by_cases habove : other <+: parent ++ [name]
    · rcases List.prefix_concat_iff.mp habove with rfl | habove
      · exact absurd (List.prefix_refl _) hbelow
      · exact .inr (.inl habove)
    · exact .inr (.inr ⟨hbelow, habove⟩)

theorem DirAt.put_above (hdir : tree.DirAt parent) (new : FileTree) (habove : other <+: parent) :
    (tree.put (parent ++ [name]) new).DirAt other := by
  have h := hdir.above habove
  obtain ⟨rest, rfl⟩ := habove
  rw [List.append_assoc]
  exact dirAt_put_below new h (List.append_ne_nil_of_right_ne_nil rest (List.cons_ne_nil _ _))

/-- **A file put into a directory, where there was none, is the only change to the files.** -/
theorem fileAt_put_file (hdir : tree.DirAt parent) (hnot : ¬tree.DirAt (parent ++ [name]))
    (content : ByteArray) (other : Location) :
    (tree.put (parent ++ [name]) (file content)).fileAt other =
      if other = parent ++ [name] then some content else tree.fileAt other := by
  rcases place_cases parent name other with ⟨rest, rfl⟩ | habove | ⟨hbelow, habove⟩
  · have hput := get?_put_append hdir name (file content) rest
    cases rest with
    | nil =>
      rw [List.append_nil] at hput ⊢
      rw [if_pos rfl, fileAt_eq_some_iff, hput, get?_nil]
    | cons first rest =>
      rw [if_neg (by simp), fileAt_congr hput, fileAt, fileAt, get?_append_of_not_dirAt hnot]
      rfl
  · have hne : other ≠ parent ++ [name] := by
      rintro rfl
      have := habove.length_le
      rw [List.length_append, List.length_singleton] at this
      omega
    rw [if_neg hne, fileAt_eq_none_of_dirAt (hdir.above habove),
      fileAt_eq_none_of_dirAt (hdir.put_above _ habove)]
  · rw [if_neg (by rintro rfl; exact hbelow (List.prefix_refl _)),
      fileAt_congr (get?_put_apart _ hbelow habove)]

/-- **A directory put where there was nothing changes no files.** -/
theorem fileAt_put_directory (hdir : tree.DirAt parent)
    (hnone : tree.get? (parent ++ [name]) = none) (other : Location) :
    (tree.put (parent ++ [name]) (directory [])).fileAt other = tree.fileAt other := by
  rcases place_cases parent name other with ⟨rest, rfl⟩ | habove | ⟨hbelow, habove⟩
  · have hput := get?_put_append hdir name (directory []) rest
    have hbefore : tree.get? (parent ++ [name] ++ rest) = none := by
      rw [get?_append, hnone, Option.bind_none]
    rw [fileAt_congr hput, fileAt, fileAt, hbefore]
    cases rest <;> rfl
  · rw [fileAt_eq_none_of_dirAt (hdir.above habove),
      fileAt_eq_none_of_dirAt (hdir.put_above _ habove)]
  · exact fileAt_congr (get?_put_apart _ hbelow habove)

/-- A directory put into another one is the only new directory. -/
theorem dirAt_of_put_directory (hdir : tree.DirAt parent)
    (h : (tree.put (parent ++ [name]) (directory [])).DirAt other) :
    tree.DirAt other ∨ other = parent ++ [name] := by
  rcases place_cases parent name other with ⟨rest, rfl⟩ | habove | ⟨hbelow, habove⟩
  · obtain ⟨entries, h⟩ := h
    rw [get?_put_append hdir] at h
    cases rest with
    | nil => exact .inr (List.append_nil _)
    | cons first rest => cases h
  · exact .inl (hdir.above habove)
  · obtain ⟨entries, h⟩ := h
    rw [get?_put_apart _ hbelow habove] at h
    exact .inl ⟨entries, h⟩

/-- Directories stay where something is put in the place of what is none. -/
theorem DirAt.put (h : tree.DirAt other) (hdir : tree.DirAt parent)
    (hnot : ¬tree.DirAt (parent ++ [name])) (new : FileTree) :
    (tree.put (parent ++ [name]) new).DirAt other := by
  rcases place_cases parent name other with ⟨rest, rfl⟩ | habove | ⟨hbelow, habove⟩
  · exact absurd (h.above (List.prefix_append _ _)) hnot
  · exact hdir.put_above new habove
  · obtain ⟨entries, h⟩ := h
    exact ⟨entries, by rw [get?_put_apart _ hbelow habove, h]⟩

/-- A file put where there was no directory makes no directory, and takes none away. -/
theorem dirAt_put_file (hdir : tree.DirAt parent) (hnot : ¬tree.DirAt (parent ++ [name]))
    (content : ByteArray) (other : Location) :
    (tree.put (parent ++ [name]) (file content)).DirAt other ↔ tree.DirAt other := by
  refine ⟨fun h => ?_, fun h => h.put hdir hnot _⟩
  rcases place_cases parent name other with ⟨rest, rfl⟩ | habove | ⟨hbelow, habove⟩
  · obtain ⟨entries, h⟩ := h
    rw [get?_put_append hdir] at h
    cases rest <;> cases h
  · exact hdir.above habove
  · obtain ⟨entries, h⟩ := h
    exact ⟨entries, by rw [← h, get?_put_apart _ hbelow habove]⟩

/-! ## What was put is put again or taken away -/

variable {entries : List (String × FileTree)} {entry : FileTree}

theorem putEntry_putEntry (name : String) (first second : FileTree)
    (entries : List (String × FileTree)) :
    putEntry name second (putEntry name first entries) = putEntry name second entries := by
  induction entries with
  | nil => simp [putEntry]
  | cons entry rest ih =>
    by_cases hname : entry.1 = name
    · simp [putEntry, hname]
    · simp [putEntry, hname, ih]

theorem putEntry_of_lookup (h : entries.lookup name = some entry) :
    putEntry name entry entries = entries := by
  induction entries with
  | nil => cases h
  | cons other rest ih =>
    obtain ⟨first, found⟩ := other
    by_cases hname : first = name
    · subst hname
      rw [List.lookup_cons_self] at h
      obtain rfl := Option.some.inj h
      simp [putEntry]
    · have hdiffer : (name == first) = false := by simpa using Ne.symm hname
      rw [List.lookup_cons, hdiffer] at h
      simp [putEntry, hname, ih h]

/-- What is under no name yet comes last, and is all that bears this name. -/
theorem filter_putEntry_of_lookup (h : entries.lookup name = none) (entry : FileTree) :
    (putEntry name entry entries).filter (·.1 ≠ name) = entries := by
  induction entries with
  | nil => simp [putEntry]
  | cons other rest ih =>
    obtain ⟨first, found⟩ := other
    have hname : name ≠ first := by
      rintro rfl
      rw [List.lookup_cons_self] at h
      cases h
    have hdiffer : (name == first) = false := by simpa using hname
    rw [List.lookup_cons, hdiffer] at h
    rw [putEntry, if_neg hname.symm, List.filter_cons_of_pos (by simpa using hname.symm), ih h]

/-- **Of two things put at a place the second one stays.** -/
theorem put_put (place : Location) (first second : FileTree) (tree : FileTree) :
    (tree.put place first).put place second = tree.put place second := by
  induction place generalizing tree with
  | nil => rfl
  | cons name rest ih =>
    cases tree with
    | file content => rfl
    | directory entries =>
      cases hentry : entries.lookup name with
      | some entry =>
        simp only [put, hentry, lookup_putEntry_self, putEntry_putEntry, ih]
      | none =>
        cases rest with
        | nil => simp only [put, hentry, lookup_putEntry_self, putEntry_putEntry]
        | cons next rest => simp only [put, hentry]

/-- **What was put where there was nothing can be taken away again.** -/
theorem remove_put (hdir : tree.DirAt parent) (hnone : tree.get? (parent ++ [name]) = none)
    (new : FileTree) : (tree.put (parent ++ [name]) new).remove (parent ++ [name]) = tree := by
  induction parent generalizing tree with
  | nil =>
    obtain ⟨entries, hentries⟩ := hdir
    rw [get?_nil] at hentries
    obtain rfl := Option.some.inj hentries
    have hlookup : entries.lookup name = none := by
      cases hfound : entries.lookup name with
      | none => rfl
      | some entry => simp [get?, hfound] at hnone
    simp only [List.nil_append, put, hlookup, remove]
    rw [filter_putEntry_of_lookup hlookup]
  | cons first more ih =>
    obtain ⟨below, hbelow⟩ := hdir
    cases tree with
    | file content => cases hbelow
    | directory entries =>
      cases hentry : entries.lookup first with
      | none => simp only [get?, hentry] at hbelow; cases hbelow
      | some entry =>
        simp only [get?, hentry] at hbelow
        simp only [List.cons_append, get?, hentry] at hnone
        obtain ⟨next, rest, hrest⟩ : ∃ next rest, more ++ [name] = next :: rest :=
          List.exists_cons_of_ne_nil (by simp)
        have hagain := ih ⟨below, hbelow⟩ hnone
        rw [hrest] at hagain
        simp only [List.cons_append, hrest, put, hentry, remove, lookup_putEntry_self,
          putEntry_putEntry, hagain, putEntry_of_lookup hentry]

end DmlOutline.FileTree
