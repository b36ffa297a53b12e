import DmlOutline.Text.Split

/-!
# Paths

A path is a text whose components are separated by slashes. Its text is kept as it was given:
nothing is normalised.

* `Path.join` — a name below a path; `path / name` for short.
* `Path.parent?` — the path without its last component.
* `Path.fileName?` — the last component, when it names an entry of a directory.
* `Path.ancestors` — the path, its parent, the parent of that, and so on.
* `Path.steps` — the walk from directory to directory that the path stands for.
-/

namespace DmlOutline

/-- A path of a file or a directory, as it was written. -/
structure Path where
  text : String
  deriving DecidableEq, Repr, Inhabited

namespace Path

/-- Whether a path starts at the root of the file tree. -/
def isAbsolute (path : Path) : Bool :=
  path.text.toList.head? == some '/'

/-- Whether a path ends in a slash. -/
def endsInSlash (path : Path) : Bool :=
  path.text.toList.getLast? == some '/'

/-- A name below a path: an absolute name stands for itself, and one slash is put between the
two unless the path is empty or ends in one. -/
def join (path : Path) (name : String) : Path :=
  if name.toList.head? == some '/' then ⟨name⟩
  else if path.text.isEmpty || path.endsInSlash then ⟨path.text ++ name⟩
  else ⟨path.text ++ "/" ++ name⟩

instance : HDiv Path String Path := ⟨join⟩

/-! ## The last component

These functions read a path from its end, so they work on the reversed text. -/

/-- Drops what names no component at the end of a path: slashes, and dots that stand alone after a
slash. The slash of the root stays. -/
def trimBack : List Char → List Char
  | '/' :: [] => ['/']
  | '/' :: rest => trimBack rest
  | '.' :: '/' :: [] => ['/']
  | '.' :: '/' :: rest => trimBack rest
  | back => back

/-- The reversed last component of a reversed path. -/
def lastBack (back : List Char) : List Char :=
  (trimBack back).takeWhile (· ≠ '/')

/-- The path without its last component; the root and the empty path have none. -/
def parent? (path : Path) : Option Path :=
  let back := path.text.toList.reverse
  if lastBack back = [] then none
  else some ⟨String.ofList (trimBack ((trimBack back).drop (lastBack back).length)).reverse⟩

/-- The last component, unless it is a dot or two dots, which name no entry. -/
def fileName? (path : Path) : Option String :=
  let last := (lastBack path.text.toList.reverse).reverse
  if last = [] ∨ last = ['.'] ∨ last = ['.', '.'] then none else some (String.ofList last)

theorem length_trimBack_le (back : List Char) : (trimBack back).length ≤ back.length := by
  fun_induction trimBack back <;> simp_all <;> omega

theorem lastBack_sublist (back : List Char) : (lastBack back).Sublist (trimBack back) :=
  (List.takeWhile_prefix _).sublist

/-- The parent of a path is shorter than the path. -/
theorem length_parent? {path up : Path} (h : path.parent? = some up) :
    up.text.length < path.text.length := by
  simp only [parent?] at h
  split at h
  · cases h
  · rename_i last
    cases h
    have trimmed := length_trimBack_le path.text.toList.reverse
    have again := length_trimBack_le
      ((trimBack path.text.toList.reverse).drop (lastBack path.text.toList.reverse).length)
    have positive := List.length_pos_iff.2 last
    have inside := (lastBack_sublist path.text.toList.reverse).length_le
    simp only [List.length_drop, List.length_reverse, String.length_toList] at *
    simp only [String.length_ofList, List.length_reverse]
    omega

/-- The path, its parent, the parent of that, and so on, the path itself first. -/
def ancestors (path : Path) : List Path :=
  match _found : path.parent? with
  | none => [path]
  | some up => path :: ancestors up
termination_by path.text.length
decreasing_by exact length_parent? _found

/-! ## Steps -/

/-- One step of the walk along a path. -/
inductive Step where
  /-- Stay in the directory. -/
  | stay
  /-- Go to the directory above. -/
  | up
  /-- Go to the entry with this name. -/
  | down (name : String)
  deriving DecidableEq, Repr

/-- The step that a component stands for; an empty component stands for none. -/
def Step.ofComponent? : List Char → Option Step
  | [] => none
  | ['.'] => some stay
  | ['.', '.'] => some up
  | name => some (down (String.ofList name))

/-- The steps of the walk from the start of a path to its end. -/
def steps (path : Path) : List Step :=
  (Text.split '/' path.text.toList).filterMap Step.ofComponent?

end Path

end DmlOutline
