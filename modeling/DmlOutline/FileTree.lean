/-!
# Trees of files

The files of a disk form a tree of directories. A place in it is the list of names on the way from
the root.

* `FileTree` — a file with its content, or a directory with its entries.
* `FileTree.get?` — what is at a place.
* `FileTree.put`, `FileTree.remove` — the tree with something else, or nothing, at a place.
* `FileTree.names`, `FileTree.fileNames` — the names in a directory, in order.
* `FileTree.get?_put_self` — what was put at a place is there.
-/

namespace DmlOutline

/-- A place in a tree: the names on the way from its root. -/
abbrev Location := List String

/-- A file or a directory with all that is in it. -/
inductive FileTree where
  | file (content : ByteArray)
  | directory (entries : List (String × FileTree))

namespace FileTree

/-- What is at a place. -/
def get? : FileTree → Location → Option FileTree
  | tree, [] => some tree
  | file _, _ :: _ => none
  | directory entries, name :: rest =>
    match entries.lookup name with
    | some entry => entry.get? rest
    | none => none

/-- Entries with another one under a name. -/
def putEntry (name : String) (tree : FileTree) :
    List (String × FileTree) → List (String × FileTree)
  | [] => [(name, tree)]
  | entry :: rest => if entry.1 = name then (name, tree) :: rest else entry :: putEntry name tree rest

/-- The tree with something else at a place, whose directory must exist. -/
def put : FileTree → Location → FileTree → FileTree
  | _, [], new => new
  | file content, _ :: _, _ => file content
  | directory entries, name :: rest, new =>
    match entries.lookup name with
    | some entry => directory (putEntry name (entry.put rest new) entries)
    | none =>
      match rest with
      | [] => directory (putEntry name new entries)
      | _ :: _ => directory entries

/-- The tree with nothing at a place below its root. -/
def remove : FileTree → Location → FileTree
  | tree, [] => tree
  | file content, _ :: _ => file content
  | directory entries, [name] => directory (entries.filter (·.1 ≠ name))
  | directory entries, name :: next :: rest =>
    match entries.lookup name with
    | some entry => directory (putEntry name (entry.remove (next :: rest)) entries)
    | none => directory entries

/-- Whether this is a directory. -/
def isDirectory : FileTree → Bool
  | file _ => false
  | directory _ => true

/-- Whether this is a file. -/
def isFile : FileTree → Bool
  | file _ => true
  | directory _ => false

/-- The names in a directory, in the order of their bytes. -/
def names : FileTree → List String
  | file _ => []
  | directory entries => (entries.map (·.1)).eraseDups.mergeSort (· ≤ ·)

/-- The names of the files in a directory, in the order of their bytes. -/
def fileNames (tree : FileTree) : List String :=
  tree.names.filter fun name => (tree.get? [name]).any isFile

/-! ## Reading after writing -/

@[simp] theorem get?_nil (tree : FileTree) : tree.get? [] = some tree := by
  cases tree <;> rfl

theorem lookup_putEntry_self (name : String) (tree : FileTree)
    (entries : List (String × FileTree)) : (putEntry name tree entries).lookup name = some tree := by
  induction entries with
  | nil => simp [putEntry]
  | cons entry rest ih =>
    obtain ⟨first, found⟩ := entry
    unfold putEntry
    split
    · simp
    · next other =>
      have : (name == first) = false := by simpa using Ne.symm other
      simp [List.lookup_cons, this, ih]

theorem lookup_putEntry_of_ne {name other : String} (h : other ≠ name) (tree : FileTree)
    (entries : List (String × FileTree)) :
    (putEntry name tree entries).lookup other = entries.lookup other := by
  have differ : (other == name) = false := by simpa using h
  induction entries with
  | nil => simp [putEntry, List.lookup_cons, differ]
  | cons entry rest ih =>
    obtain ⟨first, found⟩ := entry
    unfold putEntry
    split
    · next same =>
      cases same
      simp [List.lookup_cons, differ]
    · simp [List.lookup_cons, ih]

/-- What was put at a place whose directory exists is there. -/
theorem get?_put_self {tree parent : FileTree} {location : Location} {name : String}
    (exists_ : tree.get? location = some parent) (isDir : parent.isDirectory = true)
    (new : FileTree) :
    (tree.put (location ++ [name]) new).get? (location ++ [name]) = some new := by
  induction location generalizing tree with
  | nil =>
    rw [get?_nil] at exists_
    obtain rfl := Option.some.inj exists_
    cases tree with
    | file _ => simp [isDirectory] at isDir
    | directory entries =>
      simp only [List.nil_append, put]
      cases found : entries.lookup name <;> simp [get?, lookup_putEntry_self]
  | cons first rest ih =>
    cases tree with
    | file _ => simp [get?] at exists_
    | directory entries =>
      simp only [get?] at exists_
      cases found : entries.lookup first with
      | none => simp [found] at exists_
      | some entry =>
        rw [found] at exists_
        simp only [List.cons_append, put, found, get?, lookup_putEntry_self]
        exact ih exists_

end FileTree

end DmlOutline
