import DmlOutline.FileName

/-!
# Scopes

Files belong to a session, and inside it to a project or to none. Each scope has a directory of its
own with one directory for each category of files.

* `Scope` — a session and a project; `Scope.make` checks their keys.
* `Scope.dir` — the directory of a scope below a base directory.
* `Category` — the four directories of a scope; `Category.ofName` routes a source by its name.
-/

namespace DmlOutline

/-- A session, or a project inside one. -/
structure Scope where
  session : Segment
  project : Option Segment
  deriving DecidableEq

namespace Scope

/-- The scope with these keys, the session's being checked first. -/
def make (session : String) (project : Option String) : Except Error Scope :=
  match Segment.ofScopeKey session with
  | .error error => .error error
  | .ok session =>
    match project with
    | none => .ok ⟨session, none⟩
    | some project =>
      match Segment.ofScopeKey project with
      | .error error => .error error
      | .ok project => .ok ⟨session, some project⟩

/-- The directory of a scope. -/
def dir (scope : Scope) (base : Path) : Path :=
  match scope.project with
  | some project => base / scope.session.text / project.text
  | none => base / scope.session.text

/-- The text that a scope is shown as. -/
def label (scope : Scope) : String :=
  match scope.project with
  | some project => scope.session.text ++ "/" ++ project.text
  | none => scope.session.text

end Scope

/-- A directory of a scope. -/
inductive Category where
  | source
  | ddl
  | sequence
  /-- Where the outlines of sources are. -/
  | outlines
  deriving DecidableEq, Repr

namespace Category

/-- The categories that hold sources, in the order in which they are searched. -/
def sources : List Category :=
  [source, ddl, sequence]

/-- All categories. -/
def all : List Category :=
  [source, ddl, sequence, outlines]

/-- The name of the directory of a category. -/
def folderName : Category → String
  | source => "src"
  | ddl => "ddl"
  | sequence => "sequence"
  | outlines => "analysis"

/-- The category whose directory has a name. -/
def ofFolderName? (name : String) : Option Category :=
  all.find? (·.folderName = name)

/-- The category of the sources of a type. -/
def ofType : SourceType → Category
  | .plsql => source
  | .ddl => ddl
  | .sequence => sequence

/-- The category of a source with a name. -/
def ofName (name : String) : Category :=
  ofType (SourceType.ofName name)

/-- A source belongs to a category of sources. -/
theorem ofName_mem_sources (name : String) : ofName name ∈ sources := by
  unfold ofName ofType
  split <;> simp [sources]

end Category

end DmlOutline
