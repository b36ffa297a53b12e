import DmlOutline.FrontEnd
import DmlOutline.Store

/-!
# Outlining sources

To outline a source is to read it, take its outline and store that. The stored outline is the only
memory of it: where there is one, the source need not be read again.

* `Outliner` — a store and a front end; `Outliner.Outcome` is what became of a source.
* `Outliner.outlineOnce`, `Outliner.outlineAnew` — one source.
* `Outliner.outlineBatch` — sources by their names; those that fail are passed over.
* `Outliner.outlineAll` — all plain sources of a scope.
-/

namespace DmlOutline

/-- What became of a source that was to be outlined. -/
inductive Outliner.Outcome where
  /-- The outline was already there. -/
  | known (path : Path)
  /-- The outline was taken and stored. -/
  | taken (path : Path) (statements : Nat)
  deriving DecidableEq, Repr

namespace Outliner.Outcome

/-- The place of the outline. -/
def path : Outliner.Outcome → Path
  | known path => path
  | taken path _ => path

/-- Whether the outline was already there. -/
def wasKnown : Outliner.Outcome → Bool
  | known _ => true
  | taken .. => false

end Outliner.Outcome

/-- A store and the front end that reads its sources. -/
structure Outliner where
  store : Store
  frontEnd : FrontEnd

namespace Outliner

variable {m : Type → Type} [Monad m] [FileAccess m]

/-! ## One source -/

/-- Takes the outline of a source and stores it. Gives the number of statements. -/
def outlineSource (outliner : Outliner) (source target : Path) : Action m Nat := do
  let text ← outliner.store.textOf source
  let tree ← ofResult (outliner.frontEnd.parse text)
  Store.storeOutline target tree.outline.write
  return tree.size - 1

/-- Outlines a source, whether it has an outline or not. -/
def outlineAnew (outliner : Outliner) (scope : Scope) (name : String) :
    Action m Outliner.Outcome := do
  let target := outliner.store.outlinePath scope name
  Store.provideDir (outliner.store.outlineFolder scope)
  match ← outliner.store.findSource scope name with
  | none => throw (.sourceNotFound name)
  | some source => return .taken target (← outliner.outlineSource source target)

/-- Outlines a source that has no outline yet. -/
def outlineOnce (outliner : Outliner) (scope : Scope) (name : String) :
    Action m Outliner.Outcome := do
  let segment ← ofResult (Segment.ofFileName name)
  let target := outliner.store.outlinePath scope segment.text
  if ← isFile target then return .known target
  outliner.outlineAnew scope segment.text

/-! ## Many sources -/

/-- Outlines the source of one name of a batch, if it has no outline yet. A name whose source is
missing or unreadable has no record; a source that cannot be outlined has one that says so. -/
def outlineNamed (outliner : Outliner) (scope : Scope) (name : String) :
    Action m (Option SourceRecord) := do
  match ← settle (outliner.store.findSource scope (name ++ ".sql")) with
  | .error _ => return none
  | .ok none => return none
  | .ok (some source) =>
    match ← settle (outliner.store.recordOf source) with
    | .error _ => return none
    | .ok record =>
      let target := outliner.store.outlinePath scope record.fileName
      unless ← isFile target do
        let _ ← settle (outliner.outlineSource source target)
      return some { record with outlined := some (← isFile target) }

/-- Outlines the sources of the names of a batch in turn. -/
def outlineNames (outliner : Outliner) (scope : Scope) :
    List String → Action m (List SourceRecord)
  | [] => return []
  | name :: rest => do
    let record ← outliner.outlineNamed scope name
    return record.toList ++ (← outlineNames outliner scope rest)

/-- Outlines a batch of sources by their names without the extension. -/
def outlineBatch (outliner : Outliner) (scope : Scope) (names : List String) :
    Action m (List SourceRecord) := do
  Store.provideDir (outliner.store.outlineFolder scope)
  outliner.outlineNames scope names

/-- Outlines files in turn, whether they have outlines or not. -/
def outlineFiles (outliner : Outliner) (scope : Scope) : List Path → Action m (List SourceRecord)
  | [] => return []
  | path :: rest => do
    let record ← outliner.store.recordOf path
    let target := outliner.store.outlinePath scope record.fileName
    let outcome ← settle (outliner.outlineSource path target)
    return { record with outlined := some outcome.isOk } :: (← outlineFiles outliner scope rest)

/-- Outlines every `.sql` file among the plain sources of a scope. -/
def outlineAll (outliner : Outliner) (scope : Scope) : Action m (List SourceRecord) := do
  let dir := outliner.store.folder scope .source
  unless ← isDirectory dir do
    throw (.sourceDirectoryMissing dir)
  Store.provideDir (outliner.store.outlineFolder scope)
  let files ← Store.sqlFilesIn dir
  if files.isEmpty then throw (.noSources dir)
  outliner.outlineFiles scope files

end Outliner

end DmlOutline
