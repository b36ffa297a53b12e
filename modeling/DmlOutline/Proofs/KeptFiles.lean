import DmlOutline.Proofs.OutlineCache
import DmlOutline.Proofs.SameTrees

/-!
# Files that are kept

Whatever is asked for, in whatever scopes and in whatever order, files are made where there were
none, and outlines are replaced by outlines. So no file is ever gone, and a source stays what it was
when it was stored. A scope may be named as a category is: its directories are then beside those of
sources, and its outlines are among outlines still.

* `Outliner.Call`, `Outliner.answer` — what can be asked for in a scope, and the answer.
* `Outliner.afterCalls` — the disk after calls in any scopes.
* `Disk.FilesNamed` — disks whose files bear names.
* `Store.Keeps` — a disk that has all files of another one, and the same sources.

Principal results: `Outliner.Change.keeps`: what one change keeps;
`Outliner.afterCalls_keeps_files`: what all calls keep.
-/

namespace DmlOutline

open Disk

variable {disk next : Disk} {outliner : Outliner} {scope : Scope}

namespace Outliner

/-! ## Calls -/

/-- What can be asked for in a scope. -/
inductive Call where
  /-- A source is to be stored. -/
  | add (name : String) (content : ByteArray)
  /-- A source is to be outlined, if it is not yet. -/
  | once (name : String)
  /-- A source is to be outlined. -/
  | anew (name : String)
  /-- Sources are to be outlined, those that are not yet. -/
  | batch (names : List String)
  /-- All plain sources are to be outlined. -/
  | all
  /-- A source is to be found. -/
  | find (name : String)
  /-- The sources that declare a unit are to be found. -/
  | declaring (unitName : String)
  /-- An outline is to be loaded. -/
  | load (name : String)

/-- What a call gives. -/
inductive Answer where
  | record (record : SourceRecord)
  | records (records : List SourceRecord)
  | outcome (outcome : Outcome)
  | source (path : Option Path)
  | outline (outline : Option Outline)

/-- Does what a call asks for. -/
def answer {m : Type → Type} [Monad m] [FileAccess m] (outliner : Outliner) (scope : Scope) :
    Call → Action m Answer
  | .add name content => return .record (← outliner.store.add scope name content)
  | .once name => return .outcome (← outliner.outlineOnce scope name)
  | .anew name => return .outcome (← outliner.outlineAnew scope name)
  | .batch names => return .records (← outliner.outlineBatch scope names)
  | .all => return .records (← outliner.outlineAll scope)
  | .find name => return .source (← outliner.store.findSource scope name)
  | .declaring unitName => return .records (← outliner.store.declaring scope unitName)
  | .load name => return .outline (← outliner.store.loadOutline scope name)

/-- The disk after calls in turn, each in its scope, whether they succeed or not. -/
def afterCalls (outliner : Outliner) (disk : Disk) : List (Scope × Call) → Disk
  | [] => disk
  | (scope, call) :: rest => outliner.afterCalls (disk.run (outliner.answer scope call)).2 rest

theorem afterCalls_append (disk : Disk) (earlier later : List (Scope × Call)) :
    outliner.afterCalls disk (earlier ++ later) =
      outliner.afterCalls (outliner.afterCalls disk earlier) later := by
  induction earlier generalizing disk with
  | nil => rfl
  | cons first rest ih => exact ih _

/-- Every call is a chain of changes. -/
theorem changes_answer (hnamed : outliner.store.SourcesNamed scope disk) (call : Call) :
    Changes outliner scope disk (disk.run (outliner.answer scope call)).2 := by
  cases call with
  | add name content => exact changes_bind_pure (changes_add disk name content)
  | once name => exact changes_bind_pure (changes_outlineOnce hnamed name)
  | anew name => exact changes_bind_pure (changes_outlineAnew hnamed name)
  | batch names => exact changes_bind_pure (changes_outlineBatch hnamed names)
  | all => exact changes_bind_pure (changes_outlineAll hnamed)
  | find name =>
    exact changes_bind_pure (changes_of_reads (Store.reads_findSource _ _ name) disk)
  | declaring unitName =>
    exact changes_bind_pure (changes_of_reads (Store.reads_declaring _ _ unitName) disk)
  | load name =>
    exact changes_bind_pure (changes_of_reads (Store.reads_loadOutline _ _ name) disk)

end Outliner

/-! ## Files that bear names -/

/-- Every file of a disk bears a name. -/
def Disk.FilesNamed (disk : Disk) : Prop :=
  ∀ place name content, disk.fileAt (place ++ [name]) = some content → Path.IsName name

theorem Disk.filesNamed_of_named (h : disk.root.Named) : disk.FilesNamed := by
  intro place name content hfile
  have hnames := (h.get? (FileTree.fileAt_eq_some_iff.mp hfile)).2
  exact hnames name (by simp)

theorem Disk.FilesNamed.sourcesNamed (h : disk.FilesNamed) (store : Store) (scope : Scope) :
    store.SourcesNamed scope disk :=
  fun _ _ name content hfile => h _ name content hfile

theorem Outliner.Change.filesNamed (h : Change outliner scope disk next)
    (hnamed : disk.FilesNamed) : next.FilesNamed := by
  intro place name content hfile
  rcases h.fileAt with hsame | ⟨category, -, name', content', hname', -, hnew⟩ |
    ⟨name', text, source, content', hname', -, -, -, hnew⟩
  · rw [hsame] at hfile
    exact hnamed place name content hfile
  · rw [hnew] at hfile
    split at hfile
    · rename_i hplace
      rw [List.head_eq_of_cons_eq (List.append_inj' hplace rfl).2]
      exact hname'
    · exact hnamed place name content hfile
  · rw [hnew] at hfile
    split at hfile
    · rename_i hplace
      rw [List.head_eq_of_cons_eq (List.append_inj' hplace rfl).2]
      exact Store.isName_outline hname'
    · exact hnamed place name content hfile

/-! ## What changes keep -/

/-- A disk that has all files of another one, and the same sources in every scope. -/
structure Store.Keeps (store : Store) (disk next : Disk) : Prop extends Grows disk next where
  stays : ∀ place content, disk.fileAt place = some content →
    ∃ later, next.fileAt place = some later
  sources : ∀ (scope : Scope), ∀ category ∈ Category.sources, ∀ name content,
    disk.fileAt (disk.goal (store.folder scope category) ++ [name]) = some content →
      next.fileAt (disk.goal (store.folder scope category) ++ [name]) = some content

theorem Store.Keeps.refl (store : Store) (disk : Disk) : store.Keeps disk disk :=
  ⟨.refl disk, fun _ content h => ⟨content, h⟩, fun _ _ _ _ _ h => h⟩

theorem Store.Keeps.trans {store : Store} {last : Disk} (h : store.Keeps disk next)
    (hnext : store.Keeps next last) : store.Keeps disk last where
  toGrows := h.toGrows.trans hnext.toGrows
  stays place content hfile := by
    obtain ⟨later, hlater⟩ := h.stays place content hfile
    exact hnext.stays place later hlater
  sources scope category hcategory name content hfile := by
    have hlater := h.sources scope category hcategory name content hfile
    rw [← h.goal] at hlater ⊢
    exact hnext.sources scope category hcategory name content hlater

namespace Outliner

/-- **A change keeps all files, and the sources of all scopes.** An outline is put among outlines,
and in no scope are these where sources are. -/
theorem Change.keeps (h : Change outliner scope disk next) : outliner.store.Keeps disk next := by
  refine ⟨h.grows, fun place content hfile => ?_,
    fun scope' category hcategory name content hfile => ?_⟩
  · rcases h.fileAt with hsame | ⟨_, -, _, stored, -, -, hnew⟩ | ⟨_, text, _, _, -, -, -, -, hnew⟩
    · exact ⟨content, by rw [hsame, hfile]⟩
    · rw [hnew]
      split
      · exact ⟨stored, rfl⟩
      · exact ⟨content, hfile⟩
    · rw [hnew]
      split
      · exact ⟨text.toUTF8, rfl⟩
      · exact ⟨content, hfile⟩
  · rcases h.fileAt with hsame | ⟨category', -, name', _, -, hfree, hnew⟩ |
      ⟨name', _, _, _, -, -, -, -, hnew⟩
    · rw [hsame, hfile]
    · -- a source is stored where there was none
      have hother : disk.goal (outliner.store.folder scope' category) ++ [name] ≠
          disk.goal (outliner.store.folder scope category') ++ [name'] := by
        intro hplace
        rw [hplace, hfree] at hfile
        cases hfile
      rw [hnew, if_neg hother, hfile]
    · have hother : disk.goal (outliner.store.folder scope' category) ++ [name] ≠
          disk.goal (outliner.store.outlineFolder scope) ++ [FileName.base name' ++ ".json"] := by
        intro hplace
        have houtlines : category = .outlines := (Store.folder_entry_inj hplace).1
        rw [houtlines] at hcategory
        exact absurd hcategory (by decide)
      rw [hnew, if_neg hother, hfile]

/-- Changes keep the files, and that these bear names. -/
theorem Changes.keeps (h : Changes outliner scope disk next) (hnamed : disk.FilesNamed) :
    outliner.store.Keeps disk next ∧ next.FilesNamed := by
  induction h with
  | refl => exact ⟨.refl _ disk, hnamed⟩
  | tail _ hchange ih => exact ⟨ih.1.trans hchange.keeps, hchange.filesNamed ih.2⟩

/-- Calls in any scopes keep the files, and that these bear names. -/
theorem keeps_afterCalls (outliner : Outliner) (hnamed : disk.FilesNamed)
    (calls : List (Scope × Call)) :
    outliner.store.Keeps disk (outliner.afterCalls disk calls) ∧
      (outliner.afterCalls disk calls).FilesNamed := by
  induction calls generalizing disk with
  | nil => exact ⟨.refl _ disk, hnamed⟩
  | cons first rest ih =>
    obtain ⟨scope, call⟩ := first
    have hchanges := changes_answer (hnamed.sourcesNamed outliner.store scope) call
    obtain ⟨hkeeps, hnamed⟩ := hchanges.keeps hnamed
    obtain ⟨hrest, hnamed⟩ := ih hnamed
    exact ⟨hkeeps.trans hrest, hnamed⟩

/-- **Whatever is asked for, no file is gone later, and a source keeps its bytes.** That holds for
calls in any scopes, whether they succeed or not. -/
theorem afterCalls_keeps_files (hnamed : disk.FilesNamed) (earlier later : List (Scope × Call)) :
    (∀ place content, (outliner.afterCalls disk earlier).fileAt place = some content →
      ∃ content', (outliner.afterCalls disk (earlier ++ later)).fileAt place = some content') ∧
      ∀ (scope : Scope), ∀ category ∈ Category.sources, ∀ name content,
        (outliner.afterCalls disk earlier).fileAt
            (disk.goal (outliner.store.folder scope category) ++ [name]) = some content →
          (outliner.afterCalls disk (earlier ++ later)).fileAt
            (disk.goal (outliner.store.folder scope category) ++ [name]) = some content := by
  obtain ⟨hfirst, hnamed⟩ := keeps_afterCalls outliner hnamed earlier
  obtain ⟨hrest, -⟩ := keeps_afterCalls outliner hnamed later
  rw [afterCalls_append]
  refine ⟨hrest.stays, ?_⟩
  intro scope category hcategory name content hfile
  rw [← hfirst.goal] at hfile ⊢
  exact hrest.sources scope category hcategory name content hfile

/-! ### Outlines beside sources -/

/-- A scope whose directory is that of the sources of another one. -/
def amongSources : Scope := ⟨plainScope.session, some ⟨"src", by decide⟩⟩

/-- Another source is stored under the name of one, in a scope among the sources and in the same
scope, and all are outlined. -/
def addedAgain : List (Scope × Call) :=
  [(amongSources, .add "a.sql" "".toUTF8), (plainScope, .add "a.sql" "".toUTF8),
    (amongSources, .anew "a.sql"), (plainScope, .batch ["a"])]

/-- The source that was stored first stays. -/
theorem afterCalls_keeps_files_among :
    emptyBase.FilesNamed ∧
      (inBase.afterCalls emptyBase
        ([(plainScope, .add "a.sql" "SELECT".toUTF8)] ++ addedAgain)).fileAt
          ["base", "s", "src", "a.sql"] = some "SELECT".toUTF8 := by
  have hnamed : emptyBase.FilesNamed := by
    refine filesNamed_of_named ?_
    simp only [emptyBase, FileTree.Named, FileTree.EntriesNamed, FileTree.EntryNamed]
    decide
  have hkept := @afterCalls_keeps_files emptyBase inBase hnamed
    [(plainScope, .add "a.sql" "SELECT".toUTF8)] addedAgain
  have hsource := hkept.2 plainScope .source (by decide) "a.sql" "SELECT".toUTF8
  exact ⟨hnamed, hsource (by decide +kernel)⟩

end Outliner

end DmlOutline
