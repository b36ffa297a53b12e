import DmlOutline.Outliner
import DmlOutline.Proofs.StoreWrites
import Mathlib.Logic.Relation

/-!
# What requests change

All that requests in a scope do to a disk is a chain of three changes: directories are made, a
source is stored under a name that was free, and the outline of a source is stored.

* `Outliner.outlineText?` — what is stored as the outline of a file.
* `Outliner.Change` — one such change; `Outliner.Changes` — a chain of them.

Principal results: `Outliner.Change.fileAt`: what a change does to the files;
`Outliner.changes_add`, `Outliner.changes_outlineAnew`, `Outliner.changes_outlineBatch`,
`Outliner.changes_outlineAll`: what requests do.
-/

namespace DmlOutline

open Disk

namespace Outliner

variable {disk next : Disk} {name : String} {content : ByteArray}

/-! ## Changes -/

/-- What is stored as the outline of a file, if it can be read. -/
def outlineText? (outliner : Outliner) (content : ByteArray) : Option String :=
  match outliner.store.decoder.decode? content with
  | none => none
  | some text =>
    match outliner.frontEnd.parse text with
    | .error _ => none
    | .ok tree => some tree.outline.write

/-- A change that a request in a scope makes to a disk. -/
inductive Change (outliner : Outliner) (scope : Scope) (disk : Disk) : Disk → Prop where
  /-- The directory of a category is provided, as far as that is possible. -/
  | provides (category : Category) :
    Change outliner scope disk (disk.run (Store.provideDir (outliner.store.folder scope category))).2
  /-- A source is stored under a name that was free, where sources with such names belong. -/
  | stores {next : Disk} {name : String} {content : ByteArray} (hname : Path.IsName name)
    (h : disk.create (outliner.store.folder scope (.ofName name) / name) content = .ok next) :
    Change outliner scope disk next
  /-- The outline of a source is stored. -/
  | outlines {next : Disk} {name text : String} {source : Path} {content : ByteArray}
    (hname : Path.IsName name) (hsource : outliner.store.IsSource scope name source)
    (hread : disk.read source = .ok content) (htext : outliner.outlineText? content = some text)
    (h : disk.replace (outliner.store.outlinePath scope name) text.toUTF8 = .ok next) :
    Change outliner scope disk next

/-- Changes one after the other. -/
def Changes (outliner : Outliner) (scope : Scope) : Disk → Disk → Prop :=
  Relation.ReflTransGen (Change outliner scope)

variable {outliner : Outliner} {scope scope' : Scope}

/-- No change takes a directory away. -/
theorem Change.grows (h : Change outliner scope disk next) : disk.Grows next := by
  cases h with
  | provides category => exact (Store.provideDir_widens disk _).toGrows
  | stores _ h => exact (create_eq_ok h).1.grows
  | outlines _ _ _ _ h => exact (replace_eq_ok h).1.grows

/-- **A change to the files is a new source or an outline.** -/
theorem Change.fileAt (h : Change outliner scope disk next) :
    (∀ place, next.fileAt place = disk.fileAt place) ∨
      (∃ category ∈ Category.sources, ∃ name content, Path.IsName name ∧
        disk.fileAt (disk.goal (outliner.store.folder scope category) ++ [name]) = none ∧
        ∀ place, next.fileAt place =
          if place = disk.goal (outliner.store.folder scope category) ++ [name] then some content
          else disk.fileAt place) ∨
      ∃ name text source content, Path.IsName name ∧
        outliner.store.IsSource scope name source ∧ disk.read source = .ok content ∧
        outliner.outlineText? content = some text ∧
        ∀ place, next.fileAt place =
          if place = disk.goal (outliner.store.outlineFolder scope) ++
            [FileName.base name ++ ".json"] then some text.toUTF8
          else disk.fileAt place := by
  cases h with
  | provides category => exact .inl (Store.provideDir_widens disk _).fileAt
  | @stores _ name content hname h =>
    obtain ⟨hputs, hnone, -⟩ := create_eq_ok h
    rw [goal_join disk _ hname] at hnone
    have hcategory := Category.ofName_mem_sources name
    refine .inr (.inl ⟨_, hcategory, name, content, hname, ?_, fun place => ?_⟩)
    · rw [Disk.fileAt, FileTree.fileAt, hnone]
    · rw [hputs.fileAt_file, goal_join disk _ hname]
  | @outlines _ name text source content hname hsource hread htext h =>
    obtain ⟨hputs, -⟩ := replace_eq_ok h
    refine .inr (.inr ⟨name, text, source, content, hname, hsource, hread, htext, fun place => ?_⟩)
    rw [hputs.fileAt_file, Store.goal_outlinePath disk _ _ hname]

/-- The files among the sources of any scope keep bearing names. -/
theorem Change.sourcesNamed (h : Change outliner scope disk next)
    (hnamed : outliner.store.SourcesNamed scope' disk) :
    outliner.store.SourcesNamed scope' next := by
  intro category hcategory name content hfile
  rw [h.grows.goal] at hfile
  rcases h.fileAt with hsame | ⟨category', -, name', content', hname', -, hnew⟩ |
    ⟨name', text, source, content', -, -, -, -, hnew⟩
  · rw [hsame] at hfile
    exact hnamed category hcategory name content hfile
  · rw [hnew] at hfile
    split at hfile
    · rename_i hplace
      rw [(Store.folder_entry_inj hplace).2]
      exact hname'
    · exact hnamed category hcategory name content hfile
  · rw [hnew] at hfile
    split at hfile
    · rename_i hplace
      have houtlines : category = .outlines := (Store.folder_entry_inj hplace).1
      rw [houtlines] at hcategory
      exact absurd hcategory (by decide)
    · exact hnamed category hcategory name content hfile

namespace Changes

theorem trans {last : Disk} (h : Changes outliner scope disk next)
    (hnext : Changes outliner scope next last) : Changes outliner scope disk last :=
  Relation.ReflTransGen.trans h hnext

theorem sourcesNamed (h : Changes outliner scope disk next)
    (hnamed : outliner.store.SourcesNamed scope' disk) :
    outliner.store.SourcesNamed scope' next := by
  induction h with
  | refl => exact hnamed
  | tail _ hchange ih => exact hchange.sourcesNamed ih

end Changes

/-! ## Requests -/

section Bind

variable {α β : Type} {action : Action (StateM Disk) α} {more : α → Action (StateM Disk) β}

theorem changes_of_reads (h : Reads action) (disk : Disk) :
    Changes outliner scope disk (disk.run action).2 := by
  rw [h disk]
  exact .refl

/-- Changes go on where the action before them succeeded, and sources bear names there as well. -/
theorem changes_bind (hnamed : outliner.store.SourcesNamed scope disk)
    (haction : Changes outliner scope disk (disk.run action).2)
    (hmore : ∀ a next, disk.run action = (.ok a, next) →
      outliner.store.SourcesNamed scope next →
      Changes outliner scope next (next.run (more a)).2) :
    Changes outliner scope disk (disk.run (action >>= more)).2 := by
  refine run_bind_rel Changes.trans haction ?_
  intro a next hrun
  rw [hrun] at haction
  exact hmore a next hrun (haction.sourcesNamed hnamed)

/-- After an action that reads, changes begin on the same disk. -/
theorem changes_bind_reads (hreads : Reads action)
    (hmore : ∀ a, disk.run action = (.ok a, disk) →
      Changes outliner scope disk (disk.run (more a)).2) :
    Changes outliner scope disk (disk.run (action >>= more)).2 := by
  refine run_bind_rel Changes.trans (changes_of_reads hreads disk) ?_
  intro a next hrun
  obtain rfl := hreads.eq_of_ok hrun
  exact hmore a hrun

/-- What only makes something of a result changes nothing more. -/
theorem changes_bind_pure {finish : α → β}
    (haction : Changes outliner scope disk (disk.run action).2) :
    Changes outliner scope disk (disk.run (action >>= fun a => pure (finish a))).2 :=
  run_bind_rel Changes.trans haction fun _ _ _ => .refl

end Bind

theorem changes_provideDir (disk : Disk) (category : Category) :
    Changes outliner scope disk
      (disk.run (Store.provideDir (outliner.store.folder scope category))).2 :=
  .single (.provides category)

/-- Storing a source is a chain of changes. -/
theorem changes_add (disk : Disk) (name : String) (content : ByteArray) :
    Changes outliner scope disk (disk.run (outliner.store.add scope name content)).2 := by
  unfold Store.add
  refine changes_bind_reads (.ofResult _) ?_
  intro segment _
  refine run_bind_rel Changes.trans (changes_provideDir disk _) ?_
  intro _ provided _
  refine run_bind_rel Changes.trans ?_ fun _ stored _ =>
    changes_of_reads (Store.reads_recordOf _ _) stored
  rcases Store.createOnce_cases provided (outliner.store.folderFor scope (some segment.text))
      segment.text content with hsame | ⟨hname, hcreate⟩
  · rw [hsame]
    exact .refl
  · exact .single (.stores hname hcreate)

/-- Outlining a source for a name that it may stand for is a chain of changes. -/
theorem changes_outlineSource {source : Path} (hname : Path.IsName name)
    (hsource : outliner.store.IsSource scope name source) (disk : Disk) :
    Changes outliner scope disk
      (disk.run (outliner.outlineSource source (outliner.store.outlinePath scope name))).2 := by
  unfold outlineSource
  refine changes_bind_reads (Store.reads_textOf _ _) ?_
  intro text htext
  obtain ⟨-, content, hread, hdecode⟩ := Store.textOf_eq_ok htext
  refine changes_bind_reads (.ofResult _) ?_
  intro tree hresult
  have htree : outliner.frontEnd.parse text = .ok tree := (Prod.mk.inj hresult).1
  have houtline : outliner.outlineText? content = some tree.outline.write := by
    rw [outlineText?, hdecode]
    simp only [htree]
  refine changes_bind_pure ?_
  have hprovides : Changes outliner scope disk
      (disk.run (Store.provideDir (outliner.store.outlineFolder scope))).2 :=
    changes_provideDir disk .outlines
  have hwidens := Store.provideDir_widens disk (outliner.store.outlineFolder scope)
  rw [Store.run_storeOutline disk outliner.store scope hname]
  cases hprovide : disk.run (Store.provideDir (outliner.store.outlineFolder scope)) with
  | mk result provided =>
    rw [hprovide] at hprovides hwidens
    cases result with
    | error error => exact hprovides
    | ok value =>
      have hagain : provided.read source = .ok content := by
        refine hwidens.toGrows.read hread ?_
        rw [hwidens.fileAt]
        exact (read_eq_ok_iff.mp hread).2
      simp only
      cases hreplace : provided.replace (outliner.store.outlinePath scope name)
          tree.outline.write.toUTF8 with
      | error cause => exact hprovides
      | ok next =>
        exact hprovides.tail (.outlines hname hsource hagain houtline hreplace)

/-- A source that is found is one that the name may stand for. -/
theorem isSource_of_findSource {source : Path} (hnamed : outliner.store.SourcesNamed scope disk)
    (h : disk.run (outliner.store.findSource scope name) = (.ok (some source), next)) :
    Path.IsName name ∧ outliner.store.IsSource scope name source := by
  obtain ⟨-, hname, category, hcategory, stored, content, rfl, hstored, -, hsame⟩ :=
    Store.findSource_eq_ok hnamed h
  exact ⟨hname, category, hcategory, stored, rfl, hstored, hsame⟩

/-- Outlining a source anew is a chain of changes. -/
theorem changes_outlineAnew (hnamed : outliner.store.SourcesNamed scope disk) (name : String) :
    Changes outliner scope disk (disk.run (outliner.outlineAnew scope name)).2 := by
  unfold outlineAnew
  refine changes_bind hnamed (changes_provideDir disk _) ?_
  intro _ provided _ hnamed
  refine changes_bind_reads (Store.reads_findSource _ _ _) ?_
  intro found hfind
  cases found with
  | none => exact .refl
  | some source =>
    obtain ⟨hname, hsource⟩ := isSource_of_findSource hnamed hfind
    exact changes_bind_pure (changes_outlineSource hname hsource provided)

/-- Outlining a source once is a chain of changes. -/
theorem changes_outlineOnce (hnamed : outliner.store.SourcesNamed scope disk) (name : String) :
    Changes outliner scope disk (disk.run (outliner.outlineOnce scope name)).2 := by
  unfold outlineOnce
  refine changes_bind_reads (.ofResult _) ?_
  intro segment _
  refine changes_bind_reads (.isFile _) ?_
  intro found _
  cases found with
  | true => exact .refl
  | false => exact changes_outlineAnew hnamed _

/-- A stored file is one that its own name may stand for. -/
theorem isSource_self {category : Category} {stored : String}
    (hcategory : category ∈ Category.sources) (hstored : Path.IsName stored) :
    outliner.store.IsSource scope stored (outliner.store.folder scope category / stored) :=
  ⟨category, hcategory, stored, rfl, hstored, by simp [Store.sameName]⟩

/-- A source is one that its own name may stand for, and its record bears that name. -/
theorem isSource_of_recordOf {source : Path} {record : SourceRecord}
    (hsource : outliner.store.IsSource scope name source)
    (h : disk.run (outliner.store.recordOf source) = (.ok record, next)) :
    Path.IsName record.fileName ∧ outliner.store.IsSource scope record.fileName source := by
  obtain ⟨category, hcategory, stored, rfl, hstored, -⟩ := hsource
  obtain ⟨-, text, -, rfl⟩ := Store.recordOf_eq_ok hstored h
  exact ⟨hstored, isSource_self hcategory hstored⟩

/-- Outlining a source of a batch is a chain of changes. -/
theorem changes_outlineNamed (hnamed : outliner.store.SourcesNamed scope disk) (name : String) :
    Changes outliner scope disk (disk.run (outliner.outlineNamed scope name)).2 := by
  unfold outlineNamed
  refine changes_bind_reads (Store.reads_findSource _ _ _).settle ?_
  intro found hfind
  match found with
  | .error error => exact .refl
  | .ok none => exact .refl
  | .ok (some source) =>
    obtain ⟨-, hsource⟩ := isSource_of_findSource hnamed (run_of_settle hfind)
    refine changes_bind_reads (Store.reads_recordOf _ _).settle ?_
    intro result hrecord
    cases result with
    | error error => exact .refl
    | ok record =>
      obtain ⟨hname, hsource⟩ := isSource_of_recordOf hsource (run_of_settle hrecord)
      refine changes_bind_reads (.isFile _) ?_
      intro known _
      cases known with
      | true => exact .refl
      | false =>
        have houtline := changes_outlineSource hname hsource disk
        exact run_bind_rel Changes.trans houtline fun _ _ _ => .refl

theorem changes_outlineNames (hnamed : outliner.store.SourcesNamed scope disk)
    (names : List String) :
    Changes outliner scope disk (disk.run (outliner.outlineNames scope names)).2 := by
  induction names generalizing disk with
  | nil => exact .refl
  | cons name rest ih =>
    unfold outlineNames
    refine changes_bind hnamed (changes_outlineNamed hnamed name) ?_
    intro record next _ hnamed
    exact changes_bind_pure (ih hnamed)

/-- **Outlining a batch is a chain of changes.** -/
theorem changes_outlineBatch (hnamed : outliner.store.SourcesNamed scope disk)
    (names : List String) :
    Changes outliner scope disk (disk.run (outliner.outlineBatch scope names)).2 := by
  unfold outlineBatch
  refine changes_bind hnamed (changes_provideDir disk _) ?_
  intro _ provided _ hnamed
  exact changes_outlineNames hnamed names

theorem changes_outlineFiles {paths : List Path}
    (hpaths : ∀ path ∈ paths, ∃ name, outliner.store.IsSource scope name path) (disk : Disk) :
    Changes outliner scope disk (disk.run (outliner.outlineFiles scope paths)).2 := by
  induction paths generalizing disk with
  | nil => exact .refl
  | cons path rest ih =>
    unfold outlineFiles
    obtain ⟨name, hsource⟩ := hpaths path List.mem_cons_self
    refine changes_bind_reads (Store.reads_recordOf _ _) ?_
    intro record hrecord
    obtain ⟨hname, hsource⟩ := isSource_of_recordOf hsource hrecord
    have hsettled : Changes outliner scope disk (disk.run (settle (outliner.outlineSource path
        (outliner.store.outlinePath scope record.fileName)))).2 :=
      changes_outlineSource hname hsource disk
    refine run_bind_rel Changes.trans hsettled ?_
    intro outcome last _
    refine changes_bind_pure (ih ?_ last)
    intro other hother
    exact hpaths other (List.mem_cons_of_mem path hother)

/-- **Outlining all plain sources is a chain of changes.** -/
theorem changes_outlineAll (hnamed : outliner.store.SourcesNamed scope disk) :
    Changes outliner scope disk (disk.run (outliner.outlineAll scope)).2 := by
  unfold outlineAll
  refine changes_bind_reads (.isDirectory _) ?_
  intro found _
  cases found with
  | false => exact .refl
  | true =>
    refine changes_bind hnamed (changes_provideDir disk _) ?_
    intro _ provided _ hnamed
    refine changes_bind_reads (Store.reads_sqlFilesIn _) ?_
    intro files hfiles
    obtain ⟨-, hall⟩ := Store.sqlFilesIn_eq_ok hfiles
    by_cases hempty : files.isEmpty = true
    · rw [if_pos hempty]
      exact .refl
    · rw [if_neg hempty]
      refine changes_outlineFiles ?_ provided
      intro path hpath
      obtain ⟨stored, content, rfl, hfile⟩ := hall path hpath
      have hstored := hnamed .source (by decide) stored content hfile
      exact ⟨stored, isSource_self (by decide) hstored⟩

end Outliner

end DmlOutline
