import DmlOutline.Proofs.KeptSources
import Mathlib

/-!
# Stored outlines as a memory

A stored outline is all that is remembered of a source, and its place is the base of a name. So it
is the outline of some source with that base, and of the one that a name means when no other source
shares the base.

* `Outliner.Request`, `Outliner.after` — requests in a scope, and the disk after them.
* `Outliner.Reflects` — a file holds the outline of another one.
* `Outliner.Coherent` — every stored outline is that of a stored source, kept by every change.
* `Store.SharesOutline` — a source whose outline is kept in the place of that of a name.

Principal results: `Outliner.coherent_after`, `Outliner.outlineOnce_reflects`.
-/

namespace DmlOutline

open Disk

variable {disk next : Disk} {name : String} {source : Path} {content : ByteArray}
  {outliner : Outliner} {scope : Scope}

namespace Outliner

/-! ## Requests -/

/-- A request in a scope. -/
inductive Request where
  /-- A source is to be stored. -/
  | add (name : String) (content : ByteArray)
  /-- A source is to be outlined, if it is not yet. -/
  | once (name : String)
  /-- A source is to be outlined. -/
  | anew (name : String)
  /-- Sources are to be outlined, those that are not yet. -/
  | batch (names : List String)
  /-- All plain sources are to be outlined. -/
  | all

/-- Does what a request asks for. The answer is left out. -/
def perform {m : Type → Type} [Monad m] [FileAccess m] (outliner : Outliner) (scope : Scope) :
    Request → Action m Unit
  | .add name content => do
    let _ ← outliner.store.add scope name content
  | .once name => do
    let _ ← outliner.outlineOnce scope name
  | .anew name => do
    let _ ← outliner.outlineAnew scope name
  | .batch names => do
    let _ ← outliner.outlineBatch scope names
  | .all => do
    let _ ← outliner.outlineAll scope

/-- The disk after requests in turn, whether they succeed or not. -/
def after (outliner : Outliner) (scope : Scope) (disk : Disk) : List Request → Disk
  | [] => disk
  | request :: rest => outliner.after scope (disk.run (outliner.perform scope request)).2 rest

/-- Every request is a chain of changes. -/
theorem changes_perform (hnamed : outliner.store.SourcesNamed scope disk) (request : Request) :
    Changes outliner scope disk (disk.run (outliner.perform scope request)).2 := by
  cases request with
  | add name content => exact changes_bind_pure (changes_add disk name content)
  | once name => exact changes_bind_pure (changes_outlineOnce hnamed name)
  | anew name => exact changes_bind_pure (changes_outlineAnew hnamed name)
  | batch names => exact changes_bind_pure (changes_outlineBatch hnamed names)
  | all => exact changes_bind_pure (changes_outlineAll hnamed)

/-- **Requests in turn are a chain of changes.** -/
theorem changes_after (hnamed : outliner.store.SourcesNamed scope disk)
    (requests : List Request) :
    Changes outliner scope disk (outliner.after scope disk requests) := by
  induction requests generalizing disk with
  | nil => exact .refl
  | cons request rest ih =>
    have hfirst := changes_perform hnamed request
    exact hfirst.trans (ih (hfirst.sourcesNamed hnamed))

/-! ## Outlines of stored sources -/

/-- A file holds the outline of another one. -/
def Reflects (outliner : Outliner) (disk : Disk) (target source : Path) : Prop :=
  ∃ content text, disk.read source = .ok content ∧ outliner.outlineText? content = some text ∧
    disk.read target = .ok text.toUTF8

/-- Reading both files tells whether one holds the outline of the other. -/
theorem reflects_iff {target : Path} : outliner.Reflects disk target source ↔
    ∃ text ∈ (disk.read source).toOption.bind outliner.outlineText?,
      (disk.read target).toOption = some text.toUTF8 := by
  simp only [Reflects, Option.mem_def, Option.bind_eq_some_iff, toOption_eq_some_iff]
  constructor
  · rintro ⟨content, text, hread, htext, hheld⟩
    exact ⟨text, ⟨content, hread, htext⟩, hheld⟩
  · rintro ⟨text, ⟨content, hread, htext⟩, hheld⟩
    exact ⟨content, text, hread, htext, hheld⟩

instance (outliner : Outliner) (disk : Disk) (target source : Path) :
    Decidable (outliner.Reflects disk target source) :=
  decidable_of_iff _ reflects_iff.symm

/-- **No change takes or alters a source.** -/
theorem Change.read_source (h : Change outliner scope disk next)
    (hsource : outliner.store.IsSource scope name source)
    (hread : disk.read source = .ok content) : next.read source = .ok content := by
  obtain ⟨category, hcategory, stored, rfl, hstored, -⟩ := hsource
  have hfile := (read_eq_ok_iff.mp hread).2
  refine h.grows.read hread ?_
  rw [goal_join disk _ hstored] at hfile ⊢
  rcases h.fileAt with hsame | ⟨category', -, name', content', -, hnone, hnew⟩ |
    ⟨name', text, source, content', -, -, -, -, hnew⟩
  · rw [hsame, hfile]
  · rw [hnew, if_neg, hfile]
    intro hplace
    rw [← hplace, hfile] at hnone
    cases hnone
  · rw [hnew, if_neg, hfile]
    intro hplace
    have houtlines : category = .outlines := (Store.folder_entry_inj hplace).1
    rw [houtlines] at hcategory
    exact absurd hcategory (by decide)

/-- Every file among the outlines of a scope is the outline of a stored source, in the place of a
name that may stand for that source. -/
structure Coherent (outliner : Outliner) (scope : Scope) (disk : Disk) : Prop where
  named : outliner.store.SourcesNamed scope disk
  outlined : ∀ file content,
    disk.fileAt (disk.goal (outliner.store.outlineFolder scope) ++ [file]) = some content →
      ∃ name source bytes text, file = FileName.base name ++ ".json" ∧
        outliner.store.IsSource scope name source ∧ disk.read source = .ok bytes ∧
        outliner.outlineText? bytes = some text ∧ content = text.toUTF8

/-- **Every change keeps stored outlines coherent.** -/
theorem Coherent.change (h : Coherent outliner scope disk)
    (hchange : Change outliner scope disk next) : Coherent outliner scope next where
  named := hchange.sourcesNamed h.named
  outlined file content hfile := by
    rw [hchange.grows.goal] at hfile
    have hkept : disk.fileAt (disk.goal (outliner.store.outlineFolder scope) ++ [file]) =
        some content → ∃ name source bytes text, file = FileName.base name ++ ".json" ∧
          outliner.store.IsSource scope name source ∧ next.read source = .ok bytes ∧
          outliner.outlineText? bytes = some text ∧ content = text.toUTF8 := by
      intro hbefore
      obtain ⟨name, source, bytes, text, hname, hsource, hread, htext⟩ :=
        h.outlined file content hbefore
      exact ⟨name, source, bytes, text, hname, hsource, hchange.read_source hsource hread, htext⟩
    rcases hchange.fileAt with hsame | ⟨category, hcategory, name, bytes, -, -, hnew⟩ |
      ⟨name, text, source, bytes, -, hsource, hread, htext, hnew⟩
    · rw [hsame] at hfile
      exact hkept hfile
    · rw [hnew, if_neg] at hfile
      · exact hkept hfile
      · intro hplace
        have houtlines : .outlines = category := (Store.folder_entry_inj hplace).1
        rw [← houtlines] at hcategory
        exact absurd hcategory (by decide)
    · rw [hnew] at hfile
      split at hfile
      · rename_i hplace
        have hname := (Store.folder_entry_inj hplace : Category.outlines = .outlines ∧ _).2
        cases hfile
        have hlater := hchange.read_source hsource hread
        exact ⟨name, source, bytes, text, hname, hsource, hlater, htext, rfl⟩
      · exact hkept hfile

theorem Coherent.changes (h : Coherent outliner scope disk)
    (hchanges : Changes outliner scope disk next) : Coherent outliner scope next := by
  induction hchanges with
  | refl => exact h
  | tail _ hchange ih => exact ih.change hchange

/-- In a scope without files stored outlines are coherent. -/
theorem coherent_of_vacant (h : disk.Vacant (outliner.store.scopeRoot scope)) :
    Coherent outliner scope disk where
  named category _ name content hfile := by
    have hnone := (h.join (Store.isName_folderName category)).fileAt name []
    rw [Store.folder] at hfile
    rw [hnone] at hfile
    cases hfile
  outlined file content hfile := by
    have hnone := (h.join (Store.isName_folderName .outlines)).fileAt file []
    rw [Store.outlineFolder, Store.folder] at hfile
    rw [hnone] at hfile
    cases hfile

theorem vacant_scopeRoot (h : disk.Vacant outliner.store.config.baseDir) (scope : Scope) :
    disk.Vacant (outliner.store.scopeRoot scope) := by
  unfold Store.scopeRoot Scope.dir
  cases scope.project with
  | none => exact h.join scope.session.isName
  | some project => exact (h.join scope.session.isName).join project.isName

/-- **After all requests from an empty directory on, stored outlines are coherent.** -/
theorem coherent_after (h : disk.Vacant outliner.store.config.baseDir) (scope : Scope)
    (requests : List Request) :
    Coherent outliner scope (outliner.after scope disk requests) := by
  have hcoherent := coherent_of_vacant (vacant_scopeRoot h scope)
  exact hcoherent.changes (changes_after hcoherent.named requests)

/-! ## What is known of an outline that was given -/

/-- A source that was outlined has been read, and its outline stored. -/
theorem outlineSource_eq_ok {target : Path} {count : Nat}
    (h : disk.run (outliner.outlineSource source target) = (.ok count, next)) :
    ∃ content text tree, disk.read source = .ok content ∧
      outliner.store.decoder.decode? content = some text ∧
      outliner.frontEnd.parse text = .ok tree ∧ count = tree.size - 1 ∧
      disk.run (Store.storeOutline target tree.outline.write) = (.ok (), next) := by
  rw [outlineSource, run_bind_eq_ok] at h
  obtain ⟨text, reached, htext, h⟩ := h
  obtain ⟨rfl, content, hread, hdecode⟩ := Store.textOf_eq_ok htext
  rw [run_bind_eq_ok] at h
  obtain ⟨tree, same, hresult, h⟩ := h
  obtain ⟨htree, rfl⟩ := Prod.mk.inj hresult
  rw [run_bind_eq_ok] at h
  obtain ⟨value, stored, hstored, h⟩ := h
  cases h
  exact ⟨content, text, tree, hread, hdecode, htree, rfl, hstored⟩

/-- A source that was found is found again after an outline was stored. -/
theorem run_findSource_of_replace {key : String} (hkey : Path.IsName key)
    (hdir : disk.kind? (outliner.store.outlineFolder scope) = some .directory)
    (h : disk.replace (outliner.store.outlinePath scope key) content = .ok next)
    (hfind : disk.run (outliner.store.findSource scope name) = (.ok (some source), disk)) :
    next.run (outliner.store.findSource scope name) = (.ok (some source), next) := by
  have hkept : outliner.store.KeepsSources scope disk next := .of_replace hkey h
  have hsearch := (hkept.agrees_findSource hdir name).result_eq
  rw [hfind] at hsearch
  exact Prod.ext hsearch.symm (Store.reads_findSource _ _ _ next)

/-- **What has been done when a source was outlined anew.** The directory of outlines was provided,
and nothing but the outline was written to the disk that had it. -/
theorem outlineAnew_eq_taken {outcome : Outcome}
    (h : disk.run (outliner.outlineAnew scope name) = (.ok outcome, next)) :
    ∃ provided source content text tree, Path.IsName name ∧
      disk.run (Store.provideDir (outliner.store.outlineFolder scope)) = (.ok (), provided) ∧
      provided.run (outliner.store.findSource scope name) = (.ok (some source), provided) ∧
      provided.read source = .ok content ∧
      outliner.store.decoder.decode? content = some text ∧
      outliner.frontEnd.parse text = .ok tree ∧
      outcome = .taken (outliner.store.outlinePath scope name) (tree.size - 1) ∧
      provided.replace (outliner.store.outlinePath scope name) tree.outline.write.toUTF8 =
        .ok next := by
  rw [outlineAnew, run_bind_eq_ok] at h
  obtain ⟨value, provided, hprovide, h⟩ := h
  rw [run_bind_eq_ok] at h
  obtain ⟨found, same, hfind, h⟩ := h
  obtain rfl := (Store.reads_findSource _ _ _).eq_of_ok hfind
  cases found with
  | none => cases h
  | some source =>
    have hname := Store.isName_of_findSource hfind
    simp only [run_bind_eq_ok] at h
    obtain ⟨count, last, houtline, h⟩ := h
    cases h
    obtain ⟨content, text, tree, hread, hdecode, htree, rfl, hstore⟩ := outlineSource_eq_ok houtline
    obtain ⟨reached, hagain, hreplace⟩ := Store.storeOutline_eq_ok hname hstore
    have hdir := Store.kind?_of_provideDir (Store.isName_folderName .outlines) hprovide
    cases (Store.run_provideDir_of_directory hdir).symm.trans hagain
    exact ⟨same, source, content, text, tree, hname, hprovide, hfind, hread, hdecode, htree, rfl,
      hreplace⟩

/-- **A source that was outlined anew has its outline stored, and can be found again.** -/
theorem outlineAnew_eq_ok {outcome : Outcome}
    (hnamed : outliner.store.SourcesNamed scope disk)
    (h : disk.run (outliner.outlineAnew scope name) = (.ok outcome, next)) :
    (∃ count, outcome = .taken (outliner.store.outlinePath scope name) count) ∧
      ∃ source, outliner.store.IsSource scope name source ∧
        next.run (outliner.store.findSource scope name) = (.ok (some source), next) ∧
        outliner.Reflects next outcome.path source := by
  obtain ⟨provided, source, content, text, tree, hname, hprovide, hfind, hread, hdecode, htree, rfl,
    hreplace⟩ := outlineAnew_eq_taken h
  have hwidens := Store.provideDir_widens disk (outliner.store.outlineFolder scope)
  rw [hprovide] at hwidens
  have hprovided := hnamed.widens hwidens
  have hdir := Store.kind?_of_provideDir (Store.isName_folderName .outlines) hprovide
  have hsource := (isSource_of_findSource hprovided hfind).2
  have htext : outliner.outlineText? content = some tree.outline.write := by
    rw [outlineText?, hdecode]
    simp only [htree]
  have hchange : Change outliner scope provided next :=
    .outlines hname hsource hread htext hreplace
  refine ⟨⟨_, rfl⟩, source, hsource, run_findSource_of_replace hname hdir hreplace hfind, content,
    tree.outline.write, hchange.read_source hsource hread, htext, read_of_replace hreplace⟩

end Outliner

/-- A source whose outline is kept in the place of that of a name. -/
def Store.SharesOutline (store : Store) (scope : Scope) (disk : Disk) (name : String)
    (source : Path) : Prop :=
  ∃ other, FileName.base other = FileName.base name ∧ store.IsSource scope other source ∧
    ∃ content, disk.read source = .ok content

namespace Outliner

/-- What the outline given for a name is worth. -/
theorem outlineOnce_eq_ok {outcome : Outcome} (hcoherent : Coherent outliner scope disk)
    (h : disk.run (outliner.outlineOnce scope name) = (.ok outcome, next)) :
    outcome.path = outliner.store.outlinePath scope name ∧
      ∃ source, outliner.store.SharesOutline scope next name source ∧
        outliner.Reflects next outcome.path source ∧
        (outcome.wasKnown = false →
          next.run (outliner.store.findSource scope name) = (.ok (some source), next)) := by
  rw [outlineOnce, run_bind_eq_ok] at h
  obtain ⟨segment, same, hresult, h⟩ := h
  obtain ⟨hsegment, rfl⟩ := Prod.mk.inj hresult
  obtain rfl := Store.text_of_ofFileName hsegment
  simp only [run_bind_eq_ok, run_isFile] at h
  obtain ⟨found, same, hfile, h⟩ := h
  obtain ⟨hfound, rfl⟩ := Prod.mk.inj hfile
  by_cases hkind : disk.kind? (outliner.store.outlinePath scope segment.text) = some .file
  · have htrue : found = true := by simpa [hkind] using (Except.ok.inj hfound).symm
    rw [htrue, if_pos rfl] at h
    cases h
    refine ⟨rfl, ?_⟩
    obtain ⟨content, hread⟩ := kind?_eq_file_iff.mp hkind
    have hplace := (read_eq_ok_iff.mp hread).2
    rw [Store.goal_outlinePath disk _ _ segment.isName] at hplace
    obtain ⟨name, source, bytes, text, hbase, hsource, hbytes, htext, rfl⟩ :=
      hcoherent.outlined _ _ hplace
    have hshared : FileName.base name = FileName.base segment.text := by
      have htexts := congrArg String.toList hbase
      rw [String.toList_append, String.toList_append] at htexts
      exact (String.toList_inj.mp (List.append_cancel_right htexts)).symm
    exact ⟨source, ⟨name, hshared, hsource, bytes, hbytes⟩, ⟨bytes, text, hbytes, htext, hread⟩,
      fun hknown => by cases hknown⟩
  · have hfalse : found = false := by simpa [hkind] using (Except.ok.inj hfound).symm
    rw [hfalse, if_neg Bool.false_ne_true] at h
    obtain ⟨⟨count, rfl⟩, source, hsource, hsearch, hreflects⟩ :=
      outlineAnew_eq_ok hcoherent.named h
    have ⟨content, _, hread, _⟩ := hreflects
    exact ⟨rfl, source, ⟨segment.text, rfl, hsource, content, hread⟩, hreflects, fun _ => hsearch⟩

/-- **The outline given for a name is that of a stored source with the base of the name.** When it
was taken, that is the source that the name means. When it was known, that is so if no other source
has its outline in the same place. -/
theorem outlineOnce_reflects {outcome : Outcome}
    (hvacant : disk.Vacant outliner.store.config.baseDir) (requests : List Request)
    (h : (outliner.after scope disk requests).run (outliner.outlineOnce scope name) =
      (.ok outcome, next)) :
    outcome.path = outliner.store.outlinePath scope name ∧
      (∃ source, outliner.store.SharesOutline scope next name source ∧
        outliner.Reflects next outcome.path source) ∧
      (outcome.wasKnown = false → ∃ source,
        next.run (outliner.store.findSource scope name) = (.ok (some source), next) ∧
        outliner.Reflects next outcome.path source) ∧
      ∀ source, next.run (outliner.store.findSource scope name) = (.ok (some source), next) →
        (∀ other, outliner.store.SharesOutline scope next name other → other = source) →
        outliner.Reflects next outcome.path source := by
  obtain ⟨hpath, source, hshares, hreflects, hfound⟩ :=
    outlineOnce_eq_ok (coherent_after hvacant scope requests) h
  refine ⟨hpath, ⟨source, hshares, hreflects⟩, fun hnew => ⟨source, hfound hnew, hreflects⟩, ?_⟩
  intro located _ honly
  rw [← honly source hshares]
  exact hreflects

/-! ### Two sources with one base -/

/-- An outliner for scopes in a directory `base`. -/
def inBase : Outliner where
  store := ⟨{ baseDir := ⟨"base"⟩, encodings := [] }⟩
  frontEnd := FrontEnd.dml

/-- A scope without a project. -/
def plainScope : Scope := ⟨⟨"s", by decide⟩, none⟩

/-- A disk with an empty directory `base`. -/
def emptyBase : Disk := ⟨.directory [("base", .directory [])], []⟩

theorem find_emptyBase : emptyBase.find inBase.store.config.baseDir = .ok (.directory []) := rfl

/-- Two sources whose names differ after the base are stored, and the first is outlined. -/
def withOneBase : List Request :=
  [.add "a.sql" "SELECT".toUTF8, .add "a.txt" "".toUTF8, .once "a.sql"]

/-- Once a source is outlined, its outline is known. -/
theorem outlineOnce_reflects_known :
    ∃ next, (inBase.after plainScope emptyBase withOneBase).run
        (inBase.outlineOnce plainScope "a.sql") =
        (.ok (.known ⟨"base/s/analysis/a.json"⟩), next) ∧
      ∃ source, inBase.store.SharesOutline plainScope next "a.sql" source ∧
        inBase.Reflects next ⟨"base/s/analysis/a.json"⟩ source := by
  have hrun : (inBase.after plainScope emptyBase withOneBase).run
      (inBase.outlineOnce plainScope "a.sql") = (.ok (.known ⟨"base/s/analysis/a.json"⟩), _) :=
    run_eq_ok_of_toOption (by decide +kernel)
  have hall := outlineOnce_reflects (vacant_of_find find_emptyBase) withOneBase hrun
  exact ⟨_, hrun, hall.2.1⟩

/-- **The outline given for a name need not be that of the source the name means.** The second of
two sources with one base is given the outline of the first. -/
theorem outlineOnce_stale :
    ¬ ∀ (outliner : Outliner) (scope : Scope) (disk : Disk) (requests : List Request)
      (name : String) (outcome : Outcome) (next : Disk), outliner.frontEnd = FrontEnd.dml →
      disk.find outliner.store.config.baseDir = .ok (.directory []) →
      (outliner.after scope disk requests).run (outliner.outlineOnce scope name) =
        (.ok outcome, next) →
      ∃ source, next.run (outliner.store.findSource scope name) = (.ok (some source), next) ∧
        outliner.Reflects next outcome.path source := by
  intro hall
  obtain ⟨source, hsource, hreflects⟩ := hall inBase plainScope emptyBase withOneBase "a.txt"
    (.known ⟨"base/s/analysis/a.json"⟩) _ rfl find_emptyBase
    (run_eq_ok_of_toOption (by decide +kernel))
  have hfound : some (some ⟨"base/s/src/a.txt"⟩) = some (some source) :=
    .trans (by decide +kernel) (congrArg (fun result => result.1.toOption) hsource)
  obtain rfl := Option.some.inj (Option.some.inj hfound)
  revert hreflects
  decide +kernel

end Outliner

end DmlOutline
