import DmlOutline.Proofs.AlikeScopes
import DmlOutline.Proofs.KeptFiles

/-!
# Scopes that are isolated

Whatever is asked for in other scopes and in whatever order, what is asked for in a scope is
answered as if nothing else had been asked for. That holds as long as the places of the scopes do
not meet. A project that is named as a category of sources has its directories among the sources of
its session, and there the two get in each other's way.

* `Outliner.answers` — the answers to calls in any scopes.
* `Outliner.Call.Confined` — calls that ask for nothing outside of their scope.

Principal results: `Outliner.together_answer`: what one call gives on disks that are alike;
`Outliner.answers_isolated`: what all calls give.
-/

namespace DmlOutline

open Disk

/-! ## Reading on disks that are alike -/

namespace Store.Alike

variable {store : Store} {scope : Scope} {a b : Disk} {name : String} {source : Path}
  (h : store.Alike scope a b)

include h

theorem agrees_findSource (name : String) : Agrees a b (store.findSource scope name) :=
  Store.agrees_findSource
    (fun _ hcategory name hname =>
      h.kind?_entry hname (Category.lists_of_mem_sources hcategory name))
    (fun category _ => h.names_eq category)

theorem read_isSource (hsource : store.IsSource scope name source) :
    a.read source = b.read source := by
  obtain ⟨category, hcategory, stored, rfl, hstored, -⟩ := hsource
  exact h.read_source hcategory hstored

theorem kind?_outlinePath (hname : Path.IsName name) :
    a.kind? (store.outlinePath scope name) = b.kind? (store.outlinePath scope name) :=
  h.kind?_entry (isName_outline hname) (Category.lists_outline .outlines name)

theorem agrees_loadOutline (hname : Path.IsName name) :
    Agrees a b (store.loadOutline scope name) :=
  Store.agrees_loadOutline (h.kind?_outlinePath hname)
    (h.read_entry (isName_outline hname) (Category.lists_outline .outlines name))

/-- A file that is listed is read as the same. Below it there is a directory on both disks. -/
theorem agrees_declaring (unitName : String) : Agrees a b (store.declaring scope unitName) := by
  refine .bind (agrees_sqlRecords (fun dir hdir => ?_) fun dir hdir name content hfile => ?_)
    fun _ _ => .pure _
  · obtain ⟨category, -, rfl⟩ := List.mem_map.mp hdir
    exact h.names_eq category
  · obtain ⟨category, -, rfl⟩ := List.mem_map.mp hdir
    rw [goal_entry] at hfile
    obtain ⟨hname, hlists⟩ := h.left.listed category name content hfile
    have habove : ∀ {disk : Disk},
        disk.fileAt (disk.goal store.config.baseDir ++ (scope.place category ++ [name])) =
          some content →
        disk.root.DirAt (disk.goal store.config.baseDir ++ scope.place category) := by
      intro disk hfile
      rw [← List.append_assoc] at hfile
      exact FileTree.dirAt_of_get?_append (FileTree.fileAt_eq_some_iff.mp hfile)
    have hfile' := (h.fileAt_entry category name).symm.trans hfile
    have hfind := h.find_entry (iff_of_true (habove hfile) (habove hfile')) hname hlists
    rw [Disk.read, hfind, Disk.read]

end Store.Alike

namespace Outliner

variable {outliner : Outliner} {scope other : Scope} {a b disk next : Disk} {name : String}
  {source : Path}

/-! ## Requests on disks that are alike -/

section Requests

variable (h : outliner.store.Alike scope a b)

include h

theorem together_add (name : String) (content : ByteArray) :
    Together (outliner.store.Alike scope) a b (outliner.store.add scope name content) := by
  unfold Store.add
  refine .bind_agrees (.ofResult _) h ?_
  intro segment _
  have hcategory := Category.ofName_mem_sources segment.text
  have hlists := Category.lists_of_mem_sources hcategory segment.text
  refine (h.provideDir (Category.ofName segment.text)).bind ?_
  intro _ next next' hprovide hprovide' h
  have hdir := Store.kind?_of_provideDir (Store.isName_folderName _) hprovide
  have hdir' := Store.kind?_of_provideDir (Store.isName_folderName _) hprovide'
  refine (h.createOnce hdir hdir' segment hlists content).bind ?_
  intro _ stored stored' _ _ h
  exact .of_agrees (Store.agrees_recordOf (h.read_source hcategory segment.isName)) h

theorem together_outlineSource {stored : String} (hname : Path.IsName name)
    (hsource : outliner.store.IsSource scope stored source) :
    Together (outliner.store.Alike scope) a b
      (outliner.outlineSource source (outliner.store.outlinePath scope name)) := by
  unfold outlineSource
  refine .bind_agrees (Store.agrees_textOf (h.read_isSource hsource)) h ?_
  intro text _
  refine .bind_agrees (.ofResult _) h ?_
  intro tree _
  refine (h.storeOutline hname _).bind ?_
  intro _ _ _ _ _ h
  exact .pure h _

theorem together_outlineAnew (name : String) :
    Together (outliner.store.Alike scope) a b (outliner.outlineAnew scope name) := by
  unfold outlineAnew
  refine (h.provideDir .outlines).bind ?_
  intro _ next next' _ _ h
  refine .bind_agrees (h.agrees_findSource name) h ?_
  intro found hfind
  cases found with
  | none => exact .throw h _
  | some source =>
    obtain ⟨hname, hsource⟩ := isSource_of_findSource h.left.sourcesNamed hfind
    refine (together_outlineSource h hname hsource).bind ?_
    intro _ _ _ _ _ h
    exact .pure h _

theorem together_outlineOnce (name : String) :
    Together (outliner.store.Alike scope) a b (outliner.outlineOnce scope name) := by
  unfold outlineOnce
  refine .bind_agrees (.ofResult _) h ?_
  intro segment _
  refine .bind_agrees (.isFile (h.kind?_outlinePath segment.isName)) h ?_
  intro found _
  cases found with
  | true => exact .pure h _
  | false => exact together_outlineAnew h _

theorem together_outlineNamed (name : String) :
    Together (outliner.store.Alike scope) a b (outliner.outlineNamed scope name) := by
  unfold outlineNamed
  refine .bind_agrees (h.agrees_findSource _).settle h ?_
  intro found hfind
  match found with
  | .error error => exact .pure h _
  | .ok none => exact .pure h _
  | .ok (some source) =>
    obtain ⟨-, hsource⟩ := isSource_of_findSource h.left.sourcesNamed (run_of_settle hfind)
    refine .bind_agrees (Store.agrees_recordOf (h.read_isSource hsource)).settle h ?_
    intro result hrecord
    cases result with
    | error error => exact .pure h _
    | ok record =>
      obtain ⟨hname, hsource⟩ := isSource_of_recordOf hsource (run_of_settle hrecord)
      have hfinish : ∀ {a b : Disk}, outliner.store.Alike scope a b →
          Together (outliner.store.Alike scope) a b (do
            let outlined ← isFile (outliner.store.outlinePath scope record.fileName)
            return some { record with outlined := some outlined } :
              Action (StateM Disk) (Option SourceRecord)) := fun h =>
        .bind_agrees (.isFile (h.kind?_outlinePath hname)) h fun _ _ => .pure h _
      refine .bind_agrees (.isFile (h.kind?_outlinePath hname)) h ?_
      intro known _
      cases known with
      | true => exact hfinish h
      | false =>
        refine (together_outlineSource h hname hsource).settle.bind ?_
        intro _ _ _ _ _ h
        exact hfinish h

theorem together_outlineNames (names : List String) :
    Together (outliner.store.Alike scope) a b (outliner.outlineNames scope names) := by
  induction names generalizing a b with
  | nil => exact .pure h _
  | cons name rest ih =>
    refine (together_outlineNamed h name).bind ?_
    intro record _ _ _ _ h
    refine (ih h).bind ?_
    intro _ _ _ _ _ h
    exact .pure h _

theorem together_outlineBatch (names : List String) :
    Together (outliner.store.Alike scope) a b (outliner.outlineBatch scope names) := by
  unfold outlineBatch
  refine (h.provideDir .outlines).bind ?_
  intro _ _ _ _ _ h
  exact together_outlineNames h names

theorem together_outlineFiles {paths : List Path}
    (hpaths : ∀ path ∈ paths, ∃ name, outliner.store.IsSource scope name path) :
    Together (outliner.store.Alike scope) a b (outliner.outlineFiles scope paths) := by
  induction paths generalizing a b with
  | nil => exact .pure h _
  | cons path rest ih =>
    obtain ⟨name, hsource⟩ := hpaths path List.mem_cons_self
    refine .bind_agrees (Store.agrees_recordOf (h.read_isSource hsource)) h ?_
    intro record hrecord
    obtain ⟨hname, hsource⟩ := isSource_of_recordOf hsource hrecord
    refine (together_outlineSource h hname hsource).settle.bind ?_
    intro outcome _ _ _ _ h
    refine (ih h fun other hother => hpaths other (List.mem_cons_of_mem path hother)).bind ?_
    intro _ _ _ _ _ h
    exact .pure h _

theorem together_outlineAll :
    Together (outliner.store.Alike scope) a b (outliner.outlineAll scope) := by
  unfold outlineAll
  refine .bind_agrees (.isDirectory (h.isDirectory_iff (by decide))) h ?_
  intro found _
  cases found with
  | false => exact .throw h _
  | true =>
    refine (h.provideDir .outlines).bind ?_
    intro _ next next' _ _ h
    refine .bind_agrees (Store.agrees_sqlFilesIn (h.names_eq .source)) h ?_
    intro files hfiles
    obtain ⟨-, hall⟩ := Store.sqlFilesIn_eq_ok hfiles
    by_cases hempty : files.isEmpty = true
    · rw [if_pos hempty]
      exact .throw h _
    · rw [if_neg hempty]
      refine together_outlineFiles h ?_
      intro path hpath
      obtain ⟨stored, content, rfl, hfile⟩ := hall path hpath
      have hstored := h.left.sourcesNamed .source (by decide) stored content hfile
      exact ⟨stored, isSource_self (by decide) hstored⟩

end Requests

/-! ## Calls -/

/-- A call that asks for nothing outside of its scope: an outline is loaded by the name of a
file. -/
def Call.Confined : Call → Prop
  | .load name => Path.IsName name
  | _ => True

instance : DecidablePred Call.Confined
  | .load name => inferInstanceAs (Decidable (Path.IsName name))
  | .add .. | .once _ | .anew _ | .batch _ | .all | .find _ | .declaring _ => .isTrue trivial

/-- The answers to calls in turn, each with its scope. -/
def answers (outliner : Outliner) (disk : Disk) :
    List (Scope × Call) → List (Scope × Except Error Answer)
  | [] => []
  | (scope, call) :: rest =>
    (scope, (disk.run (outliner.answer scope call)).1) ::
      outliner.answers (disk.run (outliner.answer scope call)).2 rest

/-- **A call gives the same on disks that are alike for its scope, and keeps them alike.** -/
theorem together_answer (h : outliner.store.Alike scope a b) {call : Call}
    (hcall : call.Confined) :
    Together (outliner.store.Alike scope) a b (outliner.answer scope call) := by
  have hfinish : ∀ {α : Type} {action : Action (StateM Disk) α} {finish : α → Answer},
      Together (outliner.store.Alike scope) a b action →
        Together (outliner.store.Alike scope) a b (action >>= fun value => pure (finish value)) :=
    fun h => h.bind fun _ _ _ _ _ h => .pure h _
  cases call with
  | add name content => exact hfinish (together_add h name content)
  | once name => exact hfinish (together_outlineOnce h name)
  | anew name => exact hfinish (together_outlineAnew h name)
  | batch names => exact hfinish (together_outlineBatch h names)
  | all => exact hfinish (together_outlineAll h)
  | find name => exact hfinish (.of_agrees (h.agrees_findSource name) h)
  | declaring unitName => exact hfinish (.of_agrees (h.agrees_declaring unitName) h)
  | load name => exact hfinish (.of_agrees (h.agrees_loadOutline hcall) h)

/-- What is done in another scope on one of the disks keeps them alike. -/
theorem Changes.alike (hchanges : Changes outliner other disk next)
    (hisolated : scope.Isolated other) (h : outliner.store.Alike scope disk b) :
    outliner.store.Alike scope next b := by
  induction hchanges with
  | refl => exact h
  | tail _ hchange ih => exact ih.change hisolated hchange

/-- In a base directory with nothing in it files are where they belong. -/
theorem orderly_of_empty (hempty : disk.find outliner.store.config.baseDir = .ok (.directory []))
    (scope : Scope) : outliner.store.Orderly scope disk := by
  have hvacant := vacant_of_find hempty
  have hbase : disk.kind? outliner.store.config.baseDir = some .directory := by
    rw [kind?, hempty]
  refine ⟨hbase, fun category front _ => ?_, fun category name content hfile => ?_⟩
  · cases front with
    | nil =>
      rw [List.append_nil]
      exact FileTree.fileAt_eq_none_of_dirAt (kind?_eq_directory_iff.mp hbase).2
    | cons name rest => exact hvacant.fileAt name rest
  · obtain ⟨first, rest, hplace⟩ := List.exists_cons_of_ne_nil
      (List.append_ne_nil_of_right_ne_nil (scope.place category) (List.cons_ne_nil name []))
    rw [hplace, hvacant.fileAt] at hfile
    cases hfile

/-- On disks that are alike for a scope, its calls are answered as if there were no others. -/
theorem filter_answers (h : outliner.store.Alike scope a b)
    (hnamed : ∀ scope, outliner.store.SourcesNamed scope a) {calls : List (Scope × Call)}
    (hcalls : ∀ entry ∈ calls, entry.1 = scope ∧ entry.2.Confined ∨ scope.Isolated entry.1) :
    (outliner.answers a calls).filter (·.1 = scope) =
      outliner.answers b (calls.filter (·.1 = scope)) := by
  induction calls generalizing a b with
  | nil => rfl
  | cons entry rest ih =>
    obtain ⟨caller, call⟩ := entry
    have hchanges := changes_answer (hnamed caller) call
    have hnamed' := fun scope => hchanges.sourcesNamed (hnamed scope)
    have hrest := fun entry hentry => hcalls entry (List.mem_cons_of_mem _ hentry)
    rcases hcalls _ List.mem_cons_self with ⟨hcaller, hcall⟩ | hisolated
    · obtain rfl : caller = scope := hcaller
      obtain ⟨hresult, halike⟩ := together_answer h hcall
      simp only [answers, decide_true, List.filter_cons_of_pos, hresult, ih halike hnamed' hrest]
    · have hother : decide (caller = scope) = false := decide_eq_false hisolated.ne.symm
      simp only [answers, List.filter_cons, hother, Bool.false_eq_true, if_false]
      exact ih (hchanges.alike hisolated h) hnamed' hrest

/-- **From an empty base directory on, calls in a scope are answered as if there were no calls in
the scopes that it is isolated from.** -/
theorem answers_isolated
    (hempty : disk.find outliner.store.config.baseDir = .ok (.directory []))
    (scope : Scope) {calls : List (Scope × Call)}
    (hcalls : ∀ entry ∈ calls, entry.1 = scope ∧ entry.2.Confined ∨ scope.Isolated entry.1) :
    (outliner.answers disk calls).filter (·.1 = scope) =
      outliner.answers disk (calls.filter (·.1 = scope)) := by
  have hnamed := fun scope => (orderly_of_empty hempty scope).sourcesNamed
  exact filter_answers (.refl (orderly_of_empty hempty scope)) hnamed hcalls

/-! ### Scopes inside a session -/

/-- A scope whose directory is that of the outlines of another one. -/
def amongOutlines : Scope := ⟨plainScope.session, some ⟨"analysis", by decide⟩⟩

/-- Sources of one name in two scopes, of which one is among the outlines of the other. -/
def sameNames : List (Scope × Call) :=
  [(amongOutlines, .add "a.sql" "".toUTF8), (plainScope, .add "a.sql" "SELECT".toUTF8),
    (amongOutlines, .anew "a.sql"), (plainScope, .load "a.sql")]

/-- A project among outlines makes no difference to its session. -/
theorem answers_isolated_among :
    emptyBase.find inBase.store.config.baseDir = .ok (.directory []) ∧
      (∀ entry ∈ sameNames,
        entry.1 = plainScope ∧ entry.2.Confined ∨ plainScope.Isolated entry.1) ∧
      (inBase.answers emptyBase sameNames).filter (·.1 = plainScope) =
        inBase.answers emptyBase (sameNames.filter (·.1 = plainScope)) ∧
      (inBase.answers emptyBase sameNames).map (·.2.isOk) = [true, true, true, true] := by
  have hcalls : ∀ entry ∈ sameNames,
      entry.1 = plainScope ∧ entry.2.Confined ∨ plainScope.Isolated entry.1 := by
    decide +kernel
  exact ⟨find_emptyBase, hcalls, answers_isolated find_emptyBase plainScope hcalls,
    by decide +kernel⟩

/-- A source of a session is stored where a project needs a directory. -/
def inTheWay : List (Scope × Call) :=
  [(plainScope, .add "src" "".toUTF8), (amongSources, .add "a.sql" "SELECT".toUTF8)]

/-- **Not all scopes are isolated.** A source of a session can be in the way of those of a project,
which are stored if the session has no such source. -/
theorem answers_not_isolated :
    ¬ ∀ (outliner : Outliner) (disk : Disk) (scope other : Scope) (calls : List (Scope × Call)),
      disk.find outliner.store.config.baseDir = .ok (.directory []) → scope ≠ other →
      (∀ entry ∈ calls, (entry.1 = scope ∨ entry.1 = other) ∧ entry.2.Confined) →
      (outliner.answers disk calls).filter (·.1 = scope) =
        outliner.answers disk (calls.filter (·.1 = scope)) := by
  intro hall
  have hanswers := hall inBase emptyBase amongSources plainScope inTheWay find_emptyBase
    (by decide) (by decide +kernel)
  have hsucceed := congrArg (List.map (·.2.isOk)) hanswers
  revert hsucceed
  decide +kernel

end Outliner

end DmlOutline
