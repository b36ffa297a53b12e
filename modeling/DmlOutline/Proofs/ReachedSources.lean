import DmlOutline.Proofs.KeptFiles
import DmlOutline.Proofs.PlainSources

/-!
# Sources that a run over all of them reaches

A source whose outline cannot be taken or stored does not keep a run over all plain sources from the
others. One that is no text does: the run ends there, and what comes after it in the order of names
is not outlined. So a plain source has an outline after a run if it is reached, which depends on
itself and on the ones before it, and on no other.

* `Store.IsText` — files that can be decoded.
* `Store.Reached` — the plain sources whose turn comes.

Principal results: `Outliner.mem_reached`: the turns that a run takes are those of the sources that
are reached; `Outliner.exists_lookup_writes`: the last one decides what is in a place;
`Outliner.outlineAll_outlines`.
-/

namespace DmlOutline

open Disk

variable {disk next provided : Disk} {name bad : String} {names : List String} {scope : Scope}
  {bytes : ByteArray} {place : Location}

namespace Store

variable {store : Store}

/-- A file that can be decoded. -/
def IsText (store : Store) (disk : Disk) (path : Path) : Prop :=
  ∃ content, disk.read path = .ok content ∧ (store.decoder.decode? content).isSome = true

/-- A plain source whose turn comes: it is text, and so is each one before it. -/
@[mk_iff]
structure Reached (store : Store) (scope : Scope) (disk : Disk) (name : String) : Prop where
  plain : store.PlainSource scope disk name
  isText : store.IsText disk (store.plainPath scope name)
  earlier : ∀ other < name, store.PlainSource scope disk other →
    store.IsText disk (store.plainPath scope other)

section Widened

variable (hsource : disk.kind? (store.folder scope .source) = some .directory)
  (h : disk.Widens next)

include hsource h

/-- Directories that are made beside them leave the sources as they are. -/
theorem read_plainPath_of_widens (hname : Path.IsName name) {content : ByteArray} :
    next.read (store.plainPath scope name) = .ok content ↔
      disk.read (store.plainPath scope name) = .ok content := by
  rw [plainPath, read_join hsource hname, read_join (h.kind?_directory hsource) hname, h.fileAt,
    h.goal]

theorem plainSource_of_widens :
    store.PlainSource scope next name ↔ store.PlainSource scope disk name := by
  rw [plainSource_iff, plainSource_iff]
  refine and_congr_right fun hname => ?_
  simp only [read_plainPath_of_widens hsource h hname]

theorem isText_of_widens (hname : Path.IsName name) :
    store.IsText next (store.plainPath scope name) ↔
      store.IsText disk (store.plainPath scope name) := by
  simp only [IsText, read_plainPath_of_widens hsource h hname]

theorem reached_of_widens :
    store.Reached scope next name ↔ store.Reached scope disk name := by
  rw [reached_iff, reached_iff, plainSource_of_widens hsource h]
  refine and_congr_right fun hplain => and_congr (isText_of_widens hsource h hplain.isName) ?_
  refine forall₂_congr fun other _ => ?_
  rw [plainSource_of_widens hsource h]
  exact imp_congr_right fun hother => isText_of_widens hsource h hother.isName

end Widened

end Store

/-! ## Lists in order -/

section Sorted

variable (hsorted : names.Pairwise (· < ·))

include hsorted

theorem mem_takeWhile_of_sorted {p : String → Bool} :
    name ∈ names.takeWhile p ↔
      name ∈ names ∧ p name = true ∧ ∀ other ∈ names, other < name → p other = true := by
  induction names with
  | nil => simp
  | cons first rest ih =>
    obtain ⟨hfirst, hrest⟩ := List.pairwise_cons.mp hsorted
    rw [List.takeWhile_cons]
    split
    · rename_i hp
      rw [List.mem_cons, ih hrest, List.mem_cons]
      constructor
      · rintro (rfl | ⟨hmem, hname, hbefore⟩)
        · refine ⟨.inl rfl, hp, fun other hother hlt => ?_⟩
          rcases List.mem_cons.mp hother with rfl | hother
          · exact hp
          · exact absurd (String.lt_trans (hfirst other hother) hlt) (String.lt_irrefl _)
        · refine ⟨.inr hmem, hname, fun other hother hlt => ?_⟩
          rcases List.mem_cons.mp hother with rfl | hother
          · exact hp
          · exact hbefore other hother hlt
      · rintro ⟨rfl | hmem, hself, hbefore⟩
        · exact .inl rfl
        · exact .inr ⟨hmem, hself, fun other hother =>
            hbefore other (List.mem_cons_of_mem _ hother)⟩
    · rename_i hp
      constructor
      · intro hmem
        cases hmem
      · rintro ⟨hmem, hname, hbefore⟩
        rcases List.mem_cons.mp hmem with rfl | hmem
        · exact absurd hname hp
        · exact absurd (hbefore first List.mem_cons_self (hfirst name hmem)) hp

/-- The last entry of a key was made last. -/
theorem exists_last_lookup {f : String → Option (Location × ByteArray)} (hname : name ∈ names)
    (h : f name = some (place, bytes)) :
    ∃ last ∈ names, ∃ held, f last = some (place, held) ∧
      (names.filterMap f).reverse.lookup place = some held ∧
        ∀ after ∈ names, last < after → ∀ bytes, f after ≠ some (place, bytes) := by
  have hmem : (place, bytes) ∈ (names.filterMap f).reverse :=
    List.mem_reverse.mpr (List.mem_filterMap.mpr ⟨name, hname, h⟩)
  have hsome : (names.filterMap f).reverse.lookup place ≠ none := by
    intro hnone
    have hother := List.lookup_eq_none_iff.mp hnone _ hmem
    simp at hother
  obtain ⟨held, hheld⟩ := Option.ne_none_iff_exists'.mp hsome
  obtain ⟨back, front, hsplit, hback⟩ := List.lookup_eq_some_iff.mp hheld
  rw [List.reverse_eq_iff, List.reverse_append, List.reverse_cons, List.append_assoc,
    List.singleton_append, List.filterMap_eq_append_iff] at hsplit
  obtain ⟨early, late, rfl, -, hlate⟩ := hsplit
  obtain ⟨skipped, last, after, rfl, -, hlast, hafter⟩ := List.filterMap_eq_cons_iff.mp hlate
  refine ⟨last, by simp, held, hlast, hheld, fun other hother hlt bytes hwrites => ?_⟩
  rw [← List.append_assoc] at hsorted hother
  obtain ⟨-, -, hbefore⟩ := List.pairwise_append.mp hsorted
  -- what comes later in order stands later in the list, and writes elsewhere
  rcases List.mem_append.mp hother with hother | hother
  · exact String.lt_irrefl _ (String.lt_trans hlt (hbefore other hother last List.mem_cons_self))
  · rcases List.mem_cons.mp hother with rfl | hother
    · exact String.lt_irrefl _ hlt
    · have hmem : (place, bytes) ∈ after.filterMap f :=
        List.mem_filterMap.mpr ⟨other, hother, hwrites⟩
      rw [hafter, List.mem_reverse] at hmem
      have hne := hback _ hmem
      simp at hne

theorem mapM_eq_error {α : Type} {f : String → Except Error α} {error : Error}
    (hname : name ∈ names) (h : f name = .error error)
    (hbefore : ∀ other ∈ names, other < name → (f other).isOk = true) :
    names.mapM f = .error error := by
  induction names with
  | nil => cases hname
  | cons first rest ih =>
    obtain ⟨hfirst, hrest⟩ := List.pairwise_cons.mp hsorted
    rw [List.mapM_cons]
    rcases List.mem_cons.mp hname with rfl | hmem
    · rw [h]
      rfl
    · have hok := hbefore first List.mem_cons_self (hfirst name hmem)
      have hfails := ih hrest hmem fun other hother =>
        hbefore other (List.mem_cons_of_mem _ hother)
      cases hf : f first with
      | error error => rw [hf] at hok; cases hok
      | ok value => rw [hfails]; rfl

end Sorted

theorem mapM_isOk {α : Type} {f : String → Except Error α}
    (h : ∀ name ∈ names, (f name).isOk = true) : (names.mapM f).isOk = true := by
  induction names with
  | nil => rfl
  | cons first rest ih =>
    rw [List.forall_mem_cons] at h
    have hrest := ih h.2
    rw [List.mapM_cons]
    cases hf : f first with
    | error error => rw [hf] at h; cases h.1
    | ok value =>
      cases hg : rest.mapM f with
      | error error => rw [hg] at hrest; cases hrest
      | ok values => rfl

namespace Outliner

variable {outliner : Outliner}

/-! ## Turns that are taken -/

theorem report_isOk : (outliner.report scope disk name).isOk = true ↔
    outliner.store.IsText disk (outliner.store.plainPath scope name) := by
  rw [report, Store.run_recordOf, Store.run_textOf, Store.IsText]
  cases disk.read (outliner.store.plainPath scope name) with
  | error cause => simp [Except.map, Except.isOk, Except.toBool]
  | ok content =>
    cases hdecode : outliner.store.decoder.decode? content <;>
      simp [hdecode, Except.map, Except.isOk, Except.toBool]

/-- A plain source that is no text is reported so. -/
theorem report_of_not_text (hplain : outliner.store.PlainSource scope disk name)
    (h : ¬outliner.store.IsText disk (outliner.store.plainPath scope name)) :
    outliner.report scope disk name =
      .error (.undecodable (outliner.store.plainPath scope name)) := by
  obtain ⟨content, hread⟩ := hplain.readable
  rw [report, Store.run_recordOf_of_read hread]
  cases hdecode : outliner.store.decoder.decode? content with
  | none => rfl
  | some text => exact absurd ⟨content, hread, by rw [hdecode]; rfl⟩ h

theorem draft?_of_widens
    (hsource : disk.kind? (outliner.store.folder scope .source) = some .directory)
    (h : disk.Widens next) (hname : Path.IsName name) :
    outliner.draft? next (outliner.store.plainPath scope name) =
      outliner.draft? disk (outliner.store.plainPath scope name) := by
  have hread : (next.read (outliner.store.plainPath scope name)).toOption =
      (disk.read (outliner.store.plainPath scope name)).toOption := by
    refine Option.ext fun content => ?_
    rw [toOption_eq_some_iff, toOption_eq_some_iff,
      Store.read_plainPath_of_widens hsource h hname]
  rw [draft?, draft?, hread]

section There

variable (hnamed : outliner.store.SourcesNamed scope disk)
  (hsource : disk.kind? (outliner.store.folder scope .source) = some .directory)

include hnamed hsource

/-- **The turns that are taken are those of the sources that are reached.** -/
theorem mem_reached :
    name ∈ outliner.reached scope disk (outliner.store.plainNames scope disk) ↔
      outliner.store.Reached scope disk name := by
  rw [reached, mem_takeWhile_of_sorted (Store.sorted_plainNames hsource), Store.reached_iff,
    Store.mem_plainNames hsource hnamed]
  refine and_congr_right fun _ => and_congr report_isOk ?_
  refine forall_congr' fun other => ?_
  rw [Store.mem_plainNames hsource hnamed]
  constructor
  · intro h hlt hother
    exact report_isOk.mp (h hother hlt)
  · intro h hother hlt
    exact report_isOk.mpr (h hlt hother)

/-- **Of the sources that are reached, the last one that writes to a place decides what is
there.** -/
theorem exists_lookup_writes (hreached : outliner.store.Reached scope disk name)
    (hwritten : outliner.written? scope disk name = some (place, bytes)) :
    ∃ last held, outliner.store.Reached scope disk last ∧
      outliner.written? scope disk last = some (place, held) ∧
      (outliner.writes scope disk (outliner.store.plainNames scope disk)).reverse.lookup place =
        some held ∧
      ∀ after, outliner.store.Reached scope disk after → last < after →
        ∀ bytes, outliner.written? scope disk after ≠ some (place, bytes) := by
  have hsorted : (outliner.reached scope disk (outliner.store.plainNames scope disk)).Pairwise
      (· < ·) :=
    (Store.sorted_plainNames hsource).sublist (List.takeWhile_sublist _)
  obtain ⟨last, hlast, held, hheld, hlookup, hafter⟩ :=
    exists_last_lookup hsorted ((mem_reached hnamed hsource).mpr hreached) hwritten
  exact ⟨last, held, (mem_reached hnamed hsource).mp hlast, hheld, hlookup,
    fun after hreached => hafter after ((mem_reached hnamed hsource).mpr hreached)⟩

variable {result : Except Error (List SourceRecord)}
  (hdir : disk.kind? (outliner.store.outlineFolder scope) = some .directory)
  (hrun : disk.run (outliner.outlineAll scope) = (result, next))

include hdir hrun

/-- A run changes the places of outlines of sources that are reached, and no other. -/
theorem fileAt_outlineAll (h : next.fileAt place ≠ disk.fileAt place) :
    ∃ name, outliner.store.Reached scope disk name ∧
      place = disk.goal (outliner.store.outlinePath scope name) := by
  obtain ⟨-, -, hfiles⟩ := outlineAll_in_turn hnamed hsource hdir (.refl _ _ disk) hrun
  rw [hfiles] at h
  cases hlookup : (outliner.writes scope disk
      (outliner.store.plainNames scope disk)).reverse.lookup place with
  | none => rw [hlookup] at h; exact absurd rfl h
  | some held =>
    obtain ⟨front, back, hsplit, -⟩ := List.lookup_eq_some_iff.mp hlookup
    have hmem : (place, held) ∈
        outliner.writes scope disk (outliner.store.plainNames scope disk) := by
      rw [← List.mem_reverse, hsplit]
      simp
    obtain ⟨name, hname, hwritten⟩ := List.mem_filterMap.mp hmem
    have hreached := (mem_reached hnamed hsource).mp hname
    obtain ⟨-, -, hplace⟩ := (written?_eq_some_iff hreached.plain.isName hdir).mp hwritten
    exact ⟨name, hreached, hplace⟩

/-- **A source that is reached has an outline, if there is one that can be stored**, its own or that
of a later one with which it shares the place. -/
theorem read_outlineAll {draft : ByteArray} {stored : Disk}
    (hreached : outliner.store.Reached scope disk name)
    (hdraft : outliner.draft? disk (outliner.store.plainPath scope name) = some draft)
    (hstored : disk.replace (outliner.store.outlinePath scope name) draft = .ok stored) :
    ∃ last held, outliner.store.Reached scope disk last ∧
      name ≤ last ∧ FileName.base last = FileName.base name ∧
      outliner.draft? disk (outliner.store.plainPath scope last) = some held ∧
      (∀ after, outliner.store.Reached scope disk after → last < after →
        FileName.base after = FileName.base name →
          outliner.draft? disk (outliner.store.plainPath scope after) = none) ∧
      next.read (outliner.store.outlinePath scope name) = .ok held := by
  have hname := hreached.plain.isName
  have haccepts := (Store.exists_replace_iff hname hdir draft).mp ⟨stored, hstored⟩
  have hwritten := (written?_eq_some_iff hname hdir).mpr ⟨hdraft, haccepts, rfl⟩
  obtain ⟨last, held, hlast, hheld, hlookup, hafter⟩ :=
    exists_lookup_writes hnamed hsource hreached hwritten
  obtain ⟨hdraft', -, hplace⟩ := (written?_eq_some_iff hlast.plain.isName hdir).mp hheld
  refine ⟨last, held, hlast, ?_, ?_, hdraft', fun after hreached' hlt hbase => ?_, ?_⟩
  · exact String.not_lt.mp fun hlt => hafter name hreached hlt draft hwritten
  · rw [Store.goal_outlinePath _ _ _ hname, Store.goal_outlinePath _ _ _ hlast.plain.isName]
      at hplace
    have hfile := List.head_eq_of_cons_eq (List.append_cancel_left hplace)
    exact ((String.append_left_inj _).mp hfile).symm
  · -- a later one with the same base has the same place, which accepts its outline too
    refine Option.eq_none_iff_forall_ne_some.mpr fun later hlater => ?_
    have hpath : outliner.store.outlinePath scope after =
        outliner.store.outlinePath scope name := by
      rw [Store.outlinePath, Store.outlinePath, hbase]
    have haccepts' : outliner.store.Accepts scope disk after :=
      ⟨by rw [hpath]; exact haccepts.room, by rw [hpath, hbase]; exact haccepts.permitted,
        by rw [hpath]; exact haccepts.noDirectory⟩
    exact hafter after hreached' hlt later
      ((written?_eq_some_iff hreached'.plain.isName hdir).mpr ⟨hlater, haccepts', by rw [hpath]⟩)
  · obtain ⟨-, hkept, hfiles⟩ := outlineAll_in_turn hnamed hsource hdir (.refl _ _ disk) hrun
    have hfile := hfiles (disk.goal (outliner.store.outlinePath scope name))
    rw [hlookup, Option.some_or, Store.goal_outlinePath _ _ _ hname, ← hkept.grows.goal] at hfile
    have hreach := isReachable_of_read (Store.isName_outline hname) (read_of_replace hstored)
    exact (read_join (hkept.grows.kind?_directory hdir) (Store.isName_outline hname)).mpr
      ⟨hreach, hfile⟩

theorem outlineAll_of_not_text (hplain : outliner.store.PlainSource scope disk bad)
    (hbad : ¬outliner.store.IsText disk (outliner.store.plainPath scope bad))
    (hbefore : ∀ other < bad, outliner.store.PlainSource scope disk other →
      outliner.store.IsText disk (outliner.store.plainPath scope other)) :
    result = .error (.undecodable (outliner.store.plainPath scope bad)) := by
  have hmem := (Store.mem_plainNames hsource hnamed).mpr hplain
  obtain ⟨hresult, -, -⟩ := outlineAll_in_turn hnamed hsource hdir (.refl _ _ disk) hrun
  rw [hresult, if_neg (List.ne_nil_of_mem hmem)]
  refine mapM_eq_error (Store.sorted_plainNames hsource) hmem (report_of_not_text hplain hbad) ?_
  intro other hother hlt
  have hother := (Store.mem_plainNames hsource hnamed).mp hother
  exact report_isOk.mpr (hbefore other hlt hother)

theorem outlineAll_of_texts (hplain : outliner.store.PlainSource scope disk name)
    (htexts : ∀ other, outliner.store.PlainSource scope disk other →
      outliner.store.IsText disk (outliner.store.plainPath scope other)) :
    result.isOk = true := by
  have hmem := (Store.mem_plainNames hsource hnamed).mpr hplain
  obtain ⟨hresult, -, -⟩ := outlineAll_in_turn hnamed hsource hdir (.refl _ _ disk) hrun
  rw [hresult, if_neg (List.ne_nil_of_mem hmem)]
  refine mapM_isOk fun other hother => ?_
  have hother := (Store.mem_plainNames hsource hnamed).mp hother
  exact report_isOk.mpr (htexts other hother)

end There

/-- **A run outlines every source that is reached, whatever the outlines of others.** Of sources
that share a place the last one has it, nothing else is written, and the first source that is no
text is what the run fails with. -/
theorem outlineAll_outlines (hnamed : outliner.store.SourcesNamed scope disk)
    (hsource : disk.kind? (outliner.store.folder scope .source) = some .directory)
    (hprovide : disk.run (Store.provideDir (outliner.store.outlineFolder scope)) =
      (.ok (), provided)) :
    ∃ result next, disk.run (outliner.outlineAll scope) = (result, next) ∧
      (∀ name draft stored, outliner.store.Reached scope disk name →
        outliner.draft? disk (outliner.store.plainPath scope name) = some draft →
        provided.replace (outliner.store.outlinePath scope name) draft = .ok stored →
        ∃ last held, outliner.store.Reached scope disk last ∧
          name ≤ last ∧ FileName.base last = FileName.base name ∧
          outliner.draft? disk (outliner.store.plainPath scope last) = some held ∧
          (∀ after, outliner.store.Reached scope disk after → last < after →
            FileName.base after = FileName.base name →
              outliner.draft? disk (outliner.store.plainPath scope after) = none) ∧
          next.read (outliner.store.outlinePath scope name) = .ok held) ∧
      (∀ place, next.fileAt place ≠ disk.fileAt place →
        ∃ name, outliner.store.Reached scope disk name ∧
          place = disk.goal (outliner.store.outlinePath scope name)) ∧
      (∀ bad, outliner.store.PlainSource scope disk bad →
        ¬outliner.store.IsText disk (outliner.store.plainPath scope bad) →
        (∀ other < bad, outliner.store.PlainSource scope disk other →
          outliner.store.IsText disk (outliner.store.plainPath scope other)) →
        result = .error (.undecodable (outliner.store.plainPath scope bad))) ∧
      ∀ name, outliner.store.PlainSource scope disk name →
        (∀ other, outliner.store.PlainSource scope disk other →
          outliner.store.IsText disk (outliner.store.plainPath scope other)) →
        result.isOk = true := by
  have hwidens := Store.widens_of_provideDir hprovide
  have hprovided := hnamed.widens hwidens
  have hthere := hwidens.kind?_directory hsource
  have hdir : provided.kind? (outliner.store.outlineFolder scope) = some .directory :=
    Store.kind?_of_provideDir (Store.isName_folderName .outlines) hprovide
  have hreached : ∀ {name}, outliner.store.Reached scope provided name ↔
      outliner.store.Reached scope disk name := Store.reached_of_widens hsource hwidens
  have hplain : ∀ {name}, outliner.store.PlainSource scope provided name ↔
      outliner.store.PlainSource scope disk name := Store.plainSource_of_widens hsource hwidens
  rw [run_outlineAll_of_provided hsource hprovide]
  obtain ⟨⟨result, next⟩, hrun⟩ : ∃ outcome, provided.run (outliner.outlineAll scope) = outcome :=
    ⟨_, rfl⟩
  refine ⟨result, next, hrun, ?_, ?_, ?_, ?_⟩
  · intro name draft stored hname hdraft hstored
    rw [← draft?_of_widens hsource hwidens hname.plain.isName] at hdraft
    obtain ⟨last, held, hlast, hle, hbase, hheld, hafter, hread⟩ :=
      read_outlineAll hprovided hthere hdir hrun (hreached.mpr hname) hdraft hstored
    rw [draft?_of_widens hsource hwidens hlast.plain.isName] at hheld
    refine ⟨last, held, hreached.mp hlast, hle, hbase, hheld, fun after hlater hlt hsame => ?_,
      hread⟩
    rw [← draft?_of_widens hsource hwidens hlater.plain.isName]
    exact hafter after (hreached.mpr hlater) hlt hsame
  · intro place hplace
    rw [← hwidens.fileAt] at hplace
    obtain ⟨name, hname, hwritten⟩ := fileAt_outlineAll hprovided hthere hdir hrun hplace
    exact ⟨name, hreached.mp hname, hwritten.trans (hwidens.goal _)⟩
  · intro bad hbad hnot hbefore
    have htext := Store.isText_of_widens hsource hwidens hbad.isName
    refine outlineAll_of_not_text hprovided hthere hdir hrun (hplain.mpr hbad) (hnot ∘ htext.mp) ?_
    intro other hlt hother
    have hold := hplain.mp hother
    exact (Store.isText_of_widens hsource hwidens hold.isName).mpr (hbefore other hlt hold)
  · intro name hname htexts
    refine outlineAll_of_texts hprovided hthere hdir hrun (hplain.mpr hname) fun other hother => ?_
    have hold := hplain.mp hother
    exact (Store.isText_of_widens hsource hwidens hold.isName).mpr (htexts other hold)

/-- A disk with a source that is no text between two that are. -/
def withUndecodable : Disk where
  root := .directory [("base", .directory [("s", .directory [("src", .directory
    [("a.sql", .file "SELECT".toUTF8), ("b.sql", .file ⟨#[255, 254, 255]⟩),
      ("c.sql", .file "SELECT".toUTF8)])])])]
  here := []

theorem sourcesNamed_withUndecodable : inBase.store.SourcesNamed plainScope withUndecodable := by
  refine (filesNamed_of_named ?_).sourcesNamed _ _
  simp only [withUndecodable, FileTree.Named, FileTree.EntriesNamed, FileTree.EntryNamed]
  decide

theorem plainSource_withUndecodable :
    inBase.store.PlainSource plainScope withUndecodable name ↔
      name = "a.sql" ∨ name = "b.sql" ∨ name = "c.sql" := by
  constructor
  · intro h
    obtain ⟨content, hread⟩ := h.readable
    have hfile := (read_eq_ok_iff.mp hread).2
    have hgoal : withUndecodable.goal (inBase.store.folder plainScope .source) =
        ["base", "s", "src"] := by decide
    rw [Store.plainPath, goal_join _ _ h.isName, hgoal] at hfile
    by_contra hother
    obtain ⟨ha, hb, hc⟩ : name ≠ "a.sql" ∧ name ≠ "b.sql" ∧ name ≠ "c.sql" := by
      simpa only [not_or] using hother
    have hnone : withUndecodable.fileAt (["base", "s", "src"] ++ [name]) = none := by
      simp [withUndecodable, Disk.fileAt, FileTree.fileAt, FileTree.get?, List.lookup_cons,
        beq_false_of_ne ha, beq_false_of_ne hb, beq_false_of_ne hc]
    rw [hnone] at hfile
    cases hfile
  · rintro (rfl | rfl | rfl)
    · exact ⟨by decide, by decide, "SELECT".toUTF8, by decide +kernel⟩
    · exact ⟨by decide, by decide, ⟨#[255, 254, 255]⟩, by decide +kernel⟩
    · exact ⟨by decide, by decide, "SELECT".toUTF8, by decide +kernel⟩

/-- Both sources that are text have outlines that can be stored. -/
theorem exists_stored_withUndecodable : ∃ provided,
    withUndecodable.run (Store.provideDir (inBase.store.outlineFolder plainScope)) =
      (.ok (), provided) ∧
    ∀ name ∈ ["a.sql", "c.sql"], ∃ draft stored,
      inBase.draft? withUndecodable (inBase.store.plainPath plainScope name) = some draft ∧
        provided.replace (inBase.store.outlinePath plainScope name) draft = .ok stored := by
  have hall : ∀ name ∈ ["a.sql", "c.sql"],
      ((inBase.draft? withUndecodable (inBase.store.plainPath plainScope name)).bind fun draft =>
        ((withUndecodable.run (Store.provideDir (inBase.store.outlineFolder plainScope))).2.replace
          (inBase.store.outlinePath plainScope name) draft).toOption).isSome = true := by
    decide +kernel
  refine ⟨_, run_eq_ok_of_toOption (by decide +kernel), fun name hname => ?_⟩
  obtain ⟨stored, hsome⟩ := Option.isSome_iff_exists.mp (hall name hname)
  obtain ⟨draft, hdraft, hstored⟩ := Option.bind_eq_some_iff.mp hsome
  exact ⟨draft, stored, hdraft, toOption_eq_some_iff.mp hstored⟩

theorem not_isText_withUndecodable :
    ¬inBase.store.IsText withUndecodable (inBase.store.plainPath plainScope "b.sql") := by
  rintro ⟨content, hread, htext⟩
  have hbytes : withUndecodable.read (inBase.store.plainPath plainScope "b.sql") =
      .ok ⟨#[255, 254, 255]⟩ := by decide +kernel
  obtain rfl := Except.ok.inj (hread.symm.trans hbytes)
  exact absurd htext (by decide +kernel)

/-- The source before the one that is no text has an outline, and the run fails. -/
theorem outlineAll_outlines_undecodable :
    ∃ result next held, withUndecodable.run (inBase.outlineAll plainScope) = (result, next) ∧
      next.read (inBase.store.outlinePath plainScope "a.sql") = .ok held ∧
      result = .error (.undecodable ⟨"base/s/src/b.sql"⟩) := by
  have hbefore : ∀ other < "b.sql", inBase.store.PlainSource plainScope withUndecodable other →
      other = "a.sql" := by
    intro other hlt hother
    rcases plainSource_withUndecodable.mp hother with rfl | rfl | rfl
    · rfl
    all_goals exact absurd hlt (by decide)
  have htext : inBase.store.IsText withUndecodable (inBase.store.plainPath plainScope "a.sql") :=
    ⟨"SELECT".toUTF8, by decide +kernel, by decide +kernel⟩
  have hreached : inBase.store.Reached plainScope withUndecodable "a.sql" := by
    refine ⟨plainSource_withUndecodable.mpr (by decide), htext, fun other hlt hother => ?_⟩
    obtain rfl := hbefore other (String.lt_trans hlt (by decide)) hother
    exact htext
  obtain ⟨provided, hprovide, hall⟩ := exists_stored_withUndecodable
  obtain ⟨draft, stored, hdraft, hstored⟩ := hall "a.sql" (by decide)
  obtain ⟨result, next, hrun, houtlines, -, hfails, -⟩ :=
    outlineAll_outlines sourcesNamed_withUndecodable (by decide) hprovide
  obtain ⟨last, held, -, -, -, -, -, hread⟩ :=
    houtlines "a.sql" draft stored hreached hdraft hstored
  refine ⟨result, next, held, hrun, hread, hfails "b.sql" ?_ not_isText_withUndecodable ?_⟩
  · exact plainSource_withUndecodable.mpr (by decide)
  · intro other hlt hother
    obtain rfl := hbefore other hlt hother
    exact htext

/-- **One source that is no text keeps the later ones from being outlined.** -/
theorem outlineAll_not_outlines :
    ¬ ∀ (outliner : Outliner) (scope : Scope) (disk provided stored : Disk) (name : String)
        (draft : ByteArray), outliner.store.SourcesNamed scope disk →
        disk.kind? (outliner.store.folder scope .source) = some .directory →
        disk.run (Store.provideDir (outliner.store.outlineFolder scope)) = (.ok (), provided) →
        outliner.store.PlainSource scope disk name →
        outliner.draft? disk (outliner.store.plainPath scope name) = some draft →
        provided.replace (outliner.store.outlinePath scope name) draft = .ok stored →
        ∃ held, (disk.run (outliner.outlineAll scope)).2.read
          (outliner.store.outlinePath scope name) = .ok held := by
  intro hall
  obtain ⟨provided, hprovide, hstores⟩ := exists_stored_withUndecodable
  obtain ⟨draft, stored, hdraft, hstored⟩ := hstores "c.sql" (by decide)
  have hsource : withUndecodable.kind? (inBase.store.folder plainScope .source) =
    some .directory := by decide
  obtain ⟨held, hread⟩ := hall inBase plainScope withUndecodable provided stored "c.sql" draft
    sourcesNamed_withUndecodable hsource hprovide (plainSource_withUndecodable.mpr (by decide))
    hdraft hstored
  have hwidens := Store.widens_of_provideDir hprovide
  have hprovided := sourcesNamed_withUndecodable.widens hwidens
  have hthere := hwidens.kind?_directory hsource
  have hdir := Store.kind?_of_provideDir (Store.isName_folderName .outlines) hprovide
  rw [run_outlineAll_of_provided hsource hprovide] at hread
  obtain ⟨⟨result, next⟩, hrun⟩ :
    ∃ outcome, provided.run (inBase.outlineAll plainScope) = outcome := ⟨_, rfl⟩
  rw [hrun] at hread
  obtain ⟨-, hkept, -⟩ := outlineAll_in_turn hprovided hthere hdir (.refl _ _ _) hrun
  have hfile := (read_eq_ok_iff.mp hread).2
  rw [hkept.grows.goal, hwidens.goal] at hfile
  have hnone : withUndecodable.fileAt
      (withUndecodable.goal (inBase.store.outlinePath plainScope "c.sql")) = none := by decide
  obtain ⟨name, hreached, hplace⟩ := fileAt_outlineAll hprovided hthere hdir hrun
    (by rw [hfile, hwidens.fileAt, hnone]; exact Option.some_ne_none held)
  obtain ⟨hplain, htext, hearlier⟩ := (Store.reached_of_widens hsource hwidens).mp hreached
  rw [hwidens.goal] at hplace
  -- only `c.sql` has that place, and it comes after `b.sql`
  rcases plainSource_withUndecodable.mp hplain with rfl | rfl | rfl
  · exact absurd hplace (by decide)
  · exact not_isText_withUndecodable htext
  · exact not_isText_withUndecodable
      (hearlier "b.sql" (by decide) (plainSource_withUndecodable.mpr (by decide)))

end Outliner

end DmlOutline
