import DmlOutline.Proofs.ConfigText
import DmlOutline.Proofs.DiskFiles
import DmlOutline.Proofs.DiskRuns

/-!
# Configuration files that were written are read back

A file that was written holds the text of its configuration, and says what the configuration says.
Labels are looked at only when the file is read: one that is not known can be written, but not read.

Principal results: `FileConfig.loadKnowing_save`.
-/

namespace DmlOutline.FileConfig

open Disk

variable {known : String → Bool} {config : FileConfig} {disk next : Disk} {path : Path}
  {force : Bool}

/-! ## Labels -/

theorem unknownLabel?_eq_none_iff :
    config.unknownLabel? known = none ↔ ∀ label ∈ config.encodings.getD [], known label = true := by
  simp [unknownLabel?]

theorem of_unknownLabel? {label : String} (h : config.unknownLabel? known = some label) :
    label ∈ config.encodings.getD [] ∧ known label = false :=
  ⟨List.mem_of_find?_eq_some h, by simpa using List.find?_some h⟩

/-! ## Files -/

/-- What is written is read as the configuration, as far as its labels are known. -/
theorem ofContent_toText (known : String → Bool) (path : Path) (config : FileConfig) :
    ofContent known path config.toText.toUTF8 =
      match config.unknownLabel? known with
      | some label => .error (.unknownEncoding label path)
      | none => .ok config := by
  have hdecode : String.fromUTF8? config.toText.toUTF8 = some config.toText :=
    dif_pos config.toText.isValidUTF8
  rw [ofContent, hdecode]
  cases hunknown : config.unknownLabel? known <;> simp only [ofText?_toText, hunknown]

/-- What was written is the text of the configuration. -/
theorem overwrite_of_run_save (h : disk.run (save path config force) = (.ok (), next)) :
    disk.overwrite path config.toText.toUTF8 = .ok next := by
  unfold save at h
  simp only [run_bind, run_entryKind] at h
  split at h
  · simp at h
  · exact ok_of_change (ok_of_run_attempt h)

/-- A file that can be read says what its content says. -/
theorem run_loadKnowing {content : ByteArray} (known : String → Bool)
    (h : disk.read path = .ok content) :
    disk.run (loadKnowing known path) = ((ofContent known path content).map some, disk) := by
  have hkind : disk.kind? path = some .file := kind?_eq_file_iff.mpr ⟨content, h⟩
  have hread : (FileAccess.read path : StateM Disk _) disk = (.ok content, disk) := Prod.ext h rfl
  unfold loadKnowing
  rw [run_bind, run_entryKind, hkind]
  simp only [run_bind, run_attempt, hread, run_ofResult, Except.mapError]
  cases ofContent known path content <;> rfl

/-- All labels of a file that is accepted are known. -/
theorem known_of_run_loadKnowing (h : disk.run (loadKnowing known path) = (.ok (some config), next)) :
    ∀ label ∈ config.encodings.getD [], known label = true := by
  unfold loadKnowing at h
  simp only [run_bind, run_entryKind] at h
  split at h
  · cases h
  · obtain ⟨content, middle, -, h⟩ := run_bind_eq_ok.mp h
    obtain ⟨found, last, hcontent, h⟩ := run_bind_eq_ok.mp h
    cases h
    have hfound : ofContent known path content = .ok config := congrArg Prod.fst hcontent
    unfold ofContent at hfound
    split at hfound
    · cases hfound
    · split at hfound
      · cases hfound
      · split at hfound
        · cases hfound
        · rename_i hunknown
          cases hfound
          exact unknownLabel?_eq_none_iff.mp hunknown

/-- **A configuration that was written is read back,** if all its labels are known; and if one of them
is not, the file is refused because of such a label. -/
theorem loadKnowing_save (known : String → Bool) {config : FileConfig} {disk next : Disk}
    {path : Path} {force : Bool} (h : disk.run (save path config force) = (.ok (), next)) :
    ((∀ label ∈ config.encodings.getD [], known label = true) →
      next.run (loadKnowing known path) = (.ok (some config), next)) ∧
    ((∃ label ∈ config.encodings.getD [], known label = false) →
      ∃ label ∈ config.encodings.getD [], known label = false ∧
        next.run (loadKnowing known path) = (.error (.unknownEncoding label path), next)) := by
  have hload := run_loadKnowing known (read_of_overwrite (overwrite_of_run_save h))
  rw [ofContent_toText] at hload
  cases hunknown : config.unknownLabel? known with
  | none =>
    have hall := unknownLabel?_eq_none_iff.mp hunknown
    rw [hunknown] at hload
    refine ⟨fun _ => hload, ?_⟩
    rintro ⟨label, hlabel, hnot⟩
    rw [hall label hlabel] at hnot
    cases hnot
  | some label =>
    obtain ⟨hlabel, hnot⟩ := of_unknownLabel? hunknown
    rw [hunknown] at hload
    refine ⟨fun hall => ?_, fun _ => ⟨label, hlabel, hnot, hload⟩⟩
    rw [hall label hlabel] at hnot
    cases hnot

/-- A directory that can be written with escapes only, and two labels. -/
def quotedConfig : FileConfig where
  baseDir := some "a \"b\"\\\n'''c'''\x00"
  encodings := some ["euc-kr", "Latin1"]

/-- A label that no encoding has. -/
def misspeltConfig : FileConfig where
  encodings := some ["uft-8"]

/-- A configuration is written and read back; then another one takes its place, and is refused. -/
theorem loadKnowing_save_twice :
    ∃ next last : Disk,
      (⟨.directory [], []⟩ : Disk).run (save defaultPath quotedConfig false) = (.ok (), next) ∧
      next.run (load defaultPath) = (.ok (some quotedConfig), next) ∧
      next.run (save defaultPath misspeltConfig true) = (.ok (), last) ∧
      last.run (load defaultPath) = (.error (.unknownEncoding "uft-8" defaultPath), last) := by
  let start : Disk := ⟨.directory [], []⟩
  let next : Disk := (start.run (save defaultPath quotedConfig false)).2
  have hfirst : start.run (save defaultPath quotedConfig false) = (.ok (), next) :=
    run_eq_ok_of_toOption (by decide +kernel)
  have hsecond : next.run (save defaultPath misspeltConfig true) = (.ok (), _) :=
    run_eq_ok_of_toOption (by decide +kernel)
  obtain ⟨label, hlabel, -, hrefused⟩ :=
    (loadKnowing_save (fun label => (Encoding.ofLabel? label).isSome) hsecond).2 (by decide +kernel)
  obtain rfl := List.mem_singleton.mp hlabel
  exact ⟨next, _, hfirst, (loadKnowing_save _ hfirst).1 (by decide +kernel), hsecond, hrefused⟩

end DmlOutline.FileConfig
