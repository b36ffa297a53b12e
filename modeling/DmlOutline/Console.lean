import DmlOutline.FileAccess

/-!
# Consoles

What a command needs in order to show something, in whatever monad it works.

* `Console` — texts are printed, and notices are given apart from them.
* `Transcript` — what was shown; computations whose state is a transcript have a console, and the
  files of the computations below them.
-/

namespace DmlOutline

/-- Where results and notices are shown. -/
class Console (m : Type → Type) where
  /-- Prints a text and ends its line. -/
  print : String → m Unit
  /-- Gives a notice on lines of its own. -/
  notify : String → m Unit

/-- What was shown so far. -/
structure Transcript where
  printed : List String := []
  notices : List String := []
  deriving DecidableEq, Repr

namespace Transcript

/-- All that was printed, as one text. -/
def output (transcript : Transcript) : String :=
  String.join (transcript.printed.map (· ++ "\n"))

variable {m : Type → Type} [Monad m]

instance : Console (StateT Transcript m) where
  print text := modify fun transcript =>
    { transcript with printed := transcript.printed ++ [text] }
  notify text := modify fun transcript =>
    { transcript with notices := transcript.notices ++ [text] }

instance [FileAccess m] : FileAccess (StateT Transcript m) where
  kind? path := StateT.lift (FileAccess.kind? path)
  read path := StateT.lift (FileAccess.read path)
  fileNames path := StateT.lift (FileAccess.fileNames path)
  makeDirs path := StateT.lift (FileAccess.makeDirs path)
  create path := StateT.lift (FileAccess.create path)
  createTemp dir := StateT.lift (FileAccess.createTemp dir)
  fill file content := StateT.lift (FileAccess.fill file content)
  move file path := StateT.lift (FileAccess.move file path)
  remove file := StateT.lift (FileAccess.remove file)
  overwrite path content := StateT.lift (FileAccess.overwrite path content)

end Transcript

end DmlOutline
