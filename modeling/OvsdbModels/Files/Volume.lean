/-
  OvsdbModels/Files/Volume.lean
  =============================
  What a program needs of the files that it works on, and writing files that may be up to date.
-/
import OvsdbModels.Files.Path

namespace OvsdbModels.Files

structure Volume (m : Type → Type) where
  /-- The content of a file; nothing if it cannot be read. -/
  read : String → m (Option ByteArray)
  isFile : String → m Bool
  /-- Writes a file, making the directories that it lies in; tells whether it could be written. -/
  write : String → ByteArray → m Bool

/-- What happens to a file that is there already. -/
inductive Overwrite where
  | always
  /-- It is left alone if it has the same content. -/
  | ifChanged
  deriving DecidableEq, Repr, Inhabited

inductive WriteResult where
  | written
  | unchanged
  deriving DecidableEq, Repr

namespace Volume

variable {m : Type → Type} [Monad m]

/-- The text of a file; nothing if it cannot be read or is not in UTF-8. -/
def readText (volume : Volume m) (path : String) : m (Option String) := do
  return (← volume.read path).bind String.fromUTF8?

/-- Whether a file is to be left alone because it has the given text already. -/
def isCurrent (volume : Volume m) (overwrite : Overwrite) (path content : String) : m Bool :=
  match overwrite with
  | .always => pure false
  | .ifChanged => do return (← volume.readText path) == some content

/-- Writes a text to a file; nothing if it could not be written. -/
def writeText (volume : Volume m) (overwrite : Overwrite) (path content : String) :
    m (Option WriteResult) := do
  if ← volume.isCurrent overwrite path content then pure (some .unchanged)
  else if ← volume.write path content.toUTF8 then pure (some .written)
  else pure none

end Volume

end OvsdbModels.Files
