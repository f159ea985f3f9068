/-
  OvsdbModels/Files/Path.lean
  ===========================
  Paths: names of files and directories, separated by slashes.
-/
import OvsdbModels.Text.Split

namespace OvsdbModels.Files

/-- The parts of a path between its slashes; repeated slashes count as one. -/
def pathParts (path : String) : List String :=
  (Text.words (· = '/') path.toList).map String.ofList

/-- The names that a path goes through; a part `.` stays where it is and is no name. -/
def pathNames (path : String) : List String := (pathParts path).filter (· ≠ ".")

def isAbsolute (path : String) : Bool :=
  match path.toList with
  | '/' :: _ => true
  | _ => false

def endsInSlash (path : String) : Bool := path.toList.getLast? = some '/'

/-- Whether a path can only lead to a directory, by the way it ends. -/
def isDirectoryPath (path : String) : Bool :=
  endsInSlash path || (pathParts path).getLast? = some "."

/-- A path below a directory; an absolute path stays what it is. -/
def joinPath (dir path : String) : String :=
  if isAbsolute path then path
  else if dir.isEmpty || endsInSlash dir then dir ++ path
  else dir ++ "/" ++ path

theorem isAbsolute_eq_false {path : String} (h : '/' ∉ path.toList) : isAbsolute path = false := by
  unfold isAbsolute
  split
  · rename_i rest heq
    exact absurd (heq ▸ List.mem_cons_self) h
  · rfl

/-- A name below a directory stands behind the directory's path and a slash. -/
theorem joinPath_eq {dir path : String} (hdir : dir ≠ "") (hslash : endsInSlash dir = false)
    (hpath : '/' ∉ path.toList) : joinPath dir path = dir ++ "/" ++ path := by
  have hempty : dir.isEmpty = false := by simpa using hdir
  rw [joinPath, isAbsolute_eq_false hpath, hempty, hslash]
  rfl

/-- A path, read backwards, without the slashes and the parts `.` that it ends in. -/
def trimReversed : List Char → List Char
  | '/' :: rest => trimReversed rest
  | '.' :: '/' :: rest => trimReversed rest
  | s => s

/-- A path without its last name, and without slashes and parts `.` at its end; empty if there is
no other name. -/
def parentPath (path : String) : String :=
  let behind := (trimReversed path.toList.reverse).dropWhile (· ≠ '/')
  String.ofList (trimReversed behind).reverse

/-- Whether the system takes a text for a path: it has no character zero, and less than 4096
bytes. -/
def isUsablePath (path : String) : Bool :=
  !path.toList.contains '\x00' && path.utf8ByteSize < 4096

end OvsdbModels.Files
