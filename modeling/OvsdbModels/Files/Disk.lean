/-
  OvsdbModels/Files/Disk.lean
  ===========================
  Files and directories as a value, and a working directory among them.

  A place is the list of names that leads to it from the root.  A path is followed name by name:
  `..` goes up and stays at the root, and every other name must be found in the directory reached
  so far.
-/
import OvsdbModels.Files.Volume
import OvsdbModels.NameMap

namespace OvsdbModels.Files

inductive Entry where
  | directory
  | file (content : ByteArray)

structure Disk where
  entries : List (List String × Entry)
  workingDirectory : List String

namespace Disk

/-- What stands at a place; the root is always a directory. -/
def entryAt (disk : Disk) (place : List String) : Option Entry :=
  if place = [] then some .directory else disk.entries.lookup place

def isDirectory (disk : Disk) (place : List String) : Bool :=
  match disk.entryAt place with
  | some .directory => true
  | _ => false

/-- The disk with something at a place, instead of what stood there. -/
def set (disk : Disk) (place : List String) (entry : Entry) : Disk :=
  { disk with entries := (place, entry) :: disk.entries.filter (·.1 ≠ place) }

/-- The disk with the directories that lead to its working directory. -/
def ofWorkingDirectory (workingDirectory : List String) : Disk :=
  let places := (List.range workingDirectory.length).map fun n => workingDirectory.take (n + 1)
  ⟨places.map fun place => (place, .directory), workingDirectory⟩

/-! ### Following paths -/

/-- The longest name that a directory can hold, in bytes. -/
def maxNameSize : Nat := 255

/-- The place that a name leads to from a directory. -/
def child (place : List String) (name : String) : List String :=
  if name = ".." then place.dropLast else place ++ [name]

/-- The place that names lead to, all but the last through directories. -/
def follow (disk : Disk) (place : List String) : List String → Option (List String)
  | [] => some place
  | name :: names =>
    if disk.isDirectory place then disk.follow (child place name) names else none

/-- The place where a path begins. -/
def origin (disk : Disk) (path : String) : List String :=
  if isAbsolute path then [] else disk.workingDirectory

/-- The place that a path leads to. -/
def place? (disk : Disk) (path : String) : Option (List String) :=
  if isUsablePath path ∧ path ≠ "" then disk.follow (disk.origin path) (pathNames path) else none

/-! ### Reading and writing -/

/-- The content of the file that a path leads to. -/
def read (disk : Disk) (path : String) : Option ByteArray :=
  match disk.place? path with
  | none => none
  | some place =>
    match disk.entryAt place with
    | some (.file content) => if isDirectoryPath path then none else some content
    | _ => none

/-- Goes through names as `follow` does and makes the directories that are missing; tells where it
got to, and the disk even if it got stuck. -/
def makeDirectories (disk : Disk) (place : List String) : List String → Disk × Option (List String)
  | [] => (disk, some place)
  | name :: names =>
    let next := child place name
    match disk.entryAt next with
    | some .directory => disk.makeDirectories next names
    | some (.file _) => (disk, none)
    | none =>
      if name.utf8ByteSize ≤ maxNameSize then (disk.set next .directory).makeDirectories next names
      else (disk, none)

/-- Puts a file into a directory, unless a directory is in the way or its name is no file name. -/
def putFile (disk : Disk) (directory : List String) (name : String) (content : ByteArray) :
    Disk × Bool :=
  if name = ".." ∨ maxNameSize < name.utf8ByteSize then (disk, false)
  else
    let place := directory ++ [name]
    if disk.isDirectory place then (disk, false) else (disk.set place (.file content), true)

/-- Makes the directories that the file of a path lies in. -/
def makeParent (disk : Disk) (path : String) : Disk × Option (List String) :=
  let parent := parentPath path
  if isUsablePath parent then disk.makeDirectories (disk.origin path) (pathNames parent)
  else (disk, none)

/-- Writes the file that a path leads to, making the directories that it lies in; these stay if the
file cannot be written. -/
def write (disk : Disk) (path : String) (content : ByteArray) : Disk × Bool :=
  match disk.makeParent path, (pathNames path).getLast? with
  | (disk, some directory), some name =>
    if isUsablePath path && !isDirectoryPath path then disk.putFile directory name content
    else (disk, false)
  | (disk, _), _ => (disk, false)

def volume : Volume (StateM Disk) where
  read path := return (← get).read path
  isFile path := return ((← get).read path).isSome
  write path content := modifyGet fun disk =>
    let (disk, ok) := disk.write path content
    (ok, disk)

/-! ### Contents -/

def below? (directory place : List String) : Option String :=
  (directory.isPrefixOf? place).map ("/".intercalate ·)

/-- The files below the working directory by their paths, in ascending order. -/
def files (disk : Disk) : NameMap ByteArray :=
  NameMap.ofList (disk.entries.filterMap fun (place, entry) =>
    match entry with
    | .directory => none
    | .file content => (below? disk.workingDirectory place).map fun path => (path, content))

end Disk

end OvsdbModels.Files
