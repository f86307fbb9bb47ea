/-
**Files and folders.** A disk says what is found at each path. Every operation looks at the
folders on the way first, so a path below a file is refused, and a call that fails changes
nothing.

* `Path`, `Entry`, `Disk`: names from the innermost outwards, what is found there, and all of it.
* `Disk.reach`: what a path leads to.
* `Disk.read`, `Disk.write`, `Disk.rename`, `Disk.remove`, `Disk.makeFolders`, `Disk.names`: the
  calls.
-/

namespace LaneChart.Files

/-- The names on the way to a file, the last one first; the top folder has none. -/
abbrev Path := List String

/-- What is found at a path. -/
inductive Entry where
  | file (content : ByteArray)
  | folder

/-- Files are equal when their bytes are. -/
instance : DecidableEq Entry
  | .file left, .file right =>
    decidable_of_iff (left.data = right.data)
      ⟨fun same => congrArg Entry.file (ByteArray.ext same), fun same => by cases same; rfl⟩
  | .folder, .folder => .isTrue rfl
  | .file _, .folder => .isFalse nofun
  | .folder, .file _ => .isFalse nofun

/-- **Why a call fails.** -/
inductive Fault where
  | notFound
  | alreadyThere
  | notAFolder
  | isAFolder
  | notText
deriving DecidableEq, Repr

/-- How it is said that a call fails. -/
def Fault.message : Fault → String
  | .notFound => "No such file or directory (os error 2)"
  | .alreadyThere => "File exists (os error 17)"
  | .notAFolder => "Not a directory (os error 20)"
  | .isAFolder => "Is a directory (os error 21)"
  | .notText => "stream did not contain valid UTF-8"

/-- **Everything on a disk** but the top folder, which is always there. -/
structure Disk where
  entries : List (Path × Entry) := []
deriving DecidableEq

namespace Disk

/-- What the disk lists at a path, wherever the path leads. -/
def entry? (disk : Disk) (path : Path) : Option Entry :=
  if path.isEmpty then some .folder else disk.entries.lookup path

/-- The disk with something else at a path. -/
def put (disk : Disk) (path : Path) (entry : Entry) : Disk :=
  ⟨(path, entry) :: disk.entries.filter (·.1 ≠ path)⟩

/-- The disk with nothing at a path. -/
def clear (disk : Disk) (path : Path) : Disk := ⟨disk.entries.filter (·.1 ≠ path)⟩

/-- **What a path leads to.** All names but the last have to be folders. -/
def reach (disk : Disk) : Path → Except Fault (Option Entry)
  | [] => .ok (some .folder)
  | name :: outer =>
    match disk.reach outer with
    | .error fault => .error fault
    | .ok none => .error .notFound
    | .ok (some (.file _)) => .error .notAFolder
    | .ok (some .folder) => .ok (disk.entry? (name :: outer))

/-- Whether a path leads to anything. -/
def has (disk : Disk) (path : Path) : Bool :=
  match disk.reach path with
  | .ok (some _) => true
  | _ => false

/-- The text of the file at a path. -/
def read (disk : Disk) (path : Path) : Except Fault String := do
  match ← disk.reach path with
  | none => throw .notFound
  | some .folder => throw .isAFolder
  | some (.file content) =>
    match String.fromUTF8? content with
    | some text => return text
    | none => throw .notText

/-- Makes a file with a text, or gives it to the file that is there. -/
def write (disk : Disk) (path : Path) (text : String) : Except Fault Disk := do
  match ← disk.reach path with
  | some .folder => throw .isAFolder
  | _ => return disk.put path (.file text.toUTF8)

/-- Moves a file to a path; a file that is there is replaced. -/
def rename (disk : Disk) (source target : Path) : Except Fault Disk := do
  match ← disk.reach source, ← disk.reach target with
  | none, _ => throw .notFound
  | some _, some .folder => throw .isAFolder
  | some entry, _ => return (disk.clear source).put target entry

/-- Removes a file. -/
def remove (disk : Disk) (path : Path) : Except Fault Disk := do
  match ← disk.reach path with
  | none => throw .notFound
  | some .folder => throw .isAFolder
  | some (.file _) => return disk.clear path

/-- Makes a folder where nothing is. -/
def makeFolder (disk : Disk) (path : Path) : Except Fault Disk := do
  match ← disk.reach path with
  | some _ => throw .alreadyThere
  | none => return disk.put path .folder

/-- **Makes a folder and the folders on the way,** unless they are there. -/
def makeFolders (disk : Disk) : Path → Except Fault Disk
  | [] => .ok disk
  | name :: outer =>
    match disk.reach (name :: outer) with
    | .ok (some .folder) => .ok disk
    | .ok (some (.file _)) => .error .alreadyThere
    | .ok none => disk.makeFolder (name :: outer)
    | .error .notFound => do (← disk.makeFolders outer).makeFolder (name :: outer)
    | .error fault => .error fault

/-- The names in a folder, in order. -/
def names (disk : Disk) (path : Path) : Except Fault (List String) := do
  match ← disk.reach path with
  | none => throw .notFound
  | some (.file _) => throw .notAFolder
  | some .folder =>
    return (disk.entries.filterMap fun (other, _) =>
      match other with
      | name :: outer => if outer = path then some name else none
      | [] => none).mergeSort (fun first second => first ≤ second)

end Disk

end LaneChart.Files
