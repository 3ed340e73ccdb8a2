import SourceTidy.Exclusion.Basic
import SourceTidy.Log

/-!
The walk over a directory tree: the regular files below a root, without following symbolic links.

In each directory the files come first, by name, and then the subdirectories, by name. Excluded
directories are not entered. What is passed over is noted between the files, in the order of the
walk.
-/
namespace SourceTidy

/-- What the walk meets: a file to be visited, or something to report. -/
inductive Finding
  | file (path : Path)
  | note (event : Event)
  deriving DecidableEq, Repr

def Finding.path? : Finding → Option Path
  | file path => some path
  | note _ => none

namespace FileSystem

def list (fs : FileSystem) (p : Path) : Except OsError (List String) := do
  let loc ← fs.locate true p
  match fs.get? loc with
  | some .directory => return fs.names loc
  | some _ => throw .notDirectory
  | none => throw .noEntry

/-- The path itself is a symbolic link. -/
def isLink (fs : FileSystem) (p : Path) : Bool :=
  match fs.locate false p with
  | .ok loc => match fs.get? loc with
    | some (.link _) => true
    | _ => false
  | .error _ => false

end FileSystem

namespace Walk

/-- Which files and directories a walk leaves out, by their components below the root. -/
abbrev Excluded := List String → Bool → Bool

def sortNames (names : List String) : List String :=
  names.mergeSort fun a b => decide (a ≤ b)

def pathTo (root : Path) (below : List String) : Path :=
  root.join ⟨.current, below⟩

def inspect (fs : FileSystem) (excluded : Excluded) (root : Path) (below : List String)
    (name : String) : Finding :=
  let path := pathTo root (below ++ [name])
  if fs.isLink path then .note (.notFollowing path)
  else if !fs.isFile path then .note (.special path)
  else if excluded (below ++ [name]) false then .note (.excluded path)
  else .file path

/-- The names in the directory `below` the root: those of its files, and those of its subdirectories
that are not excluded, which may be links. -/
def listing (fs : FileSystem) (excluded : Excluded) (root : Path) (below : List String) :
    Except OsError (List String × List String) := do
  let names ← fs.list (pathTo root below)
  let isDirectory := fun name => fs.isDirectory (pathTo root (below ++ [name]))
  let isKept := fun name => isDirectory name && !excluded (below ++ [name]) true
  return (sortNames (names.filter fun name => !isDirectory name), sortNames (names.filter isKept))

/-- The findings in the directory `below` the root and further down, to a depth of `depth`. -/
def findingsFrom (fs : FileSystem) (excluded : Excluded) (root : Path) :
    Nat → List String → List Finding
  | 0, _ => []
  | depth + 1, below =>
    match listing fs excluded root below with
    | .error error => [.note (.cannotList (pathTo root below) error)]
    | .ok (files, directories) =>
      files.map (inspect fs excluded root below) ++ directories.flatMap fun name =>
        if fs.isLink (pathTo root (below ++ [name])) then []
        else findingsFrom fs excluded root depth (below ++ [name])

/-- The findings below a root. No tree is deeper than it has entries. -/
def findings (fs : FileSystem) (excluded : Excluded) (root : Path) : List Finding :=
  findingsFrom fs excluded root (fs.entries.length + 1) []

/-- The files below a root, in the order in which they are visited. -/
def files (fs : FileSystem) (excluded : Excluded) (root : Path) : List Path :=
  (findings fs excluded root).filterMap Finding.path?

/-- What is reported during a walk that visits no file. -/
def notes (fs : FileSystem) (excluded : Excluded) (root : Path) : List Event :=
  (findings fs excluded root).filterMap fun
    | .file _ => none
    | .note event => some event

end Walk

end SourceTidy
