import SourceTidy.Files.Basic

namespace SourceTidy.FileSystem

/-- The location of a path whose last component need not exist. Its directory must. -/
def place (fs : FileSystem) (p : Path) : Except OsError Location := do
  let directory ← fs.locate true p.parent
  match fs.get? directory with
  | some .directory =>
    if maxNameSize < p.name.utf8ByteSize then throw .nameTooLong
    return directory ++ [p.name]
  | some _ => throw .notDirectory
  | none => throw .noEntry

def privateMode : Nat := 0o600

def create (fs : FileSystem) (p : Path) : Except OsError FileSystem := do
  let loc ← fs.place p
  match fs.get? loc with
  | some _ => throw .alreadyThere
  | none => return fs.set loc (.file [] privateMode)

def write (fs : FileSystem) (p : Path) (content : Bytes) : Except OsError FileSystem := do
  let loc ← fs.locate true p
  match fs.get? loc with
  | some (.file _ mode) => return fs.set loc (.file content mode)
  | some .directory => throw .isDirectory
  | some _ => return fs
  | none => throw .noEntry

/-- Sets the mode of a file. Modes of other entries are not kept. -/
def setMode (fs : FileSystem) (p : Path) (mode : Nat) : Except OsError FileSystem := do
  let loc ← fs.locate true p
  match fs.get? loc with
  | some (.file content _) => return fs.set loc (.file content mode)
  | some _ => return fs
  | none => throw .noEntry

/-- Moves a file onto another place in one step. What was there goes away, unless it is a
directory. -/
def replace (fs : FileSystem) (source target : Path) : Except OsError FileSystem := do
  let origin ← fs.locate false source
  let destination ← fs.place target
  match fs.get? origin, fs.get? destination with
  | none, _ => throw .noEntry
  | some _, some .directory => throw .isDirectory
  | some entry, _ => return (fs.set destination entry).erase origin

def unlink (fs : FileSystem) (p : Path) : Except OsError FileSystem := do
  let loc ← fs.locate false p
  match fs.get? loc with
  | some .directory => throw .isDirectory
  | some _ => return fs.erase loc
  | none => throw .noEntry

end SourceTidy.FileSystem
