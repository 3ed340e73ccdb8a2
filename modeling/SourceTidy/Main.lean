import SourceTidy.CommandLine.Run
import SourceTidy.Java.Reader

/-!
The program. It takes the part of the disk that a command line speaks of as a value, runs the tool
on it, prints the report, and writes the contents that changed back in place, so that files keep
their modes. Everything that is decided is decided by `CommandLine.run`.
-/
namespace SourceTidy.Disk

def written (loc : Location) : String := "/" ++ "/".intercalate loc

def locationOf (path : String) : Location := Path.partsOf path.toList

/-- The entry on the disk at a location. The target of a link is its real path. -/
def entry? (loc : Location) : IO (Option Entry) := do
  let place := (← IO.currentDir) / written loc
  try
    match (← place.symlinkMetadata).type with
    | .dir => return some .directory
    | .file => return some (.file (← IO.FS.readBinFile place).toList 0o644)
    | .symlink => return some (.link (← IO.FS.realPath place).toString.toList)
    | .other => return some .pipe
  catch _ => return none

def names (loc : Location) : IO (List String) := do
  let place := (← IO.currentDir) / written loc
  try
    return ((← place.readDir).map (·.fileName)).toList
  catch _ => return []

/-- Takes what components lead to from `here`, and what is below it if `deep`. -/
partial def load (deep : Bool) (here : Location) (parts : List String) (files : FileSystem) :
    IO FileSystem := do
  match parts with
  | [] =>
    if !deep then return files
    else (← names here).foldlM (fun files name => load true here [name] files) files
  | ".." :: rest => load deep here.dropLast rest files
  | part :: rest =>
    let loc := here ++ [part]
    match ← entry? loc with
    | none => return files
    | some (.link target) =>
      let files := files.set loc (.link target)
      load (deep && rest ≠ []) [] (Path.partsOf target ++ rest) files
    | some .directory => load deep loc rest (files.set loc .directory)
    | some entry => return files.set loc entry

def loadPath (deep : Bool) (files : FileSystem) (p : Path) : IO FileSystem :=
  load deep (FileSystem.startOf p.anchor files.current) p.parts files

/-- The paths that arguments speak of besides the one to be formatted. -/
def mentioned (given : CommandLine.Given) : List Path :=
  let plain := [given.value? .header, given.value? .configFile].filterMap fun t => t.map Path.ofText
  let conf := (given.value? .conf).bind fun t => (FileUrl.toPath t).toOption
  CommandLine.defaultConfigFile :: plain ++ conf.toList

def mentionedIn (files : FileSystem) (given : CommandLine.Given) : List Path :=
  let path := ((given.value? .configFile).map Path.ofText).getD CommandLine.defaultConfigFile
  match Project.load Project.ofTable files (some path) with
  | .ok project => project.conf.toList ++ project.header.toList
  | .error _ => []

/-- The part of the disk that a command line speaks of. -/
def files (home : Path) (args : List Text) : IO FileSystem := do
  let current := locationOf (← IO.currentDir).toString
  let here ← load false [] current ⟨[], current⟩
  match CommandLine.Given.ofArguments args with
  | .error _ => return here
  | .ok given =>
    let there ← (mentioned given ++ [Resolve.homeProfile home]).foldlM (loadPath false) here
    let all ← (mentionedIn there given).foldlM (loadPath false) there
    (given.operands.map Path.ofText).foldlM (loadPath true) all

/-- Writes the contents that differ back to the disk. -/
def store (before after : FileSystem) : IO Unit :=
  after.entries.forM fun (loc, entry) =>
    match entry with
    | .file content _ =>
      match before.get? loc with
      | some (.file earlier _) =>
        if earlier = content then pure ()
        else do IO.FS.writeBinFile ((← IO.currentDir) / written loc) ⟨content.toArray⟩
      | _ => pure ()
    | _ => pure ()

end SourceTidy.Disk

open SourceTidy in
def main (args : List String) : IO UInt32 := do
  let home := Path.ofString ((← IO.getEnv "HOME").getD "/")
  let texts := args.map String.toList
  let before ← Disk.files home texts
  let report := CommandLine.run { parser := Java.reader, home, wording := .plain } before texts
  Disk.store before report.files
  (← IO.getStdout).putStr report.out
  (← IO.getStderr).putStr report.err
  match report.ending with
  | .exit code _ => return code.toUInt32
  | .stopped fault =>
    (← IO.getStderr).putStr (fault.message .plain ++ "\n")
    return 1
