import SourceTidy.Codec.Basic
import SourceTidy.Path

/-!
A file system as a value: a finite list of bindings from locations to entries. A location is the
list of names that leads to an entry from the root, which is a directory and not listed.

Looking up a path follows symbolic links as an operating system does, up to `maxLinks` of them.
-/
namespace SourceTidy

/-- The names that lead from the root to an entry. -/
abbrev Location := List String

/-- What stands at a location. Modes are the permission bits. -/
inductive Entry
  | file (content : Bytes) (mode : Nat)
  | directory
  | link (target : Text)
  | pipe
  deriving DecidableEq, Repr

/-- Why the operating system refuses a call. `unexplained` has no number. -/
inductive OsError
  | noEntry
  | alreadyThere
  | notDirectory
  | isDirectory
  | noSpace
  | nameTooLong
  | tooManyLinks
  | unexplained (message : String)
  deriving DecidableEq, Repr

namespace OsError

def number? : OsError → Option Nat
  | noEntry => some 2
  | alreadyThere => some 17
  | notDirectory => some 20
  | isDirectory => some 21
  | noSpace => some 28
  | nameTooLong => some 36
  | tooManyLinks => some 40
  | unexplained _ => none

def explain : OsError → String
  | noEntry => "No such file or directory"
  | alreadyThere => "File exists"
  | notDirectory => "Not a directory"
  | isDirectory => "Is a directory"
  | noSpace => "No space left on device"
  | nameTooLong => "File name too long"
  | tooManyLinks => "Too many levels of symbolic links"
  | unexplained message => message

end OsError

structure FileSystem where
  entries : List (Location × Entry)
  current : Location
  deriving DecidableEq, Repr

namespace FileSystem

def get? (fs : FileSystem) (loc : Location) : Option Entry :=
  if loc = [] then some .directory else fs.entries.lookup loc

def names (fs : FileSystem) (loc : Location) : List String :=
  fs.entries.filterMap fun e => if e.1.dropLast = loc then e.1.getLast? else none

/-- Puts an entry in place of the one at its location, or else at the end. -/
def put (loc : Location) (entry : Entry) : List (Location × Entry) → List (Location × Entry)
  | [] => [(loc, entry)]
  | e :: rest => if e.1 = loc then (loc, entry) :: rest else e :: put loc entry rest

/-- Binds a location. An entry that is there already is replaced. -/
def set (fs : FileSystem) (loc : Location) (entry : Entry) : FileSystem :=
  { fs with entries := put loc entry fs.entries }

def erase (fs : FileSystem) (loc : Location) : FileSystem :=
  { fs with entries := fs.entries.filter fun e => e.1 ≠ loc }

def eraseTree (fs : FileSystem) (loc : Location) : FileSystem :=
  { fs with entries := fs.entries.filter fun e => !loc.isPrefixOf e.1 }

/-- Binds a location, and makes directories of the missing locations that lead to it. -/
def setDeep (fs : FileSystem) (loc : Location) (entry : Entry) : FileSystem :=
  let ancestors := (List.range loc.length).map fun n => loc.take n
  let made := ancestors.foldl
    (fun fs a => if (fs.get? a).isSome then fs else fs.set a .directory) fs
  made.set loc entry

def maxLinks : Nat := 40

def maxNameSize : Nat := 255

/-- Where a written path starts when it is met in the directory `here`. -/
def startOf (anchor : Anchor) (here : Location) : Location :=
  if anchor = .current then here else []

/-- The components of the target of a link. A slash at the end asks for a directory. -/
def linkParts (target : Text) : List String :=
  Path.partsOf target ++ (if target.getLast? = some '/' then ["."] else [])

/-- The location that components lead to from `here`. The last component is followed if it is a link
and `follow` says so. -/
def resolveFrom (fs : FileSystem) (follow : Bool) (links : Nat) (here : Location)
    (parts : List String) : Except OsError Location :=
  match parts with
  | [] => .ok here
  | part :: rest =>
    match fs.get? here with
    | none => .error .noEntry
    | some .directory =>
      if part = "." then fs.resolveFrom follow links here rest
      else if part = ".." then fs.resolveFrom follow links here.dropLast rest
      else if maxNameSize < part.utf8ByteSize then .error .nameTooLong
      else
        match fs.get? (here ++ [part]) with
        | none => .error .noEntry
        | some (.link target) =>
          if rest = [] && !follow then .ok (here ++ [part])
          else
            match links with
            | 0 => .error .tooManyLinks
            | left + 1 =>
              fs.resolveFrom follow left (startOf (Path.anchorOf target) here)
                (linkParts target ++ rest)
        | some _ => fs.resolveFrom follow links (here ++ [part]) rest
    | some _ => .error .notDirectory
termination_by (links, parts.length)

/-- The location of a path, with a link at its end followed if `follow` says so. -/
def locate (fs : FileSystem) (follow : Bool) (p : Path) : Except OsError Location :=
  fs.resolveFrom follow maxLinks (startOf p.anchor fs.current) p.parts

def stat (fs : FileSystem) (p : Path) : Except OsError Entry := do
  let loc ← fs.locate true p
  match fs.get? loc with
  | some entry => return entry
  | none => throw .noEntry

/-- What a path leads to, if it leads anywhere. A name that is too long is an error all the same. -/
def probe (fs : FileSystem) (p : Path) : Except OsError (Option Entry) :=
  match fs.stat p with
  | .ok entry => .ok (some entry)
  | .error .nameTooLong => .error .nameTooLong
  | .error _ => .ok none

def isFile (fs : FileSystem) (p : Path) : Bool :=
  match fs.stat p with
  | .ok (.file _ _) => true
  | _ => false

def isDirectory (fs : FileSystem) (p : Path) : Bool :=
  match fs.stat p with
  | .ok .directory => true
  | _ => false

def read (fs : FileSystem) (p : Path) : Except OsError Bytes := do
  match ← fs.stat p with
  | .file content _ => return content
  | .directory => throw .isDirectory
  | _ => return []

end FileSystem

end SourceTidy
