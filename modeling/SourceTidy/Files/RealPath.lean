import SourceTidy.Files.Basic

/-!
Real paths: a path with every symbolic link in it replaced by what the link stands for. Parts that
do not exist are kept, and so is what follows a circle of links.
-/
namespace SourceTidy.FileSystem

def linkCount (fs : FileSystem) : Nat :=
  fs.entries.countP fun e => match e.2 with | .link _ => true | _ => false

/-- The real location of components met at `here`, and whether it was reached. Links in `pending`
are being resolved already, so meeting one again closes a circle. `..` leads back from the real
location. -/
def realFrom (fs : FileSystem) (depth : Nat) (pending : List Location) (here : Location)
    (parts : List String) : List String × Bool :=
  match parts with
  | [] => (here, true)
  | part :: rest =>
    if part = "." then fs.realFrom depth pending here rest
    else if part = ".." then fs.realFrom depth pending here.dropLast rest
    else
      match fs.get? (here ++ [part]) with
      | some (.link target) =>
        if pending.contains (here ++ [part]) then (here ++ part :: rest, false)
        else
          match depth with
          | 0 => (here ++ part :: rest, false)
          | inner + 1 =>
            match fs.realFrom inner ((here ++ [part]) :: pending)
                (startOf (Path.anchorOf target) here) (Path.partsOf target) with
            | (real, true) => fs.realFrom (inner + 1) pending real rest
            | (real, false) => (real ++ rest, false)
      | _ => fs.realFrom depth pending (here ++ [part]) rest
termination_by (depth, parts.length)

/-- The names that are left when `.` and `..` are worked out in writing. -/
def flatten (parts : List String) : List String :=
  parts.foldl (fun acc part =>
    if part = "." then acc else if part = ".." then acc.dropLast else acc ++ [part]) []

/-- The real path of a path. It is absolute. -/
def realPath (fs : FileSystem) (p : Path) : Path :=
  ⟨.root, flatten (fs.realFrom fs.linkCount [] (startOf p.anchor fs.current) p.parts).1⟩

end SourceTidy.FileSystem
