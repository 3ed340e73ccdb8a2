import SourceTidy.Codec.Utf8
import SourceTidy.Project.Integer
import SourceTidy.Toml.Document

/-!
The settings of a project, from the table `tool.srcfmt` of its configuration file. A file that is
not there means the defaults. All problems of a table are reported, not only the first. Paths in the
file are relative to the file.
-/
namespace SourceTidy

structure Project where
  conf : Option Path := none
  level : Option Text := none
  header : Option Path := none
  encoding : Option Text := none
  linesep : Option Text := none
  exclude : List Text := []
  jobs : Option Int := none
  deriving DecidableEq, Repr

namespace Project

open Toml

def textAt (table : Table) (key : String) (kind : ProblemKind) :
    Except (List Problem) (Option Text) :=
  match table.lookup key.toList with
  | none => .ok none
  | some (.text t) => .ok (some t)
  | some _ => .error [⟨[key], kind⟩]

def textsOf (key : String) : Nat → List Value → Except (List Problem) (List Text)
  | _, [] => .ok []
  | i, v :: rest =>
    match v, textsOf key (i + 1) rest with
    | .text t, .ok ts => .ok (t :: ts)
    | .text _, .error ps => .error ps
    | _, .ok _ => .error [⟨[key, Numeral.ofNat i], .notText⟩]
    | _, .error ps => .error (⟨[key, Numeral.ofNat i], .notText⟩ :: ps)

def textsAt (table : Table) (key : String) : Except (List Problem) (List Text) :=
  match table.lookup key.toList with
  | none => .ok []
  | some (.array items) => textsOf key 0 items
  | some _ => .error [⟨[key], .notList⟩]

/-- The integer that a value stands for. Truth values count as one and zero. -/
def integerOf : Value → Except ProblemKind Int
  | .integer n => .ok n
  | .boolean b => .ok (if b then 1 else 0)
  | .float d => integerOfDouble d
  | .text t => integerOfText t
  | _ => .error .notInteger

/-- A number of jobs is at least one. -/
def jobsAt (table : Table) (key : String) : Except (List Problem) (Option Int) :=
  match table.lookup key.toList with
  | none => .ok none
  | some v =>
    match integerOf v with
    | .error kind => .error [⟨[key], kind⟩]
    | .ok n => if n < 1 then .error [⟨[key], .belowMinimum⟩] else .ok (some n)

def keys : List String :=
  ["conf", "level", "header", "encoding", "linesep", "exclude", "jobs"]

def unknownKeys (table : Table) : List Problem :=
  table.filterMap fun (key, _) =>
    if keys.contains (String.ofList key) then none else some ⟨[String.ofList key], .unknownKey⟩

def problemsOf {α : Type} : Except (List Problem) α → List Problem
  | .ok _ => []
  | .error ps => ps

/-- The settings in a table, or everything that is wrong with it. -/
def ofTable (table : Table) : Except (List Problem) Project :=
  let conf := textAt table "conf" .notPath
  let level := textAt table "level" .notText
  let header := textAt table "header" .notPath
  let encoding := textAt table "encoding" .notText
  let linesep := textAt table "linesep" .notText
  let exclude := textsAt table "exclude"
  let jobs := jobsAt table "jobs"
  match conf, level, header, encoding, linesep, exclude, jobs, unknownKeys table with
  | .ok conf, .ok level, .ok header, .ok encoding, .ok linesep, .ok exclude, .ok jobs, [] =>
    .ok { conf := conf.map Path.ofText, level, header := header.map Path.ofText, encoding, linesep,
          exclude, jobs }
  | _, _, _, _, _, _, _, unknown =>
    .error (problemsOf conf ++ problemsOf level ++ problemsOf header ++ problemsOf encoding ++
      problemsOf linesep ++ problemsOf exclude ++ problemsOf jobs ++ unknown)

def sectionOf (document : Table) : Except Fault Table :=
  match document.lookup "tool".toList with
  | none => .ok []
  | some (.table tools) =>
    match tools.lookup "srcfmt".toList with
    | none => .ok []
    | some (.table entries) => .ok entries
    | some _ => .error .sectionNotTable
  | some _ => .error .toolNotTable

def documentOf (path : Path) (bytes : Bytes) : Except Fault Table :=
  match Utf8.decode bytes with
  | .error _ => .error .projectNotEncoded
  | .ok t =>
    match Toml.read t with
    | .ok table => .ok table
    | .error .malformed => .error (.configuration (.projectUnreadable path .notToml))
    | .error (.tooLong digits) => .error (.projectNumeral digits)

/-- Settings with paths below a directory. -/
def below (base : Path) (p : Project) : Project :=
  { p with conf := p.conf.map base.join, header := p.header.map base.join }

/-- How settings are made of a table. -/
abbrev Construction := Table → Except (List Problem) Project

def ofBytes (construct : Construction) (path : Path) (bytes : Bytes) : Except Fault Project := do
  let document ← documentOf path bytes
  match construct (← sectionOf document) with
  | .ok project => return project.below path.parent
  | .error problems => throw (.configuration (.projectInvalid path (.invalid problems)))

def load (construct : Construction) (files : FileSystem) : Option Path → Except Fault Project
  | none => .ok {}
  | some path =>
    match files.probe path with
    | .error error => .error (.os error path)
    | .ok none => .ok {}
    | .ok (some _) =>
      match files.read path with
      | .error error => .error (.configuration (.projectUnreadable path (.os error path)))
      | .ok bytes => ofBytes construct path bytes

end Project

end SourceTidy
