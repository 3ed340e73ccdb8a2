import SourceTidy.Outcome
import SourceTidy.Pipeline
import SourceTidy.Saving
import SourceTidy.Walk

/-!
A run over a file or a directory tree: every eligible file goes through the pipeline and is saved
if its bytes change. A fault of one file is recorded in its outcome, and the run goes on.
-/
namespace SourceTidy

/-- What a run works with. `excluded` answers for components below the root, and `withheld` gives
the reason why a file must not be saved, if there is one. -/
structure Engine where
  config : Configuration
  conversion : Conversion
  formatters : List Formatter
  jobs : Nat := 1
  excluded : Walk.Excluded := fun _ _ => false
  withheld : Path → Option String := fun _ => none

/-- The files of a run, what has been reported, and the texts that formatters were given. -/
structure World where
  files : FileSystem
  log : List Event := []
  handed : List Text := []
  deriving DecidableEq, Repr

namespace World

def report (w : World) (events : List Event) : World :=
  { w with log := w.log ++ events }

/-- Writes contents to a file, if they differ from what is there. -/
def save (w : World) (faults : Saving.Faults) (path : Path) (content : Bytes)
    (known : Option Bytes) : Except Fault Bool × World :=
  match Saving.run faults w.files path content known with
  | (.ok changed, files) =>
    (.ok changed, { w with files }.report (if changed then [.saved path] else []))
  | (.error (.os error), files) =>
    (.error (.file (.unwritable error) (some path)), { w with files })
  | (.error (.other fault), files) => (.error fault, { w with files })

end World

namespace Engine

/-- The number of jobs of a run, for any number that is asked for. -/
def jobsFor (asked : Int) : Nat := (max 1 asked).toNat

/-- The patterns as a walk uses them. Without patterns nothing is excluded. -/
def excludedBy (patterns : List Text) : Except Fault Walk.Excluded := do
  match Exclusion.readPatterns patterns with
  | .error fault => throw (.ofPattern fault)
  | .ok read =>
    return fun parts isDirectory => Exclusion.excludes read (Path.relativeText parts isDirectory)

/-- Whether a run over a root leaves a path out. Without patterns the path need not be below the
root. -/
def excludesPath (patterns : List Text) (root path : Path) (isDirectory : Bool) :
    Except Fault Bool := do
  let excluded ← excludedBy patterns
  if patterns.isEmpty then return false
  else
    match path.below? root with
    | some parts => return excluded parts isDirectory
    | none => throw (.outsideRoot path root)

def applicable (engine : Engine) (path : Path) : List Formatter :=
  engine.formatters.filter (·.appliesTo path)

def failure (names : List String) (path : Path) (fault : FileFault) : Outcome :=
  ⟨path, .failed, names, some fault⟩

/-- Writes formatted bytes back, unless they are withheld. -/
def store (engine : Engine) (path : Path) (formatted content : Bytes) (world : World) :
    Except Fault Bool × World :=
  match engine.withheld path with
  | some reason => (.error (.file (.withheld reason) (some path)), world)
  | none => world.save .none path formatted (some content)

def formatFile (engine : Engine) (path : Path) (formatters : List Formatter) (content : Bytes)
    (world : World) : Except Fault Bool × World :=
  let piped := Pipeline.apply engine.conversion engine.config formatters content
  let world := { world with handed := world.handed ++ piped.handed }.report piped.events
  match piped.result with
  | .error fault => (.error fault, world)
  | .ok formatted => engine.store path formatted content world

/-- Runs the pipeline on one file and saves it if it changed. -/
def process (engine : Engine) (path : Path) (world : World) : Except Fault Outcome × World :=
  let formatters := engine.applicable path
  let names := formatters.map (·.name)
  if formatters.isEmpty then (.ok ⟨path, .skipped, [], none⟩, world.report [.noFormatter path])
  else
    match world.files.read path with
    | .error error =>
      (.ok (failure names path (.unreadable error)), world.report [.failedToRead path error])
    | .ok content =>
      match engine.formatFile path formatters content world with
      | (.ok changed, world) =>
        (.ok ⟨path, if changed then .changed else .unchanged, names, none⟩, world)
      | (.error (.file fault _), world) =>
        (.ok (failure names path fault), world.report [.failedToFormat path fault])
      | (.error fault, world) => (.error fault, world)

/-- A part of a run: what it does to the world, and the outcomes in order. A fault that is not
confined to a file stops it. -/
abbrev Part := World → Except Fault (List Outcome) × World

def andThen (first second : Part) : Part := fun world =>
  match first world with
  | (.error fault, world) => (.error fault, world)
  | (.ok outcomes, world) =>
    match second world with
    | (.ok more, world) => (.ok (outcomes ++ more), world)
    | (.error fault, world) => (.error fault, world)

/-- One part for each of several names, in turn. -/
def inTurn (part : String → Part) : List String → Part
  | [] => fun world => (.ok [], world)
  | name :: names => andThen (part name) (inTurn part names)

/-- Deals with a finding. A file is processed, and anything else is reported. -/
def meet (engine : Engine) : Finding → Part
  | .note event, world => (.ok [], world.report [event])
  | .file path, world =>
    match engine.process path world with
    | (.ok outcome, world) => (.ok [outcome], world)
    | (.error fault, world) => (.error fault, world)

/-- Formats the files in the directory `below` the root and further down, to a depth of `depth`. A
directory is listed when its turn has come, and a file is looked at when its turn has come, so both
are seen as the files before them have left them. -/
def visitBelow (engine : Engine) (root : Path) : Nat → List String → Part
  | 0, _, world => (.ok [], world)
  | depth + 1, below, world =>
    match Walk.listing world.files engine.excluded root below with
    | .error error => (.ok [], world.report [.cannotList (Walk.pathTo root below) error])
    | .ok (files, directories) =>
      let visitFile : String → Part := fun name world =>
        engine.meet (Walk.inspect world.files engine.excluded root below name) world
      let visitDirectory : String → Part := fun name world =>
        if world.files.isLink (Walk.pathTo root (below ++ [name])) then (.ok [], world)
        else visitBelow engine root depth (below ++ [name]) world
      andThen (inTurn visitFile files) (inTurn visitDirectory directories) world

/-- Outcomes in the order of their written paths. -/
def sortOutcomes (outcomes : List Outcome) : List Outcome :=
  outcomes.mergeSort fun a b => decide (a.path.toString ≤ b.path.toString)

/-- Formats a file, or every file below a directory. No tree is deeper than it has entries. -/
def visitRoot (engine : Engine) (root : Path) : Part := fun world =>
  match world.files.probe root with
  | .ok (some (.file _ _)) => engine.meet (.file root) world
  | .ok (some .directory) => engine.visitBelow root (world.files.entries.length + 1) [] world
  | .ok _ => (.error (.unsupportedPath root), world)
  | .error error => (.error (.os error root), world)

/-- Formats a file or every file below a directory, and sums up. With several jobs the outcomes come
in the order of their paths. -/
def visit (engine : Engine) (root : Path) (world : World) : Except Fault Summary × World :=
  match engine.visitRoot root world with
  | (.error fault, world) => (.error fault, world)
  | (.ok outcomes, world) =>
    (.ok ⟨if 1 < engine.jobs then sortOutcomes outcomes else outcomes⟩, world)

end Engine

end SourceTidy
