import SourceTidy.CommandLine.Arguments
import SourceTidy.Configuration.Resolve
import SourceTidy.Registry
import SourceTidy.Run

namespace SourceTidy.CommandLine

/-- How a run ends: with an exit code, after a fault that it reports or without one, or by a fault
that it does not expect. -/
inductive Ending
  | exit (code : Nat) (reported : Option Fault)
  | stopped (fault : Fault)
  deriving DecidableEq, Repr

/-- What a run prints and leaves behind, and the texts that formatters were given. -/
structure Report where
  ending : Ending
  out : String
  err : String
  files : FileSystem
  handed : List Text
  deriving DecidableEq, Repr

def exitFatal : Nat := 2

def exitMissingPath : Nat := 255

def defaultConfigFile : Path := .ofString ".srcfmt.toml"

def usage : String :=
  "Usage: srcfmt [OPTIONS] [path]\n" ++
  "\n" ++
  "  Format a Java file, or every Java file below a directory, in place\n" ++
  "\n" ++
  "Arguments:\n" ++
  "  path <path>  File or directory to format\n" ++
  "\n" ++
  "Options:\n" ++
  "  -c, --conf eclipseConf     Eclipse configuration file to use\n" ++
  "  -l, --level javaVersion    Source level\n" ++
  "  -H, --header txtFile       Source file header\n" ++
  "  -e, --encoding charset     Source encoding\n" ++
  "  -s, --linesep crlf_value   Line separator: lf, cr or crlf\n" ++
  "  -j, --jobs <int>           Number of files formatted in parallel\n" ++
  "  -x, --exclude <list[str]>  Glob pattern of files or directories to leave\n" ++
  "                             alone\n" ++
  "  --config-file <path>       Path to config file  [default: .srcfmt.toml]\n" ++
  "  -v, --verbose              Show debug logging\n" ++
  "  -h, --help                 Shows this help\n"

def help (formatters : List Formatter) : String :=
  usage ++ "\nAvailable source formatters : \n" ++
    String.join (formatters.map fun f => "\t* " ++ f.name ++ " (" ++ f.description ++ ")\n")

/-- The surroundings of a run: what it leaves to others, where the home directory is, and how faults
are worded. -/
structure Surroundings where
  parser : Java.Parser
  home : Path
  wording : Wording
  codecs : Charset.Codecs := Charset.codecs
  xml : Xml.Reader := Xml.read
  construct : Project.Construction := Project.ofTable
  excludedBy : List Text → Except Fault Walk.Excluded := Engine.excludedBy
  arguments : List Text → Except UsageFault Given := Given.ofArguments

def knownFormatters (s : Surroundings) (files : FileSystem) : List Formatter × List Event :=
  let (made, events) := createFormatters s.parser s.xml files {} FormatterKind.all
  (match made with
    | .ok registered => registered.map (·.formatter)
    | .error _ => [], events)

def logText (s : Surroundings) (isVerbose : Bool) (events : List Event) : String :=
  let shown := events.filter fun e => isVerbose || LogLevel.warning.rank ≤ e.level.rank
  String.join (shown.map fun e => e.line s.wording ++ "\n")

def optionsOf (r : Request) : Options where
  conf := r.given.value? .conf
  level := r.given.value? .level
  header := (r.given.value? .header).map Path.ofText
  encoding := r.given.value? .encoding
  linesep := r.given.value? .linesep

def jobsOf (r : Request) (project : Project) : Except Fault Int :=
  let jobs : Int := (r.jobs.orElse fun _ => project.jobs).getD 1
  if jobs < 1 then .error (.argument .jobs) else .ok jobs

def configFileOf (r : Request) : Path :=
  ((r.given.value? .configFile).map Path.ofText).getD defaultConfigFile

def after {α : Type} (events : List Event) (r : Except Fault α × List Event) :
    Except Fault α × List Event :=
  (r.1, events ++ r.2)

/-- The engine that a request asks for, with what is reported while it is made. -/
def engine (s : Surroundings) (files : FileSystem) (r : Request) :
    Except Fault Engine × List Event :=
  match Project.load s.construct files (some (configFileOf r)) with
  | .error fault => (.error fault, [])
  | .ok project =>
    match Resolve.configuration s.codecs files s.home (optionsOf r) project with
    | (.error fault, events) => (.error fault, events)
    | (.ok config, events) => after events <|
      match createFormatters s.parser s.xml files config FormatterKind.all with
      | (.error fault, events) => (.error fault, events)
      | (.ok registered, events) => after events <|
        match jobsOf r project with
        | .error fault => (.error fault, [])
        | .ok jobs =>
          let formatters := registered.map (·.formatter)
          (do
            let excluded ← s.excludedBy (project.exclude ++ r.given.values .exclude)
            return { config, conversion := .ofName s.codecs config.encoding, formatters,
                     jobs := Engine.jobsFor jobs, excluded },
           [.registered (formatters.map (·.name))])

def summaryLine (s : Summary) : String :=
  Numeral.ofNat s.visited ++ " files visited: " ++ Numeral.ofNat (s.count .changed) ++
    " changed, " ++ Numeral.ofNat (s.count .unchanged) ++ " unchanged, " ++
    Numeral.ofNat (s.count .skipped) ++ " skipped, " ++ Numeral.ofNat (s.count .failed) ++
    " failed\n"

def failureLine (w : Wording) (o : Outcome) : String :=
  "FAILED: " ++ o.path.toString ++ " - " ++
    (match o.error with
      | some fault => fault.message w
      | none => "") ++ "\n"

def faultReport (s : Surroundings) (log : String) (files : FileSystem) (handed : List Text)
    (fault : Fault) : Report :=
  if fault.isFatal then
    ⟨.exit exitFatal (some fault), "", log ++ "Error: " ++ fault.message s.wording ++ "\n", files,
      handed⟩
  else ⟨.stopped fault, "", log, files, handed⟩

def format (s : Surroundings) (files : FileSystem) (isVerbose : Bool) (r : Request) (path : Path) :
    Report :=
  match engine s files r with
  | (.error fault, events) => faultReport s (logText s isVerbose events) files [] fault
  | (.ok engine, events) =>
    match engine.visit path { files, log := events } with
    | (.error fault, world) =>
      faultReport s (logText s isVerbose world.log) world.files world.handed fault
    | (.ok summary, world) =>
      ⟨.exit summary.exitCode none, summaryLine summary,
        logText s isVerbose world.log ++ String.join (summary.failures.map (failureLine s.wording)),
        world.files, world.handed⟩

/-- Checks what can be checked without the project, and formats. -/
def execute (s : Surroundings) (files : FileSystem) (r : Request) : Report :=
  let isVerbose := r.given.has .verbose
  match (r.given.value? .linesep).mapM Resolve.lineSeparator with
  | .error fault => faultReport s "" files [] fault
  | .ok _ =>
    match r.path with
    | some path => format s files isVerbose r path
    | none =>
      let (formatters, events) := knownFormatters s files
      ⟨.exit exitMissingPath none, "Missing file or directory parameter.\n" ++ help formatters,
        logText s isVerbose events, files, []⟩

/-- Runs the tool. A request for help comes before everything but arguments that cannot be read. -/
def run (s : Surroundings) (files : FileSystem) (args : List Text) : Report :=
  match s.arguments args with
  | .error fault => ⟨.exit exitFatal none, "", fault.message, files, []⟩
  | .ok given =>
    if given.has .help then ⟨.exit 0 none, help (knownFormatters s files).1, "", files, []⟩
    else
      match given.request with
      | .error fault => ⟨.exit exitFatal none, "", fault.message, files, []⟩
      | .ok request => execute s files request

end SourceTidy.CommandLine
