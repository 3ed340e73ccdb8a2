import SourceTidy.Files.RealPath
import SourceTidy.Log
import SourceTidy.Project.Settings

namespace SourceTidy

structure Options where
  conf : Option Text := none
  level : Option Text := none
  header : Option Path := none
  encoding : Option Text := none
  linesep : Option Text := none
  deriving DecidableEq, Repr

namespace Resolve

def lineSeparator (name : Text) : Except Fault LineSeparator :=
  match LineSeparator.ofName? (Text.lowerAscii name) with
  | some s => .ok s
  | none => .error (.argument .lineSeparator)

def encoding (name : Text) : Except Fault Text :=
  if name.contains '\x00' then .error (.charset .hasNull)
  else
    match Charset.find? name with
    | some entry => .ok entry.canonical.toList
    | none => .error (.argument (.charset name))

/-- An empty text gives way to another one. -/
def orNext (first second : Option Text) : Option Text :=
  match first with
  | some (c :: rest) => some (c :: rest)
  | _ => second

def nonempty? : Option Text → Option Text
  | some (c :: rest) => some (c :: rest)
  | _ => none

/-- The text of a header file. Every line break is a line feed. -/
def header (codecs : Charset.Codecs) (files : FileSystem) (path : Path) (encoding : Text) :
    Except Fault Text :=
  match files.read path with
  | .error error => .error (.configuration (.headerUnreadable path (.os error path)))
  | .ok bytes =>
    match Charset.codec codecs encoding .reading with
    | .error fault => .error (.charset fault)
    | .ok codec =>
      match codec.read bytes with
      | .error (.malformed _) => .error (.configuration (.headerUnreadable path .notEncoded))
      | .error (.unplaced message) => .error (.charset (.unplaced message))
      | .ok t => .ok (Text.lineFeeds t)

def homeProfile (home : Path) : Path := home.child "formatter-profile.xml"

/-- The profile that is asked for, and how that is reported: that of the command line, else that of
the project, else that in the home directory if there is one. -/
def chosenProfile (files : FileSystem) (home : Path) (conf : Option Text) (project : Project) :
    Except Fault (Option Path) × List Event :=
  match conf, project.conf with
  | some conf, _ =>
    match FileUrl.toPath conf with
    | .ok path => (.ok (some path), [.usingCommandLine path])
    | .error fault => (.error (.url fault), [])
  | none, some path => (.ok (some path), [.usingProject path])
  | none, none =>
    match files.probe (homeProfile home) with
    | .ok (some _) => (.ok (some (homeProfile home)), [.usingHome (homeProfile home)])
    | .ok none => (.ok none, [.usingNothing (homeProfile home)])
    | .error error => (.error (.os error (homeProfile home)), [])

/-- The real path of the profile, which must be a file. -/
def profile (files : FileSystem) (home : Path) (conf : Option Text) (project : Project) :
    Except Fault (Option Path) × List Event :=
  match chosenProfile files home conf project with
  | (.ok (some path), events) =>
    match files.probe path with
    | .ok (some (.file _ _)) => (.ok (some (files.realPath path)), events)
    | .ok _ => (.error (.configuration (.profileNotFound path)), events)
    | .error error => (.error (.os error path), events)
  | (.ok none, events) => (.ok none, events)
  | (.error fault, events) => (.error fault, events)

def separatorOf (options : Options) (project : Project) : Except Fault LineSeparator :=
  match options.linesep.orElse fun _ => project.linesep with
  | some name => lineSeparator name
  | none => .ok .default

def encodingOf (options : Options) (project : Project) : Except Fault Text :=
  match nonempty? (orNext options.encoding project.encoding) with
  | some name => encoding name
  | none => .ok Configuration.defaultEncoding

def headerOf (codecs : Charset.Codecs) (files : FileSystem) (options : Options) (project : Project)
    (encoding : Text) : Except Fault (Option Text) :=
  match options.header.orElse fun _ => project.header with
  | some path => (header codecs files path encoding).map some
  | none => .ok none

/-- Everything but the profile, which is resolved last. -/
def withoutProfile (codecs : Charset.Codecs) (files : FileSystem) (options : Options)
    (project : Project) : Except Fault Configuration := do
  let lineSeparator ← separatorOf options project
  let encoding ← encodingOf options project
  let header ← headerOf codecs files options project encoding
  return { sourceLevel := orNext options.level project.level, encoding, lineSeparator, header }

def configuration (codecs : Charset.Codecs) (files : FileSystem) (home : Path) (options : Options)
    (project : Project) : Except Fault Configuration × List Event :=
  match withoutProfile codecs files options project with
  | .error fault => (.error fault, [])
  | .ok config =>
    match profile files home options.conf project with
    | (.ok profile, events) => (.ok { config with profile }, events)
    | (.error fault, events) => (.error fault, events)

end Resolve

end SourceTidy
