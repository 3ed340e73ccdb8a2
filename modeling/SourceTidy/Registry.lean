import SourceTidy.Java.Formatter
import SourceTidy.Java.Profile
import SourceTidy.Log

namespace SourceTidy

/-- The kinds of formatters, in the order in which they are applied. -/
inductive FormatterKind
  | java
  deriving DecidableEq, Repr

namespace FormatterKind

def name : FormatterKind → String
  | java => "java"

def all : List FormatterKind := [java]

def ofName? (name : String) : Option FormatterKind :=
  all.find? (·.name = name)

/-- The chosen kinds, in the order in which they are applied. -/
def choose : Option (List FormatterKind) → List FormatterKind
  | none => all
  | some kinds => all.filter kinds.contains

end FormatterKind

structure Registered where
  formatter : Formatter
  rules : List String
  settings : Java.Settings

/-- Checks the source level of a run, or that of the profile if the run has none. -/
def checkLevel (config : Configuration) (settings : Java.Settings) : Except Fault Unit :=
  match config.sourceLevel, settings.sourceLevel with
  | some level, _ =>
    match Java.SourceLevel.ofText level with
    | .ok _ => .ok ()
    | .error fault => .error (.argument (.level fault))
  | none, some level =>
    match Java.SourceLevel.ofText level, config.profile with
    | .error fault, some path => .error (.configuration (.profileLevel path fault))
    | _, _ => .ok ()
  | none, none => .ok ()

/-- The settings of the Java formatter: those of the profile, or the defaults. -/
def javaSettings (xml : Xml.Reader) (files : FileSystem) (config : Configuration) :
    Except Fault Java.Settings × List Event :=
  match config.profile with
  | none => (.ok {}, [.usingDefaults])
  | some path =>
    match Java.Profile.load xml files path with
    | .ok settings => (.ok settings, [.usingProfile settings.name path])
    | .error fault => (.error fault, [])

def FormatterKind.create (parser : Java.Parser) (xml : Xml.Reader) (files : FileSystem)
    (config : Configuration) : FormatterKind → Except Fault Registered × List Event
  | java =>
    let (settings, events) := javaSettings xml files config
    let made := do
      let settings ← settings
      checkLevel config settings
      return ⟨Java.formatter parser settings, Java.Rule.all.map (·.name), settings⟩
    (made, events)

/-- Makes formatters in order, up to the first that cannot be made. -/
def createFormatters (parser : Java.Parser) (xml : Xml.Reader) (files : FileSystem)
    (config : Configuration) : List FormatterKind → Except Fault (List Registered) × List Event
  | [] => (.ok [], [])
  | kind :: kinds =>
    match kind.create parser xml files config with
    | (.error fault, events) => (.error fault, events)
    | (.ok first, events) =>
      let (rest, more) := createFormatters parser xml files config kinds
      (rest.map (first :: ·), events ++ more)

end SourceTidy
