import SourceTidy.Charset.Codec
import SourceTidy.Exclusion.Pattern
import SourceTidy.FileUrl
import SourceTidy.Files.Basic
import SourceTidy.Formatter

/-!
Everything that can stop an operation, by cause.

Faults of arguments, paths and configuration files end a run before any file is touched. Faults of a
file are recorded for that file. The others are not expected and end whatever is going on. All
wording is in the functions `message`; how third-party formats are found wanting is said by a
`Wording`, which the caller may choose.
-/
namespace SourceTidy

inductive ProblemKind
  | notText
  | notPath
  | notChoice
  | notList
  | notInteger
  | fraction
  | notFinite
  | notNumeral
  | tooLarge
  | belowMinimum
  | unknownKey
  | readOnly
  deriving DecidableEq, Repr

structure Problem where
  place : List String
  kind : ProblemKind
  deriving DecidableEq, Repr

inductive Unreadable
  | os (error : OsError) (path : Path)
  | notEncoded
  | notXml
  | notToml
  | invalid (problems : List Problem)
  deriving DecidableEq, Repr

structure Wording where
  notEncoded : String
  notXml : String
  notToml : String
  invalid : String
  syntaxError : SyntaxError → String

def Wording.plain : Wording where
  notEncoded := "the bytes are no text in this encoding"
  notXml := "not well-formed XML"
  notToml := "not well-formed TOML"
  invalid := "invalid settings"
  syntaxError := SyntaxError.message

def OsError.describe (e : OsError) (p : Path) : String :=
  match e.number? with
  | some n =>
    "[Errno " ++ Numeral.ofNat n ++ "] " ++ e.explain ++ ": " ++
      String.ofList (Text.quoted p.toText)
  | none => e.explain

def Unreadable.message (w : Wording) : Unreadable → String
  | os error path => error.describe path
  | notEncoded => w.notEncoded
  | notXml => w.notXml
  | notToml => w.notToml
  | invalid _ => w.invalid

inductive ArgumentFault
  | lineSeparator
  | charset (name : Text)
  | level (fault : Java.LevelFault)
  | jobs
  | pattern (pattern : Text)
  deriving DecidableEq, Repr

def ArgumentFault.message : ArgumentFault → String
  | lineSeparator => "linesep : must be one of ['lf', 'cr', 'crlf']"
  | charset name => "encoding : unknown charset " ++ String.ofList (Text.quoted name)
  | level fault => fault.message
  | jobs => "jobs : must be at least 1"
  | pattern p => "exclude : Invalid git pattern: " ++ String.ofList (Text.quoted p)

inductive ConfigurationFault
  | projectUnreadable (path : Path) (cause : Unreadable)
  | projectInvalid (path : Path) (cause : Unreadable)
  | headerUnreadable (path : Path) (cause : Unreadable)
  | profileNotFound (path : Path)
  | profileUnreadable (path : Path) (cause : Unreadable)
  | noProfile (path : Path)
  | tabulation (path : Path) (key : String)
  | notInteger (path : Path) (key : String) (raw : Text)
  | outOfRange (path : Path) (key : String) (value : Int)
  | profileLevel (path : Path) (fault : Java.LevelFault)
  deriving DecidableEq, Repr

namespace ConfigurationFault

def message (w : Wording) : ConfigurationFault → String
  | projectUnreadable p cause =>
    "cannot read configuration file " ++ p.toString ++ ": " ++ cause.message w
  | projectInvalid p cause => "invalid configuration file " ++ p.toString ++ ": " ++ cause.message w
  | headerUnreadable p cause => "cannot read header file " ++ p.toString ++ ": " ++ cause.message w
  | profileNotFound p => "formatter profile not found: " ++ p.toString
  | profileUnreadable p cause =>
    "cannot read formatter profile " ++ p.toString ++ ": " ++ cause.message w
  | noProfile p => "no formatter profile found in " ++ p.toString
  | tabulation p key => p.toString ++ ": " ++ key ++ " must be one of ['space', 'tab', 'mixed']"
  | notInteger p key raw =>
    p.toString ++ ": " ++ key ++ " is not an integer: " ++ String.ofList (Text.quoted raw)
  | outOfRange p key value =>
    p.toString ++ ": " ++ key ++ " is out of range: " ++ Numeral.ofInt value
  | profileLevel p fault => p.toString ++ ": " ++ fault.message

def problems : ConfigurationFault → List Problem
  | projectInvalid _ (.invalid ps) => ps
  | _ => []

end ConfigurationFault

inductive FileFault
  | undecodable (encoding : Text) (defect : Defect)
  | unencodable (encoding : Text) (defect : Defect)
  | rejected (formatter : String) (cause : Rejection)
  | unreadable (error : OsError)
  | unwritable (error : OsError)
  | withheld (reason : String)
  deriving DecidableEq, Repr

def Rejection.message (w : Wording) : Rejection → String
  | syntaxError error => w.syntaxError error
  | anachronism found => found.message
  | level fault => fault.message
  | other message => message

def FileFault.message (w : Wording) : FileFault → String
  | undecodable encoding defect =>
    "cannot decode as " ++ String.ofList encoding ++ ": " ++ defect.reason ++ " at byte " ++
      Numeral.ofNat defect.position
  | unencodable encoding defect =>
    "cannot encode as " ++ String.ofList encoding ++ ": " ++ defect.reason ++ " at offset " ++
      Numeral.ofNat defect.position
  | rejected formatter cause => formatter ++ ": " ++ cause.message w
  | unreadable error => error.explain
  | unwritable error => error.explain
  | withheld reason => reason

/-- The message of a fault of a file, after the path as it was given. -/
def FileFault.located (path : Option String) (message : String) : String :=
  match path with
  | some path => path ++ ": " ++ message
  | none => message

inductive Fault
  | argument (fault : ArgumentFault)
  | unsupportedPath (path : Path)
  | configuration (fault : ConfigurationFault)
  | file (fault : FileFault) (path : Option Path)
  | charset (fault : CharsetFault)
  | url (fault : FileUrl.UrlFault)
  | outsideRoot (path root : Path)
  | reversedRange
  | os (error : OsError) (path : Path)
  | projectNotEncoded
  | projectNumeral (digits : Nat)
  | toolNotTable
  | sectionNotTable
  | divisionByZero
  | crashed
  | interrupted
  deriving DecidableEq, Repr

namespace Fault

/-- The fault ends a run in an orderly way before any file is touched. -/
def isFatal : Fault → Bool
  | argument _ => true
  | unsupportedPath _ => true
  | configuration _ => true
  | _ => false

def message (w : Wording) : Fault → String
  | argument fault => fault.message
  | unsupportedPath path => "unsupported path : " ++ path.toString
  | configuration fault => fault.message w
  | file fault path => FileFault.located (path.map Path.toString) (fault.message w)
  | charset fault => fault.message
  | url fault => fault.message
  | outsideRoot path root =>
    String.ofList (Text.quoted path.toText) ++ " is not in the subpath of " ++
      String.ofList (Text.quoted root.toText) ++
        " OR one path is relative and the other is absolute."
  | reversedRange => "bad character range"
  | os error path => error.describe path
  | projectNotEncoded => "the configuration file is not UTF-8"
  | projectNumeral digits => (Java.LevelFault.tooLong digits).message
  | toolNotTable => "tool is not a table"
  | sectionNotTable => "tool.srcfmt is not a table"
  | divisionByZero => "division by zero"
  | crashed => "formatter crashed"
  | interrupted => "interrupted"

def problems : Fault → List Problem
  | configuration fault => fault.problems
  | _ => []

def ofPattern : Exclusion.PatternFault → Fault
  | .malformed pattern => argument (.pattern pattern)
  | .reversedRange => reversedRange

end Fault

end SourceTidy
