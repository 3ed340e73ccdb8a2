import SourceTidy.Fault

namespace SourceTidy

inductive LogLevel
  | debug
  | info
  | warning
  | error
  deriving DecidableEq, Repr

namespace LogLevel

def name : LogLevel → String
  | debug => "DEBUG"
  | info => "INFO"
  | warning => "WARNING"
  | error => "ERROR"

def rank : LogLevel → Nat
  | debug => 10
  | info => 20
  | warning => 30
  | error => 40

end LogLevel

inductive Event
  | replacingHeader (length : Nat)
  | saved (path : Path)
  | cannotList (path : Path) (error : OsError)
  | notFollowing (path : Path)
  | special (path : Path)
  | excluded (path : Path)
  | noFormatter (path : Path)
  | failedToFormat (path : Path) (fault : FileFault)
  | failedToRead (path : Path) (error : OsError)
  | usingCommandLine (path : Path)
  | usingProject (path : Path)
  | usingHome (path : Path)
  | usingNothing (home : Path)
  | usingProfile (name : Option Text) (path : Path)
  | usingDefaults
  | registered (formatters : List String)
  deriving DecidableEq, Repr

namespace Event

def level : Event → LogLevel
  | replacingHeader _ => .debug
  | saved _ => .info
  | cannotList _ _ => .warning
  | notFollowing _ => .debug
  | special _ => .debug
  | excluded _ => .debug
  | noFormatter _ => .debug
  | failedToFormat _ _ => .error
  | failedToRead _ _ => .error
  | usingCommandLine _ => .info
  | usingProject _ => .info
  | usingHome _ => .info
  | usingNothing _ => .info
  | usingProfile _ _ => .info
  | usingDefaults => .info
  | registered _ => .debug

def source : Event → String
  | replacingHeader _ => "srcfmt.pipeline"
  | saved _ => "srcfmt.rewriter"
  | cannotList _ _ => "srcfmt.traversal"
  | notFollowing _ => "srcfmt.traversal"
  | special _ => "srcfmt.traversal"
  | excluded _ => "srcfmt.traversal"
  | noFormatter _ => "srcfmt.traversal"
  | failedToFormat _ _ => "srcfmt.traversal"
  | failedToRead _ _ => "srcfmt.traversal"
  | usingCommandLine _ => "srcfmt_cli.config"
  | usingProject _ => "srcfmt_cli.config"
  | usingHome _ => "srcfmt_cli.config"
  | usingNothing _ => "srcfmt_cli.config"
  | usingProfile _ _ => "srcfmt_java.engine"
  | usingDefaults => "srcfmt_java.engine"
  | registered _ => "srcfmt_cli.main"

def message (w : Wording) : Event → String
  | replacingHeader length =>
    "Replacing existing " ++ Numeral.ofNat length ++ "-character header"
  | saved p => "Rewrote " ++ p.toString
  | cannotList p error => "Cannot list " ++ p.toString ++ ": " ++ error.explain
  | notFollowing p => "Not following symbolic link " ++ p.toString
  | special p => "Ignoring special file " ++ p.toString
  | excluded p => "Excluded " ++ p.toString
  | noFormatter p => "No applicable formatter for " ++ p.toString
  | failedToFormat p fault => "Failed to format " ++ p.toString ++ ": " ++ fault.message w
  | failedToRead p error => "Failed to read " ++ p.toString ++ ": " ++ error.explain
  | usingCommandLine p => "Using command line configuration " ++ p.toString
  | usingProject p => "Using project configuration " ++ p.toString
  | usingHome p => "Using home directory configuration at " ++ p.toString
  | usingNothing home =>
    "No command line configuration parameter found, nor home directory configuration of " ++
      home.toString ++ ". Using default formatting"
  | usingProfile name p =>
    let shown := match name with
      | some (c :: rest) => String.ofList (c :: rest)
      | _ => "<unnamed>"
    "Using formatter profile " ++ shown ++ " from " ++ p.toString
  | usingDefaults => "No formatter profile, using Eclipse default formatting"
  | registered formatters => "Registered formatters : " ++ ", ".intercalate formatters

def line (w : Wording) (e : Event) : String :=
  e.level.name ++ " " ++ e.source ++ ": " ++ e.message w

end Event

end SourceTidy
