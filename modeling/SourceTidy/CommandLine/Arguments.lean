import SourceTidy.CommandLine.Similar
import SourceTidy.Project.Integer

/-!
The arguments of the command line. Options and the path may be mixed. A value stands after its
option, or in the same argument. After two hyphens nothing is an option.
-/
namespace SourceTidy.CommandLine

inductive Opt
  | conf
  | level
  | header
  | encoding
  | linesep
  | jobs
  | exclude
  | configFile
  | verbose
  | help
  deriving DecidableEq, Repr

namespace Opt

def all : List Opt :=
  [conf, level, header, encoding, linesep, jobs, exclude, configFile, verbose, help]

def letter? : Opt → Option Char
  | conf => some 'c'
  | level => some 'l'
  | header => some 'H'
  | encoding => some 'e'
  | linesep => some 's'
  | jobs => some 'j'
  | exclude => some 'x'
  | configFile => none
  | verbose => some 'v'
  | help => some 'h'

def long : Opt → String
  | conf => "--conf"
  | level => "--level"
  | header => "--header"
  | encoding => "--encoding"
  | linesep => "--linesep"
  | jobs => "--jobs"
  | exclude => "--exclude"
  | configFile => "--config-file"
  | verbose => "--verbose"
  | help => "--help"

def takesValue : Opt → Bool
  | verbose => false
  | help => false
  | _ => true

def ofLong? (t : Text) : Option Opt :=
  all.find? fun o => o.long.toList = t

def ofLetter? (c : Char) : Option Opt :=
  all.find? fun o => o.letter? = some c

end Opt

inductive UsageFault
  | noSuchOption (name : Text) (near : List String)
  | missingValue (name : Text)
  | unwantedValue (name : Text)
  | extraArguments (args : List Text)
  | badJobs (kind : ProblemKind)
  deriving DecidableEq, Repr

namespace UsageFault

def usageLine : String := "Usage: srcfmt [OPTIONS] [path]\n"

def shown (t : Text) : String := String.ofList t

def reason : UsageFault → String
  | noSuchOption name [] => "No such option: " ++ shown name
  | noSuchOption name near =>
    "No such option: " ++ shown name ++ " (Possible options: " ++ ", ".intercalate near ++ ")"
  | missingValue name => "Option '" ++ shown name ++ "' requires an argument."
  | unwantedValue name => "Option '" ++ shown name ++ "' does not take a value."
  | extraArguments args =>
    "Got unexpected extra argument(s) (" ++ " ".intercalate (args.map shown) ++ ")"
  | badJobs .tooLarge =>
    "Invalid value for '-j' / '--jobs': Unable to parse input string as an integer, " ++
      "exceeded maximum size"
  | badJobs _ =>
    "Invalid value for '-j' / '--jobs': Input should be a valid integer, " ++
      "unable to parse string as an integer"

def showsUsage : UsageFault → Bool
  | missingValue _ => false
  | unwantedValue _ => false
  | _ => true

def message (f : UsageFault) : String :=
  (if f.showsUsage then usageLine ++ "\n" else "") ++ "Error: " ++ f.reason ++ "\n"

end UsageFault

/-- The options with their values, and the other arguments, in the order in which they are given. -/
structure Given where
  options : List (Opt × Text) := []
  operands : List Text := []
  deriving DecidableEq, Repr

namespace Given

def withOption (g : Given) (o : Opt) (value : Text) : Given :=
  { g with options := g.options ++ [(o, value)] }

def withOperands (g : Given) (operands : List Text) : Given :=
  { g with operands := g.operands ++ operands }

/-- The value of an option. The last of several holds. -/
def value? (g : Given) (o : Opt) : Option Text := g.options.reverse.lookup o

def values (g : Given) (o : Opt) : List Text :=
  g.options.filterMap fun e => if e.1 = o then some e.2 else none

def has (g : Given) (o : Opt) : Bool := (g.value? o).isSome

end Given

/-- Reads a group of letters, given the arguments after it. A letter that takes a value takes the
rest of the group, or else the next argument. -/
def readLetters (g : Given) : List Char → List Text → Except UsageFault (Given × List Text)
  | [], rest => .ok (g, rest)
  | c :: more, rest =>
    match Opt.ofLetter? c with
    | none => .error (.noSuchOption ['-', c] [])
    | some o =>
      if !o.takesValue then readLetters (g.withOption o []) more rest
      else
        match more, rest with
        | [], [] => .error (.missingValue ['-', c])
        | [], value :: rest => .ok (g.withOption o value, rest)
        | _ :: _, rest => .ok (g.withOption o more, rest)

def readLong (g : Given) (o : Opt) (name : Text) (attached : Option Text) (rest : List Text) :
    Except UsageFault (Given × List Text) :=
  match o.takesValue, attached, rest with
  | true, some value, rest => .ok (g.withOption o value, rest)
  | true, none, value :: rest => .ok (g.withOption o value, rest)
  | true, none, [] => .error (.missingValue name)
  | false, none, rest => .ok (g.withOption o [], rest)
  | false, some _, _ => .error (.unwantedValue name)

def splitValue (arg : Text) : Text × Option Text :=
  let name := arg.takeWhile (· ≠ '=')
  match arg.drop name.length with
  | _ :: value => (name, some value)
  | [] => (name, none)

def readOption (g : Given) (arg : Text) (rest : List Text) :
    Except UsageFault (Given × List Text) :=
  let (name, attached) := splitValue arg
  match Opt.ofLong? name with
  | some o => readLong g o name attached rest
  | none =>
    if ['-', '-'].isPrefixOf arg then
      .error (.noSuchOption name (Similar.near name (Opt.all.map Opt.long)))
    else readLetters g (arg.drop 1) rest

def readAll : Nat → Given → List Text → Except UsageFault Given
  | 0, g, _ => .ok g
  | _ + 1, g, [] => .ok g
  | fuel + 1, g, arg :: rest =>
    if arg = ['-', '-'] then .ok (g.withOperands rest)
    else if arg.head? = some '-' && 1 < arg.length then do
      let (g, rest) ← readOption g arg rest
      readAll fuel g rest
    else readAll fuel (g.withOperands [arg]) rest

def Given.ofArguments (args : List Text) : Except UsageFault Given :=
  readAll args.length {} args

structure Request where
  given : Given
  path : Option Path
  jobs : Option Int
  deriving DecidableEq, Repr

def Given.request (g : Given) : Except UsageFault Request := do
  let jobs ← match g.value? .jobs with
    | none => pure none
    | some t =>
      match Project.integerOfText t with
      | .ok n => pure (some n)
      | .error kind => throw (.badJobs kind)
  match g.operands with
  | [] => return ⟨g, none, jobs⟩
  | [path] => return ⟨g, some (.ofText path), jobs⟩
  | _ :: extra => throw (.extraArguments extra)

end SourceTidy.CommandLine
