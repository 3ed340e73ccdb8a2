import SourceTidy.Configuration
import SourceTidy.Java.SourceLevel

namespace SourceTidy

/-- Where a source breaks the grammar. A missing node is named by its kind. -/
structure SyntaxError where
  missing : Option String
  line : Nat
  column : Nat
  deriving DecidableEq, Repr

def SyntaxError.message (e : SyntaxError) : String :=
  (match e.missing with
    | some kind => "missing " ++ kind
    | none => "syntax error") ++
    " at line " ++ Numeral.ofNat e.line ++ ", column " ++ Numeral.ofNat e.column

/-- Why a formatter refuses a text. This is the fault of the text, and other files go on. -/
inductive Rejection
  | syntaxError (error : SyntaxError)
  | anachronism (found : Java.Anachronism)
  | level (fault : Java.LevelFault)
  | other (message : String)
  deriving DecidableEq, Repr

/-- What stops a formatter. Only a rejection is confined to one file. -/
inductive FormatFault
  | rejected (cause : Rejection)
  | divisionByZero
  | crashed
  deriving DecidableEq, Repr

/-- A formatter: a function on texts, and the paths that it is for. -/
structure Formatter where
  name : String
  description : String
  appliesTo : Path → Bool
  format : Configuration → Text → Except FormatFault Text

end SourceTidy
