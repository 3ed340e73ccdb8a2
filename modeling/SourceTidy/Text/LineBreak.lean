import SourceTidy.Text.Basic

/-!
Line breaks. A break is a carriage return with a line feed, a lone carriage return or a lone line
feed; a pair counts once. `normalizeBreaks` writes one chosen separator for each of them.
-/
namespace SourceTidy

inductive LineSeparator
  | lf
  | cr
  | crlf
  deriving DecidableEq, Repr

namespace LineSeparator

def sequence : LineSeparator → Text
  | lf => ['\n']
  | cr => ['\r']
  | crlf => ['\r', '\n']

def name : LineSeparator → String
  | lf => "lf"
  | cr => "cr"
  | crlf => "crlf"

def all : List LineSeparator := [lf, cr, crlf]

def ofName? (text : Text) : Option LineSeparator :=
  all.find? fun s => s.name.toList = text

/-- The separator of the platform. -/
def default : LineSeparator := lf

end LineSeparator

namespace Text

def replaceBreaks (sep : Text) : Text → Text
  | [] => []
  | '\r' :: '\n' :: rest => sep ++ replaceBreaks sep rest
  | c :: rest =>
    if c = '\r' || c = '\n' then sep ++ replaceBreaks sep rest else c :: replaceBreaks sep rest

def canonicalBreaks (t : Text) : Text :=
  replaceBreaks ['\n'] t

def normalizeBreaks (s : LineSeparator) (t : Text) : Text :=
  replaceBreaks s.sequence t

/-- Every pair of carriage return and line feed becomes a line feed. Lone characters stay. -/
def joinPairs : Text → Text
  | [] => []
  | '\r' :: '\n' :: rest => '\n' :: joinPairs rest
  | c :: rest => c :: joinPairs rest

/-- Line feeds only, in two passes: first the pairs, then the carriage returns that are left. -/
def lineFeeds (t : Text) : Text :=
  (joinPairs t).map fun c => if c = '\r' then '\n' else c

/-- The characters that end a line in the widest sense. -/
def isLineEnd (c : Char) : Bool :=
  [0x0a, 0x0b, 0x0c, 0x0d, 0x1c, 0x1d, 0x1e, 0x85, 0x2028, 0x2029].contains c.toNat

/-- The lines of a text in the widest sense. A break at the very end starts no further line. -/
def wideLines : Text → List Text
  | [] => []
  | '\r' :: '\n' :: rest => [] :: wideLines rest
  | c :: rest =>
    if isLineEnd c then [] :: wideLines rest
    else
      match wideLines rest with
      | [] => [[c]]
      | line :: more => (c :: line) :: more

end Text

end SourceTidy
