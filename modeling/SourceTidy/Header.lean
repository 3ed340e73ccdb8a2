import SourceTidy.Text.LineBreak
import SourceTidy.Text.Space

/-!
Headers: the comment at the very top of a source text, and the pass that puts a configured header
there.

A comment region starts at the first character. It is one block comment, or a run of consecutive
lines that each start with two slashes. `insert` replaces a region that differs from the configured
header, and leaves a text that carries the header as it is.
-/
namespace SourceTidy.Header

/-- The start of a text up to and including the first `*/`. -/
def throughClose : Text → Option Text
  | [] => none
  | '*' :: '/' :: _ => some ['*', '/']
  | c :: rest => (throughClose rest).map (c :: ·)

/-- The longest start of complete comment lines, each with its line break. With `inside` the text
begins within such a line. -/
def commentLines (inside : Bool) : Text → Text
  | [] => []
  | '\r' :: '\n' :: rest => if inside then '\r' :: '\n' :: commentLines false rest else []
  | '/' :: '/' :: rest => '/' :: '/' :: commentLines true rest
  | c :: rest => if inside then c :: commentLines (c != '\r' && c != '\n') rest else []

def find? : Text → Option Text
  | '/' :: '*' :: rest => (throughClose rest).map fun t => '/' :: '*' :: t
  | '/' :: '/' :: rest => some (commentLines false ('/' :: '/' :: rest))
  | _ => none

/-- The form in which headers are compared and written: line feeds only, no white space at the
end. -/
def normalize (header : Text) : Text :=
  Text.stripRight (Text.canonicalBreaks header)

/-- The text carries exactly this header, which is in normal form. A header that is one comment
region must match the whole region at the top. Any other header is a start of the text that ends
with a line. -/
def carries (text header : Text) : Bool :=
  if find? header = some header then
    match find? text with
    | some region => normalize region = header
    | none => false
  else
    let canonical := Text.canonicalBreaks text
    canonical = header || (header ++ ['\n']).isPrefixOf canonical

/-- What follows the blank lines at the top. `start` is the text from the line that is being
read. -/
def dropBlankLinesFrom (start : Text) : Text → Text
  | '\r' :: '\n' :: rest => dropBlankLinesFrom rest rest
  | c :: rest =>
    if c = '\r' || c = '\n' then dropBlankLinesFrom rest rest
    else if Text.isBlank c then dropBlankLinesFrom start rest
    else start
  | [] => start

/-- The text without its complete leading lines of spaces and tabs. -/
def dropBlankLines (t : Text) : Text :=
  dropBlankLinesFrom t t

def mark : Char := '\ufeff'

def splitMark : Text → Text × Text
  | [] => ([], [])
  | c :: rest => if c = mark then ([mark], rest) else ([], c :: rest)

/-- The text after its comment region and the blank lines that follow. -/
def body (text : Text) : Text :=
  dropBlankLines (text.drop ((find? text).getD []).length)

/-- A normal header above a text that has no mark. An empty body gets no blank line. -/
def above (header text : Text) : Text :=
  match body text with
  | [] => header ++ ['\n']
  | rest => header ++ ['\n', '\n'] ++ rest

/-- The header pass does nothing: there is no header, or the text carries it. -/
def isSettled (text header : Text) : Bool :=
  header.isEmpty || carries text header

/-- Makes the text start with the header. A leading byte order mark stays in front. -/
def insert (text header : Text) : Text :=
  let parts := splitMark text
  let wanted := normalize header
  if isSettled parts.2 wanted then text else parts.1 ++ above wanted parts.2

/-- The region that `insert` takes away, if any. -/
def replaced? (text header : Text) : Option Text :=
  let parts := splitMark text
  if isSettled parts.2 (normalize header) then none else find? parts.2

end SourceTidy.Header
