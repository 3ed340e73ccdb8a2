import SourceTidy.Java.Settings

/-!
Indentation: the blanks at the start of a line are written again with the tabulation of the profile,
at the same visual width.

Sizes are arbitrary integers. A tab stop at a size of zero does not exist, which `none` stands for.
-/
namespace SourceTidy.Java.Indentation

def advance (tabSize column : Int) (c : Char) : Option Int :=
  if c = '\t' then
    if tabSize = 0 then none else some (column + (tabSize - column.fmod tabSize))
  else some (column + 1)

def widthFrom (tabSize column : Int) : Text → Option Int
  | [] => some column
  | c :: rest => (advance tabSize column c).bind fun next => widthFrom tabSize next rest

/-- The width of an indentation, with tab stops at the multiples of the size. -/
def visualWidth (tabSize : Int) (indent : Text) : Option Int :=
  widthFrom tabSize 0 indent

/-- A character, repeated. A negative count gives nothing. -/
def times (n : Int) (c : Char) : Text :=
  List.replicate n.toNat c

def render (settings : Settings) (width : Int) : Option Text :=
  if settings.tabulation = .space then some (times width ' ')
  else if settings.tabSize = 0 then none
  else
    some (times (width.fdiv settings.tabSize) '\t' ++ times (width.fmod settings.tabSize) ' ')

/-- A line with its indentation written again. Lines without indentation and lines of blanks only
stay as they are. -/
def reindent (settings : Settings) (line : Text) : Option Text :=
  let indent := line.takeWhile Text.isBlank
  let code := line.dropWhile Text.isBlank
  if indent = [] || code = [] then some line
  else do
    let width ← visualWidth settings.tabSize indent
    return (← render settings width) ++ code

/-- The lines from `row` on. Protected lines stay as they are. -/
def reindentFrom (settings : Settings) (isProtected : Nat → Bool) (row : Nat) :
    List Text → Option (List Text)
  | [] => some []
  | line :: rest => do
    let line' ← if isProtected row then some line else reindent settings line
    return line' :: (← reindentFrom settings isProtected (row + 1) rest)

/-- The source with every unprotected line indented as the profile says. -/
def apply (settings : Settings) (isProtected : Nat → Bool) (source : Text) : Option Text :=
  (reindentFrom settings isProtected 0 (Text.lines source)).map Text.unlines

end SourceTidy.Java.Indentation
