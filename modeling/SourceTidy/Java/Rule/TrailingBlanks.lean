import SourceTidy.Text.Basic

namespace SourceTidy.Java.TrailingBlanks

/-- The lines from `row` on. Protected lines stay as they are. -/
def trimFrom (isProtected : Nat → Bool) (row : Nat) : List Text → List Text
  | [] => []
  | line :: rest =>
    (if isProtected row then line else Text.trimRight Text.isBlank line) ::
      trimFrom isProtected (row + 1) rest

/-- The source without blanks at the end of its unprotected lines. -/
def apply (isProtected : Nat → Bool) (source : Text) : Text :=
  Text.unlines (trimFrom isProtected 0 (Text.lines source))

end SourceTidy.Java.TrailingBlanks
