import SourceTidy.Text.Basic

namespace SourceTidy.Java.BlankLines

/-- The lines from `row` on. `begun` tells that a line has been kept, and `run` counts the blank
lines just before. -/
def capFrom (keep : Int) (isProtected : Nat → Bool) (row : Nat) (begun : Bool) (run : Nat) :
    List Text → List Text
  | [] => []
  | line :: rest =>
    if !isProtected row && line.all Text.isBlank then
      if begun && ((run + 1 : Nat) : Int) ≤ keep then
        [] :: capFrom keep isProtected (row + 1) begun (run + 1) rest
      else capFrom keep isProtected (row + 1) begun (run + 1) rest
    else line :: capFrom keep isProtected (row + 1) true 0 rest

def dropEmptyEnd (ls : List Text) : List Text :=
  (ls.reverse.dropWhile List.isEmpty).reverse

def endLines (ls : List Text) : Text :=
  if ls.isEmpty then [] else Text.unlines ls ++ ['\n']

/-- The source with at most `keep` blank lines in a row, none at its top and none at its end. -/
def apply (keep : Int) (isProtected : Nat → Bool) (source : Text) : Text :=
  endLines (dropEmptyEnd (capFrom keep isProtected 0 false 0 (Text.lines source)))

end SourceTidy.Java.BlankLines
