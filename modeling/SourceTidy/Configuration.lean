import SourceTidy.Path
import SourceTidy.Text.LineBreak

namespace SourceTidy

/-- The options of a run. The name of the encoding is not checked here. -/
structure Configuration where
  profile : Option Path := none
  sourceLevel : Option Text := none
  encoding : Text := "utf-8".toList
  lineSeparator : LineSeparator := .default
  header : Option Text := none
  deriving DecidableEq, Repr

def Configuration.defaultEncoding : Text := "utf-8".toList

end SourceTidy
