import SourceTidy.Exclusion.Pattern
import SourceTidy.Path

namespace SourceTidy

namespace Exclusion

/-- A leading `./` or `/` of a path does not count. -/
def stripLead : Text → Text
  | '/' :: t => t
  | '.' :: '/' :: t => t
  | t => t

/-- Reads a list of patterns. Empty texts in it are passed over. -/
def readPatterns : List Text → Except PatternFault (List Pattern)
  | [] => .ok []
  | [] :: rest => readPatterns rest
  | pattern :: rest => do
    let first ← Pattern.ofText pattern
    return first.toList ++ (← readPatterns rest)

/-- The last pattern that matches decides. Without a match nothing is excluded. -/
def excludes (patterns : List Pattern) (path : Text) : Bool :=
  match patterns.reverse.find? (·.matches (stripLead path)) with
  | some p => !p.negated
  | none => false

end Exclusion

namespace Path

def below? (p root : Path) : Option (List String) :=
  if p.anchor = root.anchor && root.parts.isPrefixOf p.parts then
    some (p.parts.drop root.parts.length)
  else none

/-- How components below a root are written for patterns. -/
def relativeText (parts : List String) (isDirectory : Bool) : Text :=
  (⟨.current, parts⟩ : Path).toText ++ (if isDirectory then ['/'] else [])

end Path

end SourceTidy
