import SourceTidy.Formatter
import SourceTidy.Java.Rule.BlankLines
import SourceTidy.Java.Rule.Indentation
import SourceTidy.Java.Rule.TrailingBlanks

/-!
The Java formatter: a list of rules over a source and its syntax tree.

The parser is a parameter. It may answer differently each time it is called, so it is told how often
it has been called before. Only the first tree is checked for errors, and a source is parsed again
after each rule that changed it.
-/
namespace SourceTidy.Java

/-- A parser: the number of earlier calls and the source give a tree. -/
abbrev Parser := Nat → Text → Node

inductive Rule
  | sourceLevel
  | indentation
  | trailingBlanks
  | blankLines
  deriving DecidableEq, Repr

namespace Rule

def name : Rule → String
  | sourceLevel => "source-level"
  | indentation => "indentation"
  | trailingBlanks => "trailing-whitespace"
  | blankLines => "blank-lines"

def all : List Rule := [sourceLevel, indentation, trailingBlanks, blankLines]

def ofName? (name : String) : Option Rule :=
  all.find? (·.name = name)

/-- The source after one rule. Without a level every construct is allowed. -/
def apply (settings : Settings) (level : Option Int) (rule : Rule) (source : Text) (tree : Node) :
    Except FormatFault Text :=
  let rows := tree.stringRows
  let isProtected := fun row => rows.contains row
  match rule with
  | sourceLevel =>
    match level.bind (SourceLevel.check · tree) with
    | some found => .error (.rejected (.anachronism found))
    | none => .ok source
  | indentation =>
    match Indentation.apply settings isProtected source with
    | some result => .ok result
    | none => .error .divisionByZero
  | trailingBlanks => .ok (TrailingBlanks.apply isProtected source)
  | blankLines => .ok (BlankLines.apply settings.blankLines isProtected source)

end Rule

/-- The answer of a formatting, and the sources that were parsed for it, in order. -/
structure Formatting where
  result : Except FormatFault Text
  parsed : List Text

/-- The error of a tree as the formatter reports it, counted from one. -/
def SyntaxError.ofTree? (tree : Node) : Option SyntaxError :=
  tree.firstError.map fun n =>
    ⟨if n.isMissing then some n.kind else none, n.start.row + 1, n.start.column + 1⟩

/-- Applies rules to a source with a known tree, after `calls` calls of the parser. -/
def applyRules (parser : Parser) (settings : Settings) (level : Option Int) :
    List Rule → Nat → Text → Node → Formatting
  | [], _, source, _ => ⟨.ok source, []⟩
  | rule :: rules, calls, source, tree =>
    match rule.apply settings level source tree with
    | .error fault => ⟨.error fault, []⟩
    | .ok next =>
      if next = source then applyRules parser settings level rules calls source tree
      else
        let more := applyRules parser settings level rules (calls + 1) next (parser calls next)
        ⟨more.result, next :: more.parsed⟩

/-- The level that holds: an empty level of the run gives way to the level of the profile. -/
def effectiveLevel (settings : Settings) (runLevel : Option Text) : Option Text :=
  match runLevel with
  | some (c :: rest) => some (c :: rest)
  | _ => settings.sourceLevel

def format (parser : Parser) (settings : Settings) (rules : List Rule) (runLevel : Option Text)
    (text : Text) : Formatting :=
  let source := Text.lineFeeds text
  match (effectiveLevel settings runLevel).mapM SourceLevel.ofText with
  | .error fault => ⟨.error (.rejected (.level fault)), []⟩
  | .ok level =>
    let tree := parser 0 source
    match SyntaxError.ofTree? tree with
    | some error => ⟨.error (.rejected (.syntaxError error)), [source]⟩
    | none =>
      let more := applyRules parser settings (level.map Int.ofNat) rules 1 source tree
      ⟨more.result, source :: more.parsed⟩

/-- Java sources are known by their suffix, in letters of either case. -/
def appliesTo (p : Path) : Bool :=
  Text.lowerAscii p.suffix = ['.', 'j', 'a', 'v', 'a']

def formatter (parser : Parser) (settings : Settings) : Formatter where
  name := "java"
  description := "Java source formatter driven by Eclipse formatter profiles"
  appliesTo := appliesTo
  format config text := (format parser settings Rule.all config.sourceLevel text).result

end SourceTidy.Java
