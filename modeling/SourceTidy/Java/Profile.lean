import SourceTidy.Fault
import SourceTidy.Java.Settings
import SourceTidy.Xml.Document

/-!
Formatter profiles: the settings of the Java formatter as they are kept in a file. A profile is
either an XML document with one or more profiles in it, or a list of preferences, one a line. Of all
the settings in it, only those that the formatter acts on are used.
-/
namespace SourceTidy.Java.Profile

def tabulationKey : String := "org.eclipse.jdt.core.formatter.tabulation.char"

def tabSizeKey : String := "org.eclipse.jdt.core.formatter.tabulation.size"

def blankLinesKey : String := "org.eclipse.jdt.core.formatter.number_of_empty_lines_to_preserve"

def sourceLevelKey : String := "org.eclipse.jdt.core.compiler.source"

/-- The name of a profile, and its settings in the order in which they are written. -/
structure Raw where
  name : Option Text
  settings : List (Text × Text)
  deriving Repr

/-- The value of a setting. The last of several values holds. -/
def Raw.value? (raw : Raw) (key : String) : Option Text :=
  raw.settings.reverse.lookup key.toList

/-- The setting on a line of preferences. Comments, blank lines and lines without an equals sign
have none. -/
def preference? (line : Text) : Option (Text × Text) :=
  match Text.strip line with
  | [] => none
  | '#' :: _ => none
  | '!' :: _ => none
  | t =>
    let key := t.takeWhile (· ≠ '=')
    match t.drop key.length with
    | [] => none
    | _ :: value => some (Text.strip key, Text.strip value)

def ofPreferences (t : Text) : Raw :=
  ⟨none, (Text.wideLines (Text.lineFeeds t)).filterMap preference?⟩

/-- The profiles of a document: the root if it is one, else those right below it. -/
def candidates (root : Xml.Element) : List Xml.Element :=
  if root.name = "profile".toList then [root] else root.childrenNamed "profile".toList

/-- The profile to use: the first for code formatters, else the first. -/
def choose? (profiles : List Xml.Element) : Option Xml.Element :=
  (profiles.find? fun p => p.attribute? "kind".toList = some "CodeFormatterProfile".toList).orElse
    fun _ => profiles.head?

def setting? (e : Xml.Element) : Option (Text × Text) :=
  if e.name = "setting".toList then
    match e.attribute? "id".toList with
    | some (c :: rest) => some (c :: rest, (e.attribute? "value".toList).getD [])
    | _ => none
  else none

def ofElement (profile : Xml.Element) : Raw :=
  ⟨profile.attribute? "name".toList, profile.subtree.filterMap setting?⟩

def integer (path : Path) (raw : Raw) (key : String) (default least : Int) :
    Except ConfigurationFault Int :=
  match raw.value? key with
  | none => .ok default
  | some t =>
    match Numeral.int? t with
    | none => .error (.notInteger path key t)
    | some n => if n < least then .error (.outOfRange path key n) else .ok n

def Raw.tabulation (raw : Raw) (path : Path) : Except ConfigurationFault Tabulation :=
  match raw.value? tabulationKey with
  | none => .ok .tab
  | some t =>
    match Tabulation.ofName? t with
    | some policy => .ok policy
    | none => .error (.tabulation path tabulationKey)

/-- The source level that a profile sets. An empty one is none. -/
def Raw.sourceLevel? (raw : Raw) : Option Text :=
  (raw.value? sourceLevelKey).filter (· ≠ [])

def Raw.toSettings (raw : Raw) (path : Path) : Except ConfigurationFault Settings := do
  let tabulation ← raw.tabulation path
  let tabSize ← integer path raw tabSizeKey 4 1
  let blankLines ← integer path raw blankLinesKey 1 0
  return { name := raw.name, tabulation, tabSize, blankLines, sourceLevel := raw.sourceLevel? }

def ofBytes (xml : Xml.Reader) (path : Path) (bytes : Bytes) : Except Fault Raw :=
  if path.suffix = ".prefs".toList then
    match Utf8.decode bytes with
    | .ok t => .ok (ofPreferences t)
    | .error _ => .error (.configuration (.profileUnreadable path .notEncoded))
  else
    match xml bytes with
    | .error .malformed => .error (.configuration (.profileUnreadable path .notXml))
    | .error (.charset fault) => .error (.charset fault)
    | .ok root =>
      match choose? (candidates root) with
      | some profile => .ok (ofElement profile)
      | none => .error (.configuration (.noProfile path))

def load (xml : Xml.Reader) (files : FileSystem) (path : Path) : Except Fault Settings := do
  match files.read path with
  | .error error => throw (.configuration (.profileUnreadable path (.os error path)))
  | .ok bytes =>
    let raw ← ofBytes xml path bytes
    (raw.toSettings path).mapError .configuration

end SourceTidy.Java.Profile
