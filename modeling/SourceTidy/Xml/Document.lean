import SourceTidy.Xml.Declaration
import SourceTidy.Xml.Element
import SourceTidy.Xml.Markup

namespace SourceTidy.Xml

/-- The namespaces that prefixes stand for. The empty prefix is that of names without one. -/
abbrev Scope := List (Text × Text)

def xmlNamespace : Text := "xml".toList

def expanded (space local' : Text) : Text :=
  if space = [] then local' else '\x7b' :: space ++ '\x7d' :: local'

/-- Adds the namespace that an attribute declares, if it declares one. -/
def declare? (scope : Scope) (a : Text × Text) : Option Scope :=
  if a.1 = "xmlns".toList then some (([], a.2) :: scope)
  else
    match splitName? a.1 with
    | none => none
    | some (front, rest) =>
      if front ≠ "xmlns".toList then some scope
      else if rest = "xmlns".toList || a.2 = [] then none
      else if rest = "xml".toList then some scope
      else some ((rest, a.2) :: scope)

def isDeclaration (a : Text × Text) : Bool :=
  a.1 = "xmlns".toList || "xmlns:".toList.isPrefixOf a.1

def elementName? (scope : Scope) (name : Text) : Option Text := do
  let (front, rest) ← splitName? name
  if front = [] then return expanded ((scope.lookup []).getD []) rest
  else if front = "xmlns".toList then none
  else return expanded (← scope.lookup front) rest

/-- The expanded name of an attribute. Names without a prefix are in no namespace. -/
def attributeName? (scope : Scope) (name : Text) : Option Text := do
  let (front, rest) ← splitName? name
  if front = [] then return rest else return expanded (← scope.lookup front) rest

def hasRepeats : List Text → Bool
  | [] => false
  | t :: rest => rest.contains t || hasRepeats rest

/-- An element that is not closed yet. Its children stand in reverse. -/
structure Frame where
  tag : Text
  name : Text
  attributes : List (Text × Text)
  scope : Scope
  children : List Element

def Frame.element (f : Frame) : Element :=
  ⟨f.name, f.attributes, f.children.reverse⟩

def Frame.open? (scope : Scope) (tag : Text) (attributes : List (Text × Text)) : Option Frame := do
  let scope ← attributes.foldlM declare? scope
  let name ← elementName? scope tag
  let kept ← (attributes.filter fun a => !isDeclaration a).mapM fun a =>
    (attributeName? scope a.1).map fun name => (name, a.2)
  if hasRepeats (attributes.map (·.1)) || hasRepeats (kept.map (·.1)) then none
  else return ⟨tag, name, kept, scope, []⟩

/-- The open elements, innermost first, and the root once it is closed. -/
structure State where
  frames : List Frame
  root : Option Element
  hasDoctype : Bool

def State.start : State := ⟨[], none, false⟩

/-- A closed element goes to its parent, or is the root. -/
def State.close (s : State) (e : Element) : State :=
  match s.frames with
  | [] => { s with root := some e }
  | f :: rest => { s with frames := { f with children := e :: f.children } :: rest }

def State.step (s : State) : Markup → Option State
  | .doctype =>
    if s.frames.isEmpty && s.root.isNone && !s.hasDoctype then some { s with hasDoctype := true }
    else none
  | .content isBlank => if isBlank || !s.frames.isEmpty then some s else none
  | .begin tag attributes isClosed =>
    if s.root.isSome then none
    else
      let scope := match s.frames with
        | f :: _ => f.scope
        | [] => [("xml".toList, xmlNamespace)]
      (Frame.open? scope tag attributes).map fun f =>
        if isClosed then s.close f.element else { s with frames := f :: s.frames }
  | .finish tag =>
    match s.frames with
    | f :: rest => if f.tag = tag then some ({ s with frames := rest }.close f.element) else none
    | [] => none

def ofMarkup? (pieces : List Markup) : Option Element := do
  let s ← pieces.foldlM State.step State.start
  if s.frames.isEmpty then s.root else none

/-- How far entities may expand, as a multiple of the length of the document. -/
def expansion : Nat := 64

abbrev Reader := Bytes → Except XmlFault Element

def read : Reader := fun bytes => do
  let text ← decode bytes
  orMalformed ((scan (expansion * (text.length + 1)) [] text).bind ofMarkup?)

end SourceTidy.Xml
