import SourceTidy.Text.Basic

/-!
Paths of a POSIX file system, as written and not as resolved: empty and `.` components vanish, `..`
stays. Exactly two leading slashes are kept, any other number of them is one.
-/
namespace SourceTidy

inductive Anchor
  | current
  | root
  | doubleRoot
  deriving DecidableEq, Repr

structure Path where
  anchor : Anchor
  parts : List String
  deriving DecidableEq, Repr

namespace Path

def anchorOf : Text → Anchor
  | '/' :: '/' :: '/' :: _ => .root
  | '/' :: '/' :: _ => .doubleRoot
  | '/' :: _ => .root
  | _ => .current

def partsOf (t : Text) : List String :=
  ((Text.splitAt '/' t).filter fun p => p != [] && p != ['.']).map String.ofList

def ofText (t : Text) : Path :=
  ⟨anchorOf t, partsOf t⟩

def ofString (s : String) : Path :=
  ofText s.toList

def anchorText : Anchor → Text
  | .current => []
  | .root => ['/']
  | .doubleRoot => ['/', '/']

/-- The written form. A path without start and components is the current directory. -/
def toText (p : Path) : Text :=
  match p.anchor, p.parts with
  | .current, [] => ['.']
  | anchor, parts => anchorText anchor ++ List.intercalate ['/'] (parts.map String.toList)

def toString (p : Path) : String :=
  String.ofList p.toText

/-- A path below another one. A path with a start of its own replaces it. -/
def join (base p : Path) : Path :=
  if p.anchor = .current then ⟨base.anchor, base.parts ++ p.parts⟩ else p

def child (base : Path) (name : String) : Path :=
  ⟨base.anchor, base.parts ++ [name]⟩

def parent (p : Path) : Path :=
  ⟨p.anchor, p.parts.dropLast⟩

def name (p : Path) : String :=
  p.parts.getLast?.getD ""

/-- The end of a name from its last full stop on. A full stop that is the first or the last
character of the name does not count. -/
def suffixOf (name : Text) : Text :=
  let tail := name.reverse.takeWhile (· != '.')
  let front := name.reverse.dropWhile (· != '.')
  if tail = [] || front.length ≤ 1 then [] else '.' :: tail.reverse

def suffix (p : Path) : Text :=
  suffixOf p.name.toList

end Path

end SourceTidy
