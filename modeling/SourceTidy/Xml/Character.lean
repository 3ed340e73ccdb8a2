import SourceTidy.Text.Basic
import SourceTidy.Xml.Letter

namespace SourceTidy.Xml

def isSpace (c : Char) : Bool :=
  [' ', '\t', '\n', '\r'].contains c

def isChar (c : Char) : Bool :=
  isSpace c || (0x20 ≤ c.toNat && c.toNat ≠ 0xfffe && c.toNat ≠ 0xffff)

def isNameStart (c : Char) : Bool :=
  c.isAlpha || c = '_' || c = ':' || Letter.isStart c

def isNameChar (c : Char) : Bool :=
  isNameStart c || c.isDigit || c = '-' || c = '.' || Letter.isFollower c

def skipSpace (t : Text) : Text :=
  t.dropWhile isSpace

/-- Takes white space, which must be present. -/
def space? : Text → Option Text
  | c :: rest => if isSpace c then some (skipSpace rest) else none
  | [] => none

def name? : Text → Option (Text × Text)
  | c :: rest =>
    if isNameStart c then some (c :: rest.takeWhile isNameChar, rest.dropWhile isNameChar) else none
  | [] => none

def exactly? (part t : Text) : Option Text :=
  if part.isPrefixOf t then some (t.drop part.length) else none

def quoted? : Text → Option (Text × Text)
  | q :: rest =>
    if q = '"' || q = '\'' then
      match rest.dropWhile (· ≠ q) with
      | _ :: after => some (rest.takeWhile (· ≠ q), after)
      | [] => none
    else none
  | [] => none

/-- Takes everything through the first occurrence of a text. All of it must be characters that may
stand in a document. -/
def through? (part : Text) : Text → Option (Text × Text)
  | [] => none
  | c :: rest =>
    if part.isPrefixOf (c :: rest) then some ([], (c :: rest).drop part.length)
    else if isChar c then (through? part rest).map fun (inner, after) => (c :: inner, after)
    else none

end SourceTidy.Xml
