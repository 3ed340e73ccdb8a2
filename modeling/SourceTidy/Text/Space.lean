import SourceTidy.Text.Basic

namespace SourceTidy.Text

def spaces : List (Nat × Nat) :=
  [(0x09, 0x0d), (0x1c, 0x20), (0x85, 0x85), (0xa0, 0xa0), (0x1680, 0x1680), (0x2000, 0x200a),
   (0x2028, 0x2029), (0x202f, 0x202f), (0x205f, 0x205f), (0x3000, 0x3000)]

def isSpace (c : Char) : Bool :=
  within spaces c

def strip (t : Text) : Text :=
  trim isSpace t

def stripRight (t : Text) : Text :=
  trimRight isSpace t

end SourceTidy.Text
