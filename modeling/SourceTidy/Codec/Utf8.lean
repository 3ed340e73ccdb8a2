import SourceTidy.Codec.Basic

/-!
UTF-8, with and without a byte order mark. A sequence is well formed when it is the shortest form of
a Unicode scalar value; the second byte decides that for the leading bytes at the ends of their
ranges.
-/
namespace SourceTidy.Utf8

def encodeChar (c : Char) : Bytes :=
  let n := c.toNat
  if n < 0x80 then [n.toUInt8]
  else if n < 0x800 then [(0xc0 + n / 0x40).toUInt8, (0x80 + n % 0x40).toUInt8]
  else if n < 0x10000 then
    [(0xe0 + n / 0x1000).toUInt8, (0x80 + n / 0x40 % 0x40).toUInt8, (0x80 + n % 0x40).toUInt8]
  else
    [(0xf0 + n / 0x40000).toUInt8, (0x80 + n / 0x1000 % 0x40).toUInt8,
     (0x80 + n / 0x40 % 0x40).toUInt8, (0x80 + n % 0x40).toUInt8]

def encode (t : Text) : Bytes :=
  t.flatMap encodeChar

def isContinuation (b : UInt8) : Bool :=
  0x80 ≤ b && b < 0xc0

/-- The second bytes that a leading byte of three or four admits. -/
def admitsSecond (lead second : UInt8) : Bool :=
  isContinuation second &&
    !(lead = 0xe0 && second < 0xa0) && !(lead = 0xed && 0xa0 ≤ second) &&
    !(lead = 0xf0 && second < 0x90) && !(lead = 0xf4 && 0x90 ≤ second)

def low (b : UInt8) : Nat := b.toNat % 0x40

def startDefect (i : Nat) : Defect := ⟨"invalid start byte", i⟩

def continuationDefect (i : Nat) : Defect := ⟨"invalid continuation byte", i⟩

def endDefect (i : Nat) : Defect := ⟨"unexpected end of data", i⟩

def decodeFrom (i : Nat) : Bytes → Except Defect Text
  | [] => .ok []
  | b :: rest =>
    if b < 0x80 then (decodeFrom (i + 1) rest).map (Char.ofNat b.toNat :: ·)
    else if b < 0xc2 then .error (startDefect i)
    else if b < 0xe0 then
      match rest with
      | [] => .error (endDefect i)
      | b1 :: rest =>
        if isContinuation b1 then
          (decodeFrom (i + 2) rest).map (Char.ofNat ((b.toNat - 0xc0) * 0x40 + low b1) :: ·)
        else .error (continuationDefect i)
    else if b < 0xf0 then
      match rest with
      | [] => .error (endDefect i)
      | [b1] => .error (if admitsSecond b b1 then endDefect i else continuationDefect i)
      | b1 :: b2 :: rest =>
        if admitsSecond b b1 && isContinuation b2 then
          (decodeFrom (i + 3) rest).map
            (Char.ofNat ((b.toNat - 0xe0) * 0x1000 + low b1 * 0x40 + low b2) :: ·)
        else .error (continuationDefect i)
    else if b < 0xf5 then
      match rest with
      | [] => .error (endDefect i)
      | [b1] => .error (if admitsSecond b b1 then endDefect i else continuationDefect i)
      | [b1, b2] =>
        .error (if admitsSecond b b1 && isContinuation b2 then endDefect i
          else continuationDefect i)
      | b1 :: b2 :: b3 :: rest =>
        if admitsSecond b b1 && isContinuation b2 && isContinuation b3 then
          (decodeFrom (i + 4) rest).map
            (Char.ofNat
              ((b.toNat - 0xf0) * 0x40000 + low b1 * 0x1000 + low b2 * 0x40 + low b3) :: ·)
        else .error (continuationDefect i)
    else .error (startDefect i)

def decode (bytes : Bytes) : Except Defect Text :=
  decodeFrom 0 bytes

def mark : Bytes := [0xef, 0xbb, 0xbf]

def dropMark (bytes : Bytes) : Bytes :=
  if mark.isPrefixOf bytes then bytes.drop mark.length else bytes

/-- UTF-8 without a byte order mark. A mark is a character like any other. -/
def codec : Codec := .strict decode fun t => .ok (encode t)

/-- UTF-8 with a byte order mark, which is written always and taken away once. A file that holds
only the start of a mark is read as empty. -/
def markedCodec : Codec :=
  { Codec.strict (fun bytes => decode (dropMark bytes)) (fun t => .ok (mark ++ encode t)) with
    read := fun bytes =>
      if bytes.length < mark.length && bytes.isPrefixOf mark then .ok []
      else (decode (dropMark bytes)).mapError .malformed }

end SourceTidy.Utf8
