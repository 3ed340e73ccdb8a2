import SourceTidy.Codec.Basic

namespace SourceTidy

inductive ByteOrder
  | little
  | big
  deriving DecidableEq, Repr

namespace ByteOrder

def unit16 (order : ByteOrder) (n : Nat) : Bytes :=
  match order with
  | little => [(n % 0x100).toUInt8, (n / 0x100).toUInt8]
  | big => [(n / 0x100).toUInt8, (n % 0x100).toUInt8]

def value16 (order : ByteOrder) (a b : UInt8) : Nat :=
  match order with
  | little => a.toNat + b.toNat * 0x100
  | big => b.toNat + a.toNat * 0x100

def unit32 (order : ByteOrder) (n : Nat) : Bytes :=
  match order with
  | little => unit16 little (n % 0x10000) ++ unit16 little (n / 0x10000)
  | big => unit16 big (n / 0x10000) ++ unit16 big (n % 0x10000)

def value32 (order : ByteOrder) (a b c d : UInt8) : Nat :=
  match order with
  | little => value16 little a b + value16 little c d * 0x10000
  | big => value16 big c d + value16 big a b * 0x10000

end ByteOrder

namespace Utf16

/-- The bytes of one character: one unit, or a high and a low surrogate. -/
def encodeChar (order : ByteOrder) (c : Char) : Bytes :=
  let n := c.toNat
  if n < 0x10000 then order.unit16 n
  else
    order.unit16 (0xd800 + (n - 0x10000) / 0x400) ++ order.unit16 (0xdc00 + (n - 0x10000) % 0x400)

def encode (order : ByteOrder) (t : Text) : Bytes :=
  t.flatMap (encodeChar order)

def isHigh (n : Nat) : Bool := 0xd800 ≤ n && n < 0xdc00

def isLow (n : Nat) : Bool := 0xdc00 ≤ n && n < 0xe000

def decodeFrom (order : ByteOrder) (i : Nat) : Bytes → Except Defect Text
  | [] => .ok []
  | [_] => .error ⟨"truncated data", i⟩
  | a :: b :: rest =>
    let n := order.value16 a b
    if isLow n then .error ⟨"illegal encoding", i⟩
    else if isHigh n then
      match rest with
      | c :: d :: rest =>
        let m := order.value16 c d
        if isLow m then
          (decodeFrom order (i + 4) rest).map
            (Char.ofNat (0x10000 + (n - 0xd800) * 0x400 + (m - 0xdc00)) :: ·)
        else .error ⟨"illegal UTF-16 surrogate", i⟩
      | _ => .error ⟨"unexpected end of data", i⟩
    else (decodeFrom order (i + 2) rest).map (Char.ofNat n :: ·)

def marked? : Bytes → Option ByteOrder
  | a :: b :: _ =>
    if a = 0xff && b = 0xfe then some .little
    else if a = 0xfe && b = 0xff then some .big
    else none
  | _ => none

/-- Decodes with the order that a mark tells, or in little-endian order. -/
def decodeMarked (bytes : Bytes) : Except Defect Text :=
  match marked? bytes with
  | some order => decodeFrom order 2 (bytes.drop 2)
  | none => decodeFrom .little 0 bytes

def codec (order : ByteOrder) : Codec :=
  .strict (decodeFrom order 0) fun t => .ok (encode order t)

/-- UTF-16 with a mark, which is always written. A file that is not empty must have one. -/
def markedCodec : Codec :=
  { Codec.strict decodeMarked fun t => .ok (ByteOrder.little.unit16 0xfeff ++ encode .little t) with
    read := fun bytes =>
      match decodeMarked bytes with
      | .error defect => .error (.malformed defect)
      | .ok t =>
        if bytes.isEmpty || (marked? bytes).isSome then .ok t
        else .error (.unplaced "UTF-16 stream does not start with BOM") }

end Utf16

namespace Utf32

def encode (order : ByteOrder) (t : Text) : Bytes :=
  t.flatMap fun c => order.unit32 c.toNat

def decodeFrom (order : ByteOrder) (i : Nat) : Bytes → Except Defect Text
  | [] => .ok []
  | a :: b :: c :: d :: rest =>
    let n := order.value32 a b c d
    if 0x110000 ≤ n then .error ⟨"code point not in range(0x110000)", i⟩
    else if 0xd800 ≤ n && n < 0xe000 then
      .error ⟨"code point in surrogate code point range", i⟩
    else (decodeFrom order (i + 4) rest).map (Char.ofNat n :: ·)
  | _ => .error ⟨"truncated data", i⟩

def marked? (bytes : Bytes) : Option ByteOrder :=
  if [0xff, 0xfe, 0, 0].isPrefixOf bytes then some .little
  else if [0, 0, 0xfe, 0xff].isPrefixOf bytes then some .big
  else none

def decodeMarked (bytes : Bytes) : Except Defect Text :=
  match marked? bytes with
  | some order => decodeFrom order 4 (bytes.drop 4)
  | none => decodeFrom .little 0 bytes

def codec (order : ByteOrder) : Codec :=
  .strict (decodeFrom order 0) fun t => .ok (encode order t)

/-- UTF-32 with a mark, which is always written. A file that is not empty must have one. -/
def markedCodec : Codec :=
  { Codec.strict decodeMarked fun t => .ok (ByteOrder.little.unit32 0xfeff ++ encode .little t) with
    read := fun bytes =>
      match decodeMarked bytes with
      | .error defect => .error (.malformed defect)
      | .ok t =>
        if bytes.isEmpty || (marked? bytes).isSome then .ok t
        else .error (.unplaced "UTF-32 stream does not start with BOM") }

end Utf32

end SourceTidy
