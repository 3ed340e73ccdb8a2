import SourceTidy.Codec.Basic

/-!
Encodings with one byte for each character. Each is the identity on code points except for a short
list of bytes that stand for another character or for none.
-/
namespace SourceTidy

/-- A single-byte encoding: how many bytes have a meaning, the exceptions to the identity, and the
reasons that the two directions give. -/
structure SingleByte where
  limit : Nat
  exceptions : List (Nat × Option Nat)
  reason : String

namespace SingleByte

def codePoint? (s : SingleByte) (b : Nat) : Option Nat :=
  if s.limit ≤ b then none
  else
    match s.exceptions.lookup b with
    | some target => target
    | none => some b

def byte? (s : SingleByte) (n : Nat) : Option Nat :=
  if s.codePoint? n = some n then some n
  else (s.exceptions.find? fun e => e.2 = some n).map (·.1)

def decodeFrom (s : SingleByte) (i : Nat) : Bytes → Except Defect Text
  | [] => .ok []
  | b :: rest =>
    match s.codePoint? b.toNat with
    | some n => (decodeFrom s (i + 1) rest).map (Char.ofNat n :: ·)
    | none => .error ⟨s.reason, i⟩

def encodeFrom (s : SingleByte) (i : Nat) : Text → Except Defect Bytes
  | [] => .ok []
  | c :: rest =>
    match s.byte? c.toNat with
    | some b => (encodeFrom s (i + 1) rest).map (b.toUInt8 :: ·)
    | none => .error ⟨s.reason, i⟩

def codec (s : SingleByte) : Codec := .strict (s.decodeFrom 0) (s.encodeFrom 0)

def ascii : SingleByte := ⟨0x80, [], "ordinal not in range(128)"⟩

def latin1 : SingleByte := ⟨0x100, [], "ordinal not in range(256)"⟩

def latin9 : SingleByte where
  limit := 0x100
  exceptions :=
    [(0xa4, some 0x20ac), (0xa6, some 0x160), (0xa8, some 0x161), (0xb4, some 0x17d),
     (0xb8, some 0x17e), (0xbc, some 0x152), (0xbd, some 0x153), (0xbe, some 0x178)]
  reason := "character maps to <undefined>"

def windows1252 : SingleByte where
  limit := 0x100
  exceptions :=
    [(0x80, some 0x20ac), (0x81, none), (0x82, some 0x201a), (0x83, some 0x192),
     (0x84, some 0x201e), (0x85, some 0x2026), (0x86, some 0x2020), (0x87, some 0x2021),
     (0x88, some 0x2c6), (0x89, some 0x2030), (0x8a, some 0x160), (0x8b, some 0x2039),
     (0x8c, some 0x152), (0x8d, none), (0x8e, some 0x17d), (0x8f, none), (0x90, none),
     (0x91, some 0x2018), (0x92, some 0x2019), (0x93, some 0x201c), (0x94, some 0x201d),
     (0x95, some 0x2022), (0x96, some 0x2013), (0x97, some 0x2014), (0x98, some 0x2dc),
     (0x99, some 0x2122), (0x9a, some 0x161), (0x9b, some 0x203a), (0x9c, some 0x153),
     (0x9d, none), (0x9e, some 0x17e), (0x9f, some 0x178)]
  reason := "character maps to <undefined>"

end SingleByte

end SourceTidy
