import SourceTidy.Text.Basic

namespace SourceTidy

abbrev Bytes := List UInt8

/-- The first thing that a conversion cannot convert. A position counts bytes when decoding and
characters when encoding. -/
structure Defect where
  reason : String
  position : Nat
  deriving DecidableEq, Repr

/-- Why a conversion stops: at a defect, or for a reason that no place is given for. -/
inductive CodecFault
  | malformed (defect : Defect)
  | unplaced (message : String)
  deriving DecidableEq, Repr

/-- A conversion between bytes and text. `read` is the conversion of a whole file, where a codec may
insist on more. -/
structure Codec where
  decode : Bytes → Except CodecFault Text
  encode : Text → Except CodecFault Bytes
  read : Bytes → Except CodecFault Text := decode

namespace Codec

/-- A codec that stops only at defects. -/
def strict (decode : Bytes → Except Defect Text) (encode : Text → Except Defect Bytes) : Codec where
  decode bytes := (decode bytes).mapError .malformed
  encode t := (encode t).mapError .malformed

/-- The codec in which nothing can be converted. -/
def undefined : Codec where
  decode _ := .error (.unplaced "undefined encoding")
  encode _ := .error (.unplaced "undefined encoding")

end Codec

end SourceTidy
