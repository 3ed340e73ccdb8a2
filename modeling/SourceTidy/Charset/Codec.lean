import SourceTidy.Charset.Registry
import SourceTidy.Codec.SingleByte
import SourceTidy.Codec.Utf8
import SourceTidy.Codec.Wide
import SourceTidy.Text.Quoted

namespace SourceTidy

/-- What an encoding is used for. The advice in a message depends on it. -/
inductive CodecUse
  | decoding
  | encoding
  | reading
  deriving DecidableEq, Repr

/-- What is wrong with an encoding: its name gives no codec, or the codec fails without giving a
place. -/
inductive CharsetFault
  | unknown (name : Text)
  | notText (name : Text) (use : CodecUse)
  | hasNull
  | unplaced (message : String)
  deriving DecidableEq, Repr

namespace CharsetFault

def advice : CodecUse → String
  | .decoding => "codecs.decode()"
  | .encoding => "codecs.encode()"
  | .reading => "codecs.open()"

def message : CharsetFault → String
  | unknown name => "unknown encoding: " ++ String.ofList name
  | notText name use =>
    "'" ++ String.ofList name ++ "' is not a text encoding; use " ++ advice use ++
      " to handle arbitrary codecs"
  | hasNull => "embedded null character"
  | unplaced message => message

end CharsetFault

namespace Charset

/-- A codec for each encoding of text, by canonical name. -/
abbrev Codecs := String → Codec

def codec (codecs : Codecs) (name : Text) (use : CodecUse) : Except CharsetFault Codec :=
  if name.contains '\x00' then .error .hasNull
  else
    match find? name with
    | none => .error (.unknown name)
    | some entry =>
      if entry.isText then .ok (codecs entry.canonical) else .error (.notText name use)

def table : List (String × Codec) :=
  [("utf-8", Utf8.codec), ("utf-8-sig", Utf8.markedCodec), ("ascii", SingleByte.ascii.codec),
   ("iso8859-1", SingleByte.latin1.codec), ("iso8859-15", SingleByte.latin9.codec),
   ("cp1252", SingleByte.windows1252.codec), ("utf-16", Utf16.markedCodec),
   ("utf-16-le", Utf16.codec .little), ("utf-16-be", Utf16.codec .big),
   ("utf-32", Utf32.markedCodec), ("utf-32-le", Utf32.codec .little),
   ("utf-32-be", Utf32.codec .big)]

/-- The codecs of the table. Any other encoding of text is left undefined. -/
def codecs : Codecs := fun name => (table.lookup name).getD .undefined

end Charset

end SourceTidy
