import SourceTidy.Charset.Codec
import SourceTidy.Xml.Character

namespace SourceTidy.Xml

/-- Takes pairs of a name and a quoted value, each after white space, and white space at the end. -/
def pairs? : Nat → Text → Option (List (Text × Text) × Text)
  | 0, t => some ([], t)
  | fuel + 1, t =>
    match space? t with
    | none => some ([], t)
    | some after =>
      match name? after with
      | none => some ([], after)
      | some (name, rest) => do
        let rest ← exactly? ['='] (skipSpace rest)
        let (value, rest) ← quoted? (skipSpace rest)
        let (more, rest) ← pairs? fuel rest
        return ((name, value) :: more, rest)

def isWord (t : Text) : Bool :=
  t.all fun c => c.isAlphanum || c = '.' || c = '-' || c = '_'

/-- The pairs of a declaration say the version, then perhaps the encoding, then perhaps whether the
document stands alone. The answer is the encoding. -/
def encodingOf? : List (Text × Text) → Option (Option Text)
  | (version, number) :: rest =>
    if version ≠ "version".toList || !isWord number then none
    else
      let (encoding, rest) : Option Text × List (Text × Text) := match rest with
        | (key, value) :: more =>
          if key = "encoding".toList then (some value, more) else (none, rest)
        | [] => (none, [])
      let isRight := encoding.all fun e => isWord e && e.head?.any Char.isAlpha
      match rest with
      | [] => if isRight then some encoding else none
      | [(key, value)] =>
        let isAlone := value = "yes".toList || value = "no".toList
        if isRight && key = "standalone".toList && isAlone then some encoding else none
      | _ => none
  | [] => none

/-- Takes the declaration, if there is one, and answers the encoding that it names. -/
def declaration? (t : Text) : Option (Option Text × Text) :=
  match exactly? "<?xml".toList t with
  | none => some (none, t)
  | some rest =>
    match rest with
    | c :: _ =>
      if isSpace c then do
        let (pairs, after) ← pairs? 4 rest
        let encoding ← encodingOf? pairs
        let rest ← exactly? "?>".toList (skipSpace after)
        return (encoding, rest)
      else some (none, t)
    | [] => none

/-- Why bytes are no document. An encoding may be named that does not exist. -/
inductive XmlFault
  | malformed
  | charset (fault : CharsetFault)
  deriving DecidableEq, Repr

def orMalformed {α : Type} : Option α → Except XmlFault α
  | some a => .ok a
  | none => .error .malformed

def bytewise (codec : Codec) (bytes : Bytes) : Option Text :=
  bytes.mapM fun b =>
    match codec.decode [b] with
    | .ok [c] => some c
    | _ => none

/-- Decodes a document with bytes of eight bits in the encoding that it names. Of an encoding
without a codec only the characters of ASCII are known. -/
def decodeNamed (name : Text) (bytes : Bytes) : Except XmlFault Text :=
  let upper := name.map Char.toUpper
  if upper = "UTF-8".toList then orMalformed (Utf8.decode bytes).toOption
  else if ["UTF-16", "UTF-16LE", "UTF-16BE"].contains (String.ofList upper) then .error .malformed
  else
    let codecs : Charset.Codecs := fun name =>
      (Charset.table.lookup name).getD SingleByte.ascii.codec
    match Charset.codec codecs name .decoding with
    | .ok codec => orMalformed (bytewise codec bytes)
    | .error fault => .error (.charset fault)

def decodeNarrow (bytes : Bytes) : Except XmlFault Text := do
  let latin := bytes.map fun b => Char.ofNat b.toNat
  let (encoding, _) ← orMalformed (declaration? latin)
  let text ← decodeNamed (encoding.getD "UTF-8".toList) bytes
  let (_, rest) ← orMalformed (declaration? text)
  return rest

def decodeWide (order : ByteOrder) (bytes : Bytes) : Except XmlFault Text := do
  let text ← orMalformed (Utf16.decodeFrom order 0 bytes).toOption
  let (encoding, rest) ← orMalformed (declaration? text)
  let own := match order with
    | .little => "UTF-16LE"
    | .big => "UTF-16BE"
  let name := (encoding.getD "UTF-16".toList).map Char.toUpper
  if name = "UTF-16".toList || name = own.toList then return rest else throw .malformed

def decode : Bytes → Except XmlFault Text
  | 0xef :: 0xbb :: 0xbf :: rest => decodeNarrow rest
  | 0xfe :: 0xff :: rest => decodeWide .big rest
  | 0xff :: 0xfe :: rest => decodeWide .little rest
  | 0x00 :: 0x3c :: rest => decodeWide .big (0x00 :: 0x3c :: rest)
  | 0x3c :: 0x00 :: rest => decodeWide .little (0x3c :: 0x00 :: rest)
  | bytes => decodeNarrow bytes

end SourceTidy.Xml
