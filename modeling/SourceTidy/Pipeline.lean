import SourceTidy.Header
import SourceTidy.Log

namespace SourceTidy

structure Conversion where
  decode : Bytes → Except Fault Text
  encode : Text → Except Fault Bytes

namespace Conversion

/-- A fault of a codec. Only one that is tied to a place is a fault of the file. -/
def faultOf (placed : Defect → FileFault) : CodecFault → Fault
  | .malformed defect => .file (placed defect) none
  | .unplaced message => .charset (.unplaced message)

/-- The conversion of a codec that is known by a name. -/
def ofCodec (name : Text) (codec : Codec) : Conversion where
  decode bytes := (codec.decode bytes).mapError (faultOf (.undecodable name))
  encode t := (codec.encode t).mapError (faultOf (.unencodable name))

/-- The conversion of a named encoding. The name is looked up when it is needed, which it is not for
decoding an empty file. -/
def ofName (codecs : Charset.Codecs) (name : Text) : Conversion where
  decode bytes :=
    if bytes = [] && !name.contains '\x00' then .ok []
    else
      match Charset.codec codecs name .decoding with
      | .ok codec => (ofCodec name codec).decode bytes
      | .error fault => .error (.charset fault)
  encode t :=
    match Charset.codec codecs name .encoding with
    | .ok codec => (ofCodec name codec).encode t
    | .error fault => .error (.charset fault)

end Conversion

/-- What the pipeline made of a file, the texts that the formatters were given, and what was
reported. -/
structure Piped where
  result : Except Fault Bytes
  handed : List Text := []
  events : List Event := []

namespace Pipeline

def faultOf (formatter : String) : FormatFault → Fault
  | .rejected cause => .file (.rejected formatter cause) none
  | .divisionByZero => .divisionByZero
  | .crashed => .crashed

def formatAll (config : Configuration) : List Formatter → Text → Except Fault Text × List Text
  | [], t => (.ok t, [])
  | f :: rest, t =>
    match f.format config t with
    | .error fault => (.error (faultOf f.name fault), [t])
    | .ok t' =>
      let more := formatAll config rest t'
      (more.1, t :: more.2)

/-- The header of the run, unless it is empty. -/
def headerOf (config : Configuration) : Option Text :=
  config.header.filter (· != [])

def finish (config : Configuration) (t : Text) : Text :=
  let headed := match headerOf config with
    | some header => Header.insert t header
    | none => t
  Text.normalizeBreaks config.lineSeparator headed

def headerEvents (config : Configuration) (t : Text) : List Event :=
  match (headerOf config).bind (Header.replaced? t) with
  | some region => [.replacingHeader region.length]
  | none => []

def apply (conversion : Conversion) (config : Configuration) (formatters : List Formatter)
    (content : Bytes) : Piped :=
  match conversion.decode content with
  | .error fault => ⟨.error fault, [], []⟩
  | .ok t =>
    match formatAll config formatters t with
    | (.error fault, handed) => ⟨.error fault, handed, []⟩
    | (.ok formatted, handed) =>
      ⟨conversion.encode (finish config formatted), handed, headerEvents config formatted⟩

end Pipeline

end SourceTidy
