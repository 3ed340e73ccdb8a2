import SourceTidy.Codec.Utf8
import SourceTidy.Path
import SourceTidy.Text.Digit

namespace SourceTidy

namespace Utf8

def replacement : Char := '\ufffd'

/-- How many bytes at the start belong to the character that cannot be completed. -/
def defectLength : Bytes → Nat
  | b :: b1 :: rest =>
    if b < 0xe0 || 0xf5 ≤ b || !admitsSecond b b1 then 1
    else
      match rest with
      | b2 :: _ => if 0xf0 ≤ b && isContinuation b2 then 3 else 2
      | [] => 2
  | _ => 1

/-- Decodes with a replacement character for each ill-formed part. `skip` bytes belong to a part
that has been replaced or decoded already. -/
def decodeLossyFrom : Nat → Bytes → Text
  | _, [] => []
  | skip + 1, _ :: rest => decodeLossyFrom skip rest
  | 0, b :: rest =>
    let width := if b < 0x80 then 1 else if b < 0xe0 then 2 else if b < 0xf0 then 3 else 4
    match decode ((b :: rest).take width) with
    | .ok [c] => c :: decodeLossyFrom (width - 1) rest
    | _ => replacement :: decodeLossyFrom (defectLength (b :: rest) - 1) rest

def decodeLossy (bytes : Bytes) : Text :=
  decodeLossyFrom 0 bytes

end Utf8

namespace FileUrl

/-- The bytes of an ASCII text in which a percent sign with two digits writes a byte. -/
def percentBytes : Text → Bytes
  | [] => []
  | '%' :: a :: b :: rest =>
    match Digit.hexValue? a, Digit.hexValue? b with
    | some x, some y => (16 * x + y).toUInt8 :: percentBytes rest
    | _, _ => '%'.toNat.toUInt8 :: percentBytes (a :: b :: rest)
  | c :: rest => c.toNat.toUInt8 :: percentBytes rest

/-- Percent-decodes each longest run of ASCII characters. Other characters stay. `run` is the run
that is being read, reversed. -/
def percentDecodeFrom (run : Text) : Text → Text
  | [] => Utf8.decodeLossy (percentBytes run.reverse)
  | c :: rest =>
    if c.toNat < 0x80 then percentDecodeFrom (c :: run) rest
    else Utf8.decodeLossy (percentBytes run.reverse) ++ c :: percentDecodeFrom [] rest

def percentDecode (t : Text) : Text :=
  percentDecodeFrom [] t

inductive UrlFault
  | bracket
  | disguise (host : Text)
  deriving DecidableEq, Repr

def UrlFault.message : UrlFault → String
  | bracket => "Invalid IPv6 URL"
  | disguise host =>
    "netloc '" ++ String.ofList host ++ "' contains invalid characters under NFKC normalization"

/-- Characters beyond ASCII whose compatibility form holds one of the five delimiters `/?#@:`. -/
def disguises : List Nat :=
  [0x2047, 0x2048, 0x2049, 0x2100, 0x2101, 0x2105, 0x2106, 0x2a74, 0xfe13, 0xfe16, 0xfe55, 0xfe56,
   0xfe5f, 0xfe6b, 0xff03, 0xff0f, 0xff1a, 0xff1f, 0xff20]

def isDisguise (c : Char) : Bool :=
  disguises.contains c.toNat

structure Split where
  scheme : Text
  path : Text
  deriving DecidableEq, Repr

def isSchemeChar (c : Char) : Bool :=
  c.isAlphanum || c = '+' || c = '-' || c = '.'

def splitScheme (t : Text) : Text × Text :=
  let front := t.takeWhile (· != ':')
  match t.dropWhile (· != ':'), front with
  | _ :: rest, first :: _ =>
    if first.isAlpha && front.all isSchemeChar then (Text.lowerAscii front, rest) else ([], t)
  | _, _ => ([], t)

/-- What follows a host. A host with one bracket only is refused, and so is one that holds a
delimiter in disguise. -/
def dropHost : Text → Except UrlFault Text
  | '/' :: '/' :: rest =>
    let ends := fun c => c = '/' || c = '?' || c = '#'
    let host := rest.takeWhile fun c => !ends c
    if host.contains '[' != host.contains ']' then .error .bracket
    else if host.any isDisguise then .error (.disguise host)
    else .ok (rest.dropWhile fun c => !ends c)
  | t => .ok t

/-- Control characters and blanks at the start do not count, nor do tabs and line ends anywhere. -/
def split (location : Text) : Except UrlFault Split := do
  let cleaned := (location.dropWhile (·.toNat ≤ 0x20)).filter
    fun c => c != '\t' && c != '\r' && c != '\n'
  let (scheme, rest) := splitScheme cleaned
  let afterHost ← dropHost rest
  return ⟨scheme, (afterHost.takeWhile (· != '#')).takeWhile (· != '?')⟩

def toPath (location : Text) : Except UrlFault Path := do
  let parts ← split location
  if parts.scheme = ['f', 'i', 'l', 'e'] then return Path.ofText (percentDecode parts.path)
  else return Path.ofText location

end FileUrl

end SourceTidy
