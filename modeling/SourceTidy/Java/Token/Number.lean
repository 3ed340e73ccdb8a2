import SourceTidy.Text.Basic
import SourceTidy.Text.Digit

/-!
Number literals. Each form reads a literal from the front of a text and answers what is left. The
form that leaves the least is the one that holds.
-/
namespace SourceTidy.Java.Number

def one (p : Char → Bool) : Text → Option Text
  | [] => none
  | c :: rest => if p c then some rest else none

def run (p : Char → Bool) : Text → Option Text
  | [] => none
  | c :: rest => if p c then some (rest.dropWhile p) else none

def maybe (form : Text → Option Text) (t : Text) : Option Text :=
  some ((form t).getD t)

def both (first second : Text → Option Text) (t : Text) : Option Text :=
  (first t).bind second

def groups (wide : Bool) (p : Char → Bool) : Nat → Text → Text
  | 0, t => t
  | fuel + 1, '_' :: rest =>
    match run p (if wide then rest.dropWhile (· = '_') else rest) with
    | some after => groups wide p fuel after
    | none => '_' :: rest
  | _ + 1, t => t

def grouped (wide : Bool) (p : Char → Bool) (t : Text) : Option Text :=
  (run p t).map fun rest => groups wide p rest.length rest

def isLong (c : Char) : Bool := c = 'l' || c = 'L'

def isFloat (c : Char) : Bool := ['f', 'F', 'd', 'D'].contains c

def sign : Text → Option Text := one fun c => c = '-' || c = '+'

/-- Zero, or digits that do not start with zero. -/
def plain : Text → Option Text
  | '0' :: rest => some rest
  | c :: rest =>
    if c.isDigit then
      maybe (both (maybe (one (· = '_'))) (grouped true Char.isDigit)) rest
    else none
  | [] => none

def digits : Text → Option Text := grouped false Char.isDigit

def exponent : Text → Option Text :=
  both (one fun c => c = 'e' || c = 'E') (both (maybe sign) digits)

def point : Text → Option Text := one (· = '.')

def base (lower upper : Char) : Text → Option Text :=
  both (one (· = '0')) (one fun c => c = lower || c = upper)

def hexDigits : Text → Option Text := grouped false Digit.isHex

def hexPower : Text → Option Text :=
  both (one fun c => c = 'p' || c = 'P') (both (maybe sign) (both plain (maybe (one isFloat))))

def forms : List (Text → Option Text) :=
  [both plain (maybe (one isLong)),
   both (base 'x' 'X') (both hexDigits (maybe (one isLong))),
   both (one (· = '0')) (both (grouped false Digit.isOctal) (maybe (one isLong))),
   both (base 'o' 'O') (both (grouped false Digit.isOctal) (maybe (one isLong))),
   both (base 'b' 'B') (both (grouped false Digit.isBinary) (maybe (one isLong))),
   both digits (both point (both (maybe digits) (both (maybe exponent) (maybe (one isFloat))))),
   both point (both digits (both (maybe exponent) (maybe (one isFloat)))),
   both plain (both exponent (maybe (one isFloat))),
   both plain (both (maybe exponent) (one isFloat)),
   both (base 'x' 'X') (both hexDigits (both (maybe point) (maybe hexPower))),
   both (base 'x' 'X') (both (maybe hexDigits) (both point (both hexDigits (maybe hexPower))))]

/-- The length of the number literal at the front of a text, zero if there is none. -/
def length (t : Text) : Nat :=
  (forms.map fun form => t.length - ((form t).getD t).length).foldl max 0

end SourceTidy.Java.Number
