import SourceTidy.Fault
import SourceTidy.Text.Decimal

namespace SourceTidy.Project

def maxNumeralLength : Nat := 4300

def isAround (c : Char) : Bool :=
  Text.isSpace c && !(0x1c ≤ c.toNat && c.toNat ≤ 0x1f)

def dropZeroFraction (t : Text) : Text :=
  let whole := t.takeWhile (· ≠ '.')
  match t.drop whole.length with
  | _ :: zeros => if zeros.all (· = '0') then whole else t
  | [] => t

/-- The number that digits write. Each low line stands between two digits. -/
def digits? : Text → Option Nat → Option Nat
  | [], n => n
  | '_' :: d :: rest, some n =>
    if d.isDigit then digits? rest (some (10 * n + (d.toNat - 48))) else none
  | d :: rest, n => if d.isDigit then digits? rest (some (10 * n.getD 0 + (d.toNat - 48))) else none

def integerOfText (t : Text) : Except ProblemKind Int :=
  if maxNumeralLength < t.foldl (fun n c => n + c.utf8Size) 0 then .error .tooLarge
  else
    let (isNegative, rest) : Bool × Text :=
      match dropZeroFraction (Text.trim isAround t) with
      | '-' :: rest => (true, rest)
      | '+' :: rest => (false, rest)
      | rest => (false, rest)
    match digits? rest none with
    | some n => .ok (if isNegative then -(n : Int) else (n : Int))
    | none => .error .notNumeral

/-- The integer that a floating-point number is. It must be within the range of 64 bits. -/
def integerOfDouble (d : Double) : Except ProblemKind Int :=
  match d, d.toInt? with
  | .notFinite, _ => .error .notFinite
  | _, none => .error .fraction
  | _, some n => if n.natAbs < Nat.pow 2 63 then .ok n else .error .tooLarge

end SourceTidy.Project
