import SourceTidy.Text.Digit
import SourceTidy.Text.Space

namespace SourceTidy.Numeral

def maxDigits : Nat := 4300

/-- The digit values of a text in which each low line stands between two digits. -/
def digits? : Text → Option (List Nat)
  | [] => none
  | [c] => (Digit.value? c).map ([·])
  | c :: '_' :: rest => do return (← Digit.value? c) :: (← digits? rest)
  | c :: rest => do return (← Digit.value? c) :: (← digits? rest)

def unsigned? (t : Text) : Option Nat := do
  let ds ← digits? t
  if ds.length ≤ maxDigits then return Digit.number ds else none

/-- The number that a numeral writes, with white space around it and perhaps a sign. -/
def int? (t : Text) : Option Int :=
  match Text.strip t with
  | '-' :: rest => (unsigned? rest).map fun n => -(n : Int)
  | '+' :: rest => (unsigned? rest).map Int.ofNat
  | rest => (unsigned? rest).map Int.ofNat

def ofNat (n : Nat) : String :=
  String.ofList (Nat.toDigits 10 n)

def ofInt (i : Int) : String :=
  if i < 0 then "-" ++ ofNat i.natAbs else ofNat i.natAbs

end SourceTidy.Numeral
