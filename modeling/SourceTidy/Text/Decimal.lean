import SourceTidy.Text.Basic

namespace SourceTidy

/-- The number `mantissa * 10 ^ exponent`, with a sign. -/
structure Decimal where
  isNegative : Bool
  mantissa : Nat
  exponent : Int
  deriving DecidableEq, Repr

/-- A floating-point number: `mantissa * 2 ^ exponent` with a sign, or a number that is not
finite. -/
inductive Double
  | finite (isNegative : Bool) (mantissa : Nat) (exponent : Int)
  | notFinite
  deriving DecidableEq, Repr

namespace Double

/-- The quotient, rounded to the nearest integer. Of two nearest integers the even one is taken. -/
def roundDiv (num den : Nat) : Nat :=
  let q := num / den
  let r := num % den
  if 2 * r < den then q
  else if den < 2 * r then q + 1
  else if q % 2 = 0 then q else q + 1

/-- The numerator and the denominator of `num / den / 2 ^ exponent`. -/
def scaled (num den : Nat) (exponent : Int) : Nat × Nat :=
  if exponent < 0 then (num * Nat.pow 2 exponent.natAbs, den)
  else (num, den * Nat.pow 2 exponent.natAbs)

/-- The exponent with which the quotient of two positive numbers has a mantissa of 53 bits, or the
least exponent. -/
def exponentOf (num den : Nat) : Int :=
  let guess : Int := (num.log2 : Int) - (den.log2 : Int) - 52
  let (n, d) := scaled num den guess
  let exponent := if n < d * Nat.pow 2 52 then guess - 1 else guess
  max exponent (-1074)

def ofQuotient (isNegative : Bool) (num den : Nat) : Double :=
  let exponent := exponentOf num den
  let (n, d) := scaled num den exponent
  let mantissa := roundDiv n d
  if 971 < exponent || (exponent = 971 && mantissa = Nat.pow 2 53) then notFinite
  else finite isNegative mantissa exponent

def toInt? : Double → Option Int
  | notFinite => none
  | finite isNegative mantissa exponent =>
    let size := exponent.natAbs
    let magnitude : Option Nat :=
      if exponent < 0 then
        if mantissa % Nat.pow 2 size = 0 then some (mantissa / Nat.pow 2 size) else none
      else some (mantissa * Nat.pow 2 size)
    magnitude.map fun n => if isNegative then -(n : Int) else (n : Int)

end Double

namespace Decimal

def digitCount (n : Nat) : Nat := (Nat.toDigits 10 n).length

/-- The nearest floating-point number. Sizes far outside of the range are decided without computing
the power. -/
def toDouble (d : Decimal) : Double :=
  let magnitude : Int := d.exponent + digitCount d.mantissa
  if d.mantissa = 0 || magnitude < -400 then .finite d.isNegative 0 0
  else if 400 < magnitude then .notFinite
  else
    if d.exponent < 0 then .ofQuotient d.isNegative d.mantissa (Nat.pow 10 d.exponent.natAbs)
    else .ofQuotient d.isNegative (d.mantissa * Nat.pow 10 d.exponent.natAbs) 1

end Decimal

end SourceTidy
