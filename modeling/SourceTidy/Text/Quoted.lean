import SourceTidy.Text.Basic
import SourceTidy.Text.Printable

namespace SourceTidy.Text

/-- The last `k` hexadecimal digits of a number, before those of `acc`. -/
def hexDigits : Nat → Nat → List Char → List Char
  | 0, _, acc => acc
  | k + 1, n, acc => hexDigits k (n / 16) (Nat.digitChar (n % 16) :: acc)

def hex (k n : Nat) : Text :=
  hexDigits k n []

def escape (mark c : Char) : Text :=
  if c = '\\' || c = mark then ['\\', c]
  else if c = '\n' then ['\\', 'n']
  else if c = '\r' then ['\\', 'r']
  else if c = '\t' then ['\\', 't']
  else if Printable.isPrintable c then [c]
  else if c.toNat < 0x100 then '\\' :: 'x' :: hex 2 c.toNat
  else if c.toNat < 0x10000 then '\\' :: 'u' :: hex 4 c.toNat
  else '\\' :: 'U' :: hex 8 c.toNat

def quoteMark (t : Text) : Char :=
  if t.contains '\'' && !t.contains '"' then '"' else '\''

def quoted (t : Text) : Text :=
  let mark := quoteMark t
  mark :: t.flatMap (escape mark) ++ [mark]

end SourceTidy.Text
