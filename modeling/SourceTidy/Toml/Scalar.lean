import SourceTidy.Text.Numeral
import SourceTidy.Toml.Value

/-!
Strings, numbers, dates and times. Each reader takes a value from the front of a text and answers it
with what is left.
-/
namespace SourceTidy.Toml

abbrev Read (α : Type) := Text → Except TomlFault (α × Text)

def bad {α : Type} : Except TomlFault α := .error .malformed

def isControl (c : Char) : Bool := c.toNat < 32 || c.toNat = 127

/-- Characters that may not stand in a string or comment of one line. -/
def isBarred (c : Char) : Bool := isControl c && c ≠ '\t'

/-- Characters that may not stand in a string of several lines. -/
def isBarredWide (c : Char) : Bool := isControl c && c ≠ '\t' && c ≠ '\n'

def isBlankOrBreak (c : Char) : Bool := Text.isBlank c || c = '\n'

def literal : Read Text
  | [] => bad
  | '\'' :: rest => .ok ([], rest)
  | c :: rest => do
    if isBarred c then bad
    else
      let (more, rest) ← literal rest
      return (c :: more, rest)

def wideLiteral : Read Text
  | [] => bad
  | '\'' :: '\'' :: '\'' :: rest => .ok ([], rest)
  | c :: rest => do
    if isBarredWide c then bad
    else
      let (more, rest) ← wideLiteral rest
      return (c :: more, rest)

def codePoint (digits : Nat) : Read Text := fun t => do
  match (t.take digits).mapM Digit.hexValue? with
  | some ds =>
    let n := ds.foldl (fun n d => 16 * n + d) 0
    if ds.length = digits && n.isValidChar then return ([Char.ofNat n], t.drop digits) else bad
  | none => bad

def simpleEscapes : List (Char × Char) :=
  [('b', '\x08'), ('t', '\t'), ('n', '\n'), ('f', '\x0c'), ('r', '\r'), ('"', '"'), ('\\', '\\')]

/-- A backslash before a line break takes the break and all white space after it away. -/
def continuation : Read Text := fun t =>
  match t.dropWhile Text.isBlank with
  | [] => .ok ([], [])
  | '\n' :: rest => .ok ([], rest.dropWhile isBlankOrBreak)
  | _ => bad

def escape (isWide : Bool) : Read Text
  | [] => bad
  | c :: rest =>
    if isWide && isBlankOrBreak c then continuation (c :: rest)
    else if c = 'u' then codePoint 4 rest
    else if c = 'U' then codePoint 8 rest
    else
      match simpleEscapes.lookup c with
      | some meant => .ok ([meant], rest)
      | none => bad

/-- A string between quotation marks, single or three together. The fuel bounds its length. -/
def basic (isWide : Bool) : Nat → Read Text
  | 0, _ => bad
  | _ + 1, [] => bad
  | fuel + 1, c :: rest => do
    if c = '"' && (!isWide || ['"', '"'].isPrefixOf rest) then
      return ([], if isWide then rest.drop 2 else rest)
    else if c = '\\' then
      let (front, rest) ← escape isWide rest
      let (more, rest) ← basic isWide fuel rest
      return (front ++ more, rest)
    else if (if isWide then isBarredWide c else isBarred c) then bad
    else
      let (more, rest) ← basic isWide fuel rest
      return (c :: more, rest)

/-- Up to two marks that stand right after the closing marks belong to the string. -/
def takeMarks (mark : Char) (t rest : Text) : Text × Text :=
  let extra := (rest.take 2).takeWhile (· = mark)
  (t ++ extra, rest.drop extra.length)

/-- A line break right after the opening marks does not belong to the string. -/
def dropBreak : Text → Text
  | '\n' :: rest => rest
  | t => t

def string? (t : Text) : Option (Except TomlFault (Text × Text)) :=
  match t with
  | '"' :: '"' :: '"' :: rest =>
    some ((basic true (rest.length + 1) (dropBreak rest)).map fun (t, rest) => takeMarks '"' t rest)
  | '"' :: rest => some (basic false (rest.length + 1) rest)
  | '\'' :: '\'' :: '\'' :: rest =>
    some ((wideLiteral (dropBreak rest)).map fun (t, rest) => takeMarks '\'' t rest)
  | '\'' :: rest => some (literal rest)
  | _ => none

/-! ## Dates and times -/

/-- Takes a number of exactly so many digits. -/
def fixed? (digits : Nat) (t : Text) : Option (Nat × Text) :=
  let front := t.take digits
  if front.length = digits && front.all Char.isDigit then
    some (front.foldl (fun n c => 10 * n + (c.toNat - 48)) 0, t.drop digits)
  else none

def pair? (least most : Nat) (t : Text) : Option (Nat × Text) :=
  (fixed? 2 t).bind fun (n, rest) => if least ≤ n && n ≤ most then some (n, rest) else none

def mark? (c : Char) : Text → Option Text
  | d :: rest => if c = d then some rest else none
  | [] => none

def skipFraction : Text → Text
  | '.' :: d :: rest => if d.isDigit then rest.dropWhile Char.isDigit else '.' :: d :: rest
  | t => t

def time? (t : Text) : Option Text := do
  let (_, t) ← pair? 0 23 t
  let (_, t) ← pair? 0 59 (← mark? ':' t)
  let (_, t) ← pair? 0 59 (← mark? ':' t)
  return skipFraction t

def skipOffset (t : Text) : Text :=
  match t with
  | c :: rest =>
    if c = 'Z' || c = 'z' then rest
    else if c = '+' || c = '-' then
      let after := do
        let (_, rest) ← pair? 0 23 rest
        let (_, rest) ← pair? 0 59 (← mark? ':' rest)
        return rest
      after.getD t
    else t
  | [] => []

def daysIn (year month : Nat) : Nat :=
  if month = 2 then
    if year % 4 = 0 && (year % 100 ≠ 0 || year % 400 = 0) then 29 else 28
  else if [4, 6, 9, 11].contains month then 30
  else 31

/-- Takes a date, perhaps with a time and an offset. A date that does not exist is an error. -/
def date? (t : Text) : Option (Except TomlFault (Value × Text)) := do
  let (year, t) ← fixed? 4 t
  let (month, t) ← pair? 1 12 (← mark? '-' t)
  let (day, t) ← pair? 1 31 (← mark? '-' t)
  let rest := match t with
    | c :: after =>
      if c = 'T' || c = 't' || c = ' ' then ((time? after).map skipOffset).getD t else t
    | [] => []
  return if year = 0 || daysIn year month < day then bad else .ok (.moment, rest)

/-! ## Numbers -/

/-- The digits of a class, with single low lines between them, and what is left. -/
def digits (p : Char → Bool) : Text → Text × Text
  | '_' :: d :: rest =>
    if p d then
      let (more, left) := digits p rest
      (d :: more, left)
    else ([], '_' :: d :: rest)
  | d :: rest =>
    if p d then
      let (more, left) := digits p rest
      (d :: more, left)
    else ([], d :: rest)
  | [] => ([], [])

def digits? (p : Char → Bool) (t : Text) : Option (Text × Text) :=
  if t.head?.any p then some (digits p t) else none

def numberOf (base : Nat) (ds : Text) : Nat :=
  ds.foldl (fun n c => base * n + (Digit.hexValue? c).getD 0) 0

def based? : Text → Option (Value × Text)
  | '0' :: 'x' :: rest =>
    (digits? Digit.isHex rest).map fun (ds, rest) => (.integer (numberOf 16 ds), rest)
  | '0' :: 'b' :: rest =>
    (digits? Digit.isBinary rest).map fun (ds, rest) => (.integer (numberOf 2 ds), rest)
  | '0' :: 'o' :: rest =>
    (digits? Digit.isOctal rest).map fun (ds, rest) => (.integer (numberOf 8 ds), rest)
  | _ => none

def sign : Text → Bool × Text
  | '-' :: rest => (true, rest)
  | '+' :: rest => (false, rest)
  | t => (false, t)

/-- Takes the integer part of a number: zero, or digits that do not start with zero. -/
def whole? : Text → Option (Text × Text)
  | '0' :: rest => some (['0'], rest)
  | t => digits? Char.isDigit t

def fraction : Text → Text × Text
  | '.' :: rest => (digits? Char.isDigit rest).getD ([], '.' :: rest)
  | t => ([], t)

def exponent : Text → Option Int × Text
  | c :: rest =>
    if c = 'e' || c = 'E' then
      let (isNegative, after) := sign rest
      match digits? Char.isDigit after with
      | some (ds, left) =>
        let n : Int := numberOf 10 ds
        (some (if isNegative then -n else n), left)
      | none => (none, c :: rest)
    else (none, c :: rest)
  | [] => (none, [])

def decimal? (t : Text) : Option (Except TomlFault (Value × Text)) := do
  let (isNegative, t) := sign t
  let (ds, t) ← whole? t
  let (fs, t) := fraction t
  let (power, t) := exponent t
  if fs = [] && power.isNone then
    if Numeral.maxDigits < ds.length then return .error (.tooLong ds.length)
    else
      let n : Int := numberOf 10 ds
      return .ok (.integer (if isNegative then -n else n), t)
  else
    return .ok (.float (Decimal.toDouble
      ⟨isNegative, numberOf 10 (ds ++ fs), power.getD 0 - fs.length⟩), t)

def special? (t : Text) : Option (Value × Text) :=
  let (_, rest) := sign t
  if ["inf", "nan"].any fun w => w.toList.isPrefixOf rest then
    some (.float .notFinite, rest.drop 3)
  else none

def scalar (t : Text) : Except TomlFault (Value × Text) :=
  match string? t with
  | some r => r.map fun (s, rest) => (.text s, rest)
  | none =>
    if "true".toList.isPrefixOf t then .ok (.boolean true, t.drop 4)
    else if "false".toList.isPrefixOf t then .ok (.boolean false, t.drop 5)
    else
      match date? t with
      | some r => r
      | none =>
        match time? t with
        | some rest => .ok (.moment, rest)
        | none =>
          match based? t with
          | some r => .ok r
          | none =>
            match decimal? t with
            | some r => r
            | none =>
              match special? t with
              | some r => .ok r
              | none => bad

end SourceTidy.Toml
