import SourceTidy.Java.Token.Number

/-!
Quoted literals: characters, strings and text blocks. Each function reads the text after the opening
mark and answers the number of characters through the closing mark, or nothing if the literal is not
closed or holds an escape that does not exist.
-/
namespace SourceTidy.Java.Quotation

def countUpTo (p : Char → Bool) (most : Nat) (t : Text) : Nat :=
  ((t.take most).takeWhile p).length

/-- The number of characters of an escape, given the text after its backslash. -/
def escapeLength : Text → Option Nat
  | [] => none
  | 'x' :: rest => if countUpTo Digit.isHex 2 rest = 2 then some 3 else none
  | 'u' :: '\x7b' :: rest =>
    let inner := rest.takeWhile Digit.isHex
    if inner ≠ [] && (rest.drop inner.length).head? = some '\x7d' then some (inner.length + 3)
    else none
  | 'u' :: rest => if countUpTo Digit.isHex 4 rest = 4 then some 5 else none
  | c :: rest => if Digit.isOctal c then some (1 + countUpTo Digit.isOctal 2 rest) else some 1

/-- The characters through the closing mark of a character literal, whose content may not be empty
or go on over a line break. -/
def character (isFirst : Bool) : Text → Option Nat
  | [] => none
  | '\'' :: _ => if isFirst then none else some 1
  | '\n' :: _ => none
  | '\\' :: rest =>
    match escapeLength rest with
    | none => none
    | some n => (character false (rest.drop n)).map (· + (n + 1))
  | _ :: rest => (character false rest).map (· + 1)
termination_by t => t.length
decreasing_by
  · simp only [List.length_drop, List.length_cons]
    omega
  · simp

/-- The characters through the closing mark of a string literal, which may go on over line
breaks. -/
def string : Text → Option Nat
  | [] => none
  | '"' :: _ => some 1
  | '\\' :: rest =>
    match escapeLength rest with
    | none => none
    | some n => (string (rest.drop n)).map (· + (n + 1))
  | _ :: rest => (string rest).map (· + 1)
termination_by t => t.length
decreasing_by
  · simp only [List.length_drop, List.length_cons]
    omega
  · simp

/-- The characters through the closing marks of a text block. A backslash takes any character with
it. -/
def block : Text → Option Nat
  | [] => none
  | '"' :: '"' :: '"' :: _ => some 3
  | ['\\'] => none
  | '\\' :: _ :: rest => (block rest).map (· + 2)
  | _ :: rest => (block rest).map (· + 1)

def comment : Text → Option Nat
  | [] => none
  | '*' :: '/' :: _ => some 2
  | _ :: rest => (comment rest).map (· + 1)

end SourceTidy.Java.Quotation
