import SourceTidy.Java.Letter
import SourceTidy.Java.Node
import SourceTidy.Java.Token.Quotation

/-!
Tokens of Java sources.

A greater-than sign is always a token of its own, because two of them may close two lists of type
arguments. Operators that are written with several are put together by the grammar, which asks
whether a token touches the one before it. Words are not told apart here: what is a keyword depends
on the place.
-/
namespace SourceTidy.Java

inductive TokenKind
  | word
  | number
  | character
  | string
  | symbol
  /-- Text that is part of no token. -/
  | stray
  deriving DecidableEq, Repr

/-- A token. It touches the token before it if nothing stands between them. -/
structure Token where
  kind : TokenKind
  text : Text
  start : Position
  stop : Position
  touches : Bool
  deriving Repr

namespace Token

def isBlank (c : Char) : Bool :=
  [' ', '\t', '\n', '\x0b', '\x0c', '\r'].contains c

def longSymbols : List Text :=
  ["<<=", "...", "->", "::", "++", "--", "&&", "||", "==", "!=", "<=", "<<", "+=", "-=", "*=", "/=",
   "&=", "|=", "^=", "%="].map String.toList

def shortSymbols : List Char :=
  "()[];,.@=<>!~?:+-*/&|^%\x7b\x7d".toList

/-- The symbol at the front of a text, as its length. -/
def symbolLength (t : Text) : Option Nat :=
  match longSymbols.find? (·.isPrefixOf t) with
  | some s => some s.length
  | none => if t.head?.any shortSymbols.contains then some 1 else none

/-- A literal that is closed, or all of the rest as stray text. -/
def closed (kind : TokenKind) (marks : Nat) (length : Option Nat) (t : Text) :
    Option TokenKind × Nat :=
  match length with
  | some n => (some kind, marks + n)
  | none => (some .stray, t.length)

/-- What stands at the front of a text: a kind of token, or white space or a comment, and its
length. -/
def front : Text → Option TokenKind × Nat
  | [] => (none, 0)
  | '/' :: '/' :: rest => (none, 2 + (rest.takeWhile (· ≠ '\n')).length)
  | '/' :: '*' :: rest =>
    match Quotation.comment rest with
    | some n => (none, 2 + n)
    | none => (some .stray, 2 + rest.length)
  | '"' :: '"' :: '"' :: rest => closed .string 3 (Quotation.block rest) ('"' :: '"' :: '"' :: rest)
  | '"' :: rest => closed .string 1 (Quotation.string rest) ('"' :: rest)
  | '\'' :: rest => closed .character 1 (Quotation.character true rest) ('\'' :: rest)
  | c :: rest =>
    if isBlank c then (none, 1)
    else if Letter.isStart c then (some .word, 1 + (rest.takeWhile Letter.isContinue).length)
    else
      match Number.length (c :: rest) with
      | n + 1 => (some .number, n + 1)
      | 0 =>
        match symbolLength (c :: rest) with
        | some n => (some .symbol, n)
        | none => (some .stray, 1)

def advance (p : Position) (t : Text) : Position :=
  t.foldl (fun p c => if c = '\n' then ⟨p.row + 1, 0⟩ else ⟨p.row, p.column + 1⟩) p

/-- The tokens of a text that starts at a place. Every step takes at least one character. -/
def scanFrom (place : Position) (touches : Bool) (t : Text) : List Token :=
  match t with
  | [] => []
  | c :: rest =>
    let (kind, length) := front (c :: rest)
    let more := length - 1
    let text := c :: rest.take more
    let stop := advance place text
    match kind with
    | some kind => ⟨kind, text, place, stop, touches⟩ :: scanFrom stop true (rest.drop more)
    | none => scanFrom stop false (rest.drop more)
termination_by t.length
decreasing_by
  all_goals
    simp only [List.length_drop, List.length_cons]
    omega

/-- The tokens of a source. A byte order mark at its start is no part of it. -/
def scan : Text → List Token
  | '\ufeff' :: rest => scanFrom ⟨0, 0⟩ false rest
  | t => scanFrom ⟨0, 0⟩ false t

end Token

end SourceTidy.Java
