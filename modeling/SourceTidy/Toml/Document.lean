import SourceTidy.Codec.Utf8
import SourceTidy.Toml.Scalar

/-!
TOML documents. A document is a list of statements: pairs of a key and a value, and headers, which
open a table that the following pairs belong to.

Besides its table, a document keeps the keys that no header may open again, and the keys whose
values are complete, so that nothing may be added below them.
-/
namespace SourceTidy.Toml

def skipBlanks (t : Text) : Text := t.dropWhile Text.isBlank

def skipComment : Text → Except TomlFault Text
  | '#' :: rest =>
    let comment := rest.takeWhile (· ≠ '\n')
    if comment.any isBarred then bad else .ok (rest.drop comment.length)
  | t => .ok t

def skipSpace : Nat → Text → Except TomlFault Text
  | 0, t => .ok t
  | fuel + 1, t => do
    let rest ← skipComment (t.dropWhile isBlankOrBreak)
    if rest.length = t.length then return rest else skipSpace fuel rest

def isBare (c : Char) : Bool := c.isAlphanum || c = '-' || c = '_'

def keyPart : Read Text
  | '\'' :: rest => literal rest
  | '"' :: rest => basic false (rest.length + 1) rest
  | t =>
    match t.takeWhile isBare with
    | [] => bad
    | part => .ok (part, t.drop part.length)

def keyParts : Nat → Read Key
  | 0, _ => bad
  | fuel + 1, t => do
    let (part, rest) ← keyPart t
    match skipBlanks rest with
    | '.' :: rest =>
      let (more, rest) ← keyParts fuel (skipBlanks rest)
      return (part :: more, rest)
    | rest => return ([part], rest)

def key : Read Key := fun t => keyParts (t.length + 1) t

/-- Whether a key is one of some keys or leads on from one. -/
def isBelow (keys : List Key) (k : Key) : Bool := keys.any (·.isPrefixOf k)

/-- A value that holds other values is complete where it is written. -/
def isCompound : Value → Bool
  | .array _ => true
  | .table _ => true
  | _ => false

def orBad {α : Type} : Option α → Except TomlFault α
  | some a => .ok a
  | none => bad

mutual

def value : Nat → Read Value
  | 0, _ => bad
  | fuel + 1, t =>
    match t with
    | '[' :: rest => do
      let rest ← skipSpace rest.length rest
      let (items, rest) ← items fuel rest
      return (.array items, rest)
    | '\x7b' :: rest =>
      match skipBlanks rest with
      | '\x7d' :: rest => .ok (.table [], rest)
      | rest => (pairs fuel [] [] rest).map fun (table, rest) => (.table table, rest)
    | t => scalar t

def items : Nat → Read (List Value)
  | 0, _ => bad
  | fuel + 1, t =>
    match t with
    | ']' :: rest => .ok ([], rest)
    | t => do
      let (v, rest) ← value fuel t
      match ← skipSpace rest.length rest with
      | ']' :: rest => return ([v], rest)
      | ',' :: rest =>
        let (more, rest) ← items fuel (← skipSpace rest.length rest)
        return (v :: more, rest)
      | _ => bad

/-- The rest of an inline table, of which some pairs are read. -/
def pairs : Nat → Table → List Key → Read Table
  | 0, _, _, _ => bad
  | fuel + 1, table, complete, t => do
    let (k, rest) ← key t
    match rest with
    | '=' :: rest =>
      let (v, rest) ← value fuel (skipBlanks rest)
      if isBelow complete k then bad
      else
        let table ← orBad (Table.alter? false (Table.add? (k.getLastD []) v) k.dropLast table)
        match skipBlanks rest with
        | '\x7d' :: rest => return (table, rest)
        | ',' :: rest =>
          pairs fuel table (if isCompound v then k :: complete else complete) (skipBlanks rest)
        | _ => bad
    | _ => bad

end

structure Document where
  table : Table
  /-- The key of the last header. -/
  header : Key
  /-- Keys that no header may open. -/
  closed : List Key
  /-- Keys that are closed from the next header on. -/
  closing : List Key
  /-- Keys with a complete value. -/
  complete : List Key

namespace Document

def empty : Document := ⟨[], [], [], [], []⟩

/-- The tables that a key of several parts leads through, from the header on. -/
def passed (header k : Key) : List Key :=
  (List.range (k.length - 1)).map fun i => header ++ k.take (i + 1)

def addPair (d : Document) (k : Key) (v : Value) : Except TomlFault Document := do
  let ways := passed d.header k
  let parent := d.header ++ k.dropLast
  if ways.any d.closed.contains || isBelow d.complete parent then bad
  else
    let table ← orBad (Table.alter? true (Table.add? (k.getLastD []) v) parent d.table)
    return { d with
      table
      closing := ways ++ d.closing
      complete := if isCompound v then (d.header ++ k) :: d.complete else d.complete }

def openTable (d : Document) (k : Key) : Except TomlFault Document := do
  let closed := d.closing ++ d.closed
  if closed.contains k || isBelow d.complete k then bad
  else
    let table ← orBad (Table.alter? true some k d.table)
    return { d with table, header := k, closed := k :: closed, closing := [] }

/-- Opens a new table at the end of an array. Below it all keys are free again. -/
def openItem (d : Document) (k : Key) : Except TomlFault Document := do
  let closed := d.closing ++ d.closed
  if isBelow d.complete k then bad
  else
    let table ← orBad (Table.alter? true (Table.append? (k.getLastD [])) k.dropLast d.table)
    return { d with
      table
      header := k
      closed := k :: closed.filter fun c => !k.isPrefixOf c
      closing := []
      complete := d.complete.filter fun c => !k.isPrefixOf c }

def statement (d : Document) : Text → Except TomlFault (Document × Text)
  | '[' :: '[' :: rest => do
    let (k, rest) ← key (skipBlanks rest)
    let d ← d.openItem k
    match rest with
    | ']' :: ']' :: rest => return (d, rest)
    | _ => bad
  | '[' :: rest => do
    let (k, rest) ← key (skipBlanks rest)
    let d ← d.openTable k
    match rest with
    | ']' :: rest => return (d, rest)
    | _ => bad
  | '#' :: rest => .ok (d, '#' :: rest)
  | t => do
    let (k, rest) ← key t
    match rest with
    | '=' :: rest =>
      let (v, rest) ← value (4 * rest.length + 4) (skipBlanks rest)
      return (← d.addPair k v, rest)
    | _ => bad

def lines : Nat → Document → Text → Except TomlFault Document
  | 0, _, _ => bad
  | fuel + 1, d, t =>
    match skipBlanks t with
    | [] => .ok d
    | '\n' :: rest => lines fuel d rest
    | t => do
      let (d, rest) ← d.statement t
      match ← skipComment (skipBlanks rest) with
      | [] => return d
      | '\n' :: rest => lines fuel d rest
      | _ => bad

end Document

/-- A carriage return before a line feed does not count. -/
def dropReturns : Text → Text
  | '\r' :: '\n' :: rest => '\n' :: dropReturns rest
  | c :: rest => c :: dropReturns rest
  | [] => []

def read (t : Text) : Except TomlFault Table :=
  let t := dropReturns t
  (Document.lines (t.length + 1) .empty t).map (·.table)

end SourceTidy.Toml
