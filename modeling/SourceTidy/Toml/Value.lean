import SourceTidy.Text.Decimal

namespace SourceTidy.Toml

/-- A value. Dates and times are told apart from other values only. -/
inductive Value
  | text (t : Text)
  | boolean (b : Bool)
  | integer (i : Int)
  | float (d : Double)
  | moment
  | array (items : List Value)
  | table (entries : List (Text × Value))
  deriving Repr, Inhabited

abbrev Table := List (Text × Value)

/-- The keys that lead to a value from the top of a document. -/
abbrev Key := List Text

inductive TomlFault
  | malformed
  /-- An integer has more digits than can be read. -/
  | tooLong (digits : Nat)
  deriving DecidableEq, Repr

namespace Table

def replace (t : Table) (key : Text) (v : Value) : Table :=
  t.map fun e => if e.1 = key then (key, v) else e

/-- Changes the table that a key leads to. Tables that are missing on the way are made, and of an
array of tables the last is meant if `intoArrays`. -/
def alter? (intoArrays : Bool) (f : Table → Option Table) : Key → Table → Option Table
  | [], t => f t
  | k :: key, t =>
    match t.lookup k with
    | none => (alter? intoArrays f key []).map fun inner => t ++ [(k, .table inner)]
    | some (.table inner) =>
    (alter? intoArrays f key inner).map fun inner => t.replace k (.table inner)
    | some (.array items) =>
      match intoArrays, items.getLast? with
      | true, some (.table inner) =>
        (alter? intoArrays f key inner).map fun inner =>
          t.replace k (.array (items.dropLast ++ [.table inner]))
      | _, _ => none
    | some _ => none

def add? (key : Text) (v : Value) (t : Table) : Option Table :=
  if (t.lookup key).isSome then none else some (t ++ [(key, v)])

def append? (key : Text) (t : Table) : Option Table :=
  match t.lookup key with
  | none => some (t ++ [(key, .array [.table []])])
  | some (.array items) => some (t.replace key (.array (items ++ [.table []])))
  | some _ => none

end Table

end SourceTidy.Toml
