import SourceTidy.Java.Node
import SourceTidy.Text.Numeral
import SourceTidy.Text.Quoted

namespace SourceTidy.Java

inductive LevelFault
  | malformed (level : Text)
  | tooLong (digits : Nat)
  deriving DecidableEq, Repr

def LevelFault.message : LevelFault → String
  | malformed level => "invalid source level: " ++ String.ofList (Text.quoted level)
  | tooLong digits =>
    "Exceeds the limit (4300 digits) for integer string conversion: value has " ++
      Numeral.ofNat digits ++ " digits; use sys.set_int_max_str_digits() to increase the limit"

namespace SourceLevel

def dropOne : Text → Text
  | '1' :: '.' :: rest => rest
  | t => t

def ofText (level : Text) : Except LevelFault Nat :=
  let digits := dropOne (Text.strip level)
  match digits.mapM Digit.value? with
  | some (d :: ds) =>
    if (d :: ds).length ≤ Numeral.maxDigits then .ok (Digit.number (d :: ds))
    else .error (.tooLong (d :: ds).length)
  | _ => .error (.malformed level)

end SourceLevel

inductive Construct
  | generics
  | enhancedFor
  | enums
  | lambdas
  | methodReferences
  | textBlocks
  | records
  deriving DecidableEq, Repr

namespace Construct

def minimum : Construct → Nat
  | generics => 5
  | enhancedFor => 5
  | enums => 5
  | lambdas => 8
  | methodReferences => 8
  | textBlocks => 15
  | records => 16

def label : Construct → String
  | generics => "generics"
  | enhancedFor => "enhanced for loops"
  | enums => "enums"
  | lambdas => "lambda expressions"
  | methodReferences => "method references"
  | textBlocks => "text blocks"
  | records => "records"

def kinds : List (String × Construct) :=
  [("type_arguments", generics), ("type_parameters", generics),
   ("enhanced_for_statement", enhancedFor), ("enum_declaration", enums),
   ("lambda_expression", lambdas), ("method_reference", methodReferences),
   ("text_block", textBlocks), ("record_declaration", records)]

/-- The construct that a node is. A string literal that opens with three quotation marks is a text
block. -/
def ofNode? (n : Node) : Option Construct :=
  if n.kind = "string_literal" && ['"', '"', '"'].isPrefixOf n.text then some textBlocks
  else kinds.lookup n.kind

end Construct

structure Anachronism where
  construct : Construct
  row : Nat
  level : Int
  deriving DecidableEq, Repr

def Anachronism.message (a : Anachronism) : String :=
  a.construct.label ++ " require source level " ++ Numeral.ofNat a.construct.minimum ++
    " or later (line " ++ Numeral.ofNat (a.row + 1) ++ ", source level " ++
    Numeral.ofInt a.level ++ ")"

namespace SourceLevel

def anachronism? (level : Int) (n : Node) : Option Anachronism :=
  (Construct.ofNode? n).bind fun c =>
    if level < (c.minimum : Int) then some ⟨c, n.start.row, level⟩ else none

def check (level : Int) (root : Node) : Option Anachronism :=
  root.nodes.findSome? (anachronism? level)

end SourceLevel

end SourceTidy.Java
