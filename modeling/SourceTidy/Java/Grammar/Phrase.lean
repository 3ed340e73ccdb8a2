import SourceTidy.Java.Grammar.Shape

/-!
The phrases of the Java grammar, and the words that are keywords at a place.

A word is a name wherever the grammar has no keyword of that spelling, so a keyword is barred only
where it could stand.
-/
namespace SourceTidy.Java.Grammar

/-- The named parts of a source. An expression inside the label of a switch may not be a lambda
expression, since an arrow there ends the label. -/
inductive Phrase
  -- types
  | qualifiedName
  | annotationMark
  | annotationArguments
  | elementValue
  | dimensions
  | typeArguments
  | typeParameters
  | simpleType
  | plainType
  | type
  | typeList
  -- expressions
  | expression (inLabel : Bool)
  | operand (inLabel : Bool)
  | primary (inLabel : Bool)
  | creation
  | arguments
  | initializer
  | arrayInitializer
  | parenthesized
  | lambda
  | binaryOperator
  | assignmentOperator
  | switchBlock
  | switchLabel
  | recordPattern
  -- statements
  | statement
  | block
  | localVariable
  | declarators
  | declaratorName
  | modifiers
  | formalParameters
  | formalParameter
  | catches
  | resource
  -- declarations
  | declaration
  | typeDeclaration (withRecords : Bool)
  | method
  | classBody
  | member
  | constructorBody
  | interfaceBody
  | enumBody
  | annotationBody
  | moduleDirective
  | program
  deriving DecidableEq, Repr

abbrev Form := Shape Phrase

namespace Form

def sym (text : String) : Form := .token (.symbol text)

def kw (text : String) : Form := .token (.keyword text)

/-- A name that none of these keywords takes the place of. -/
def nameBut (barred : List String) : Form := .token (.name barred)

def name : Form := nameBut ["instanceof"]

def words (texts : List String) : Form := .any (texts.map kw)

def commas (item : Form) : Form := .listed (sym ",") item

def inParentheses (s : Form) : Form := .all [sym "(", s, sym ")"]

def inBraces (s : Form) : Form := .all [sym "\x7b", s, sym "\x7d"]

/-- One or more greater-than signs that touch each other. -/
def greaters : Nat → Form
  | 0 => .empty
  | 1 => sym ">"
  | n + 1 => .all [greaters n, .touching, sym ">"]

end Form

def primitiveTypes : List String :=
  ["byte", "short", "int", "long", "char", "float", "double", "boolean", "void"]

def expressionWords : List String :=
  primitiveTypes ++ ["new", "this", "super", "switch", "true", "false", "null", "instanceof"]

def modifierWords : List String :=
  ["public", "protected", "private", "abstract", "static", "final", "strictfp", "default",
   "synchronized", "native", "transient", "volatile"]

def statementWords : List String :=
  modifierWords ++
  ["if", "while", "for", "do", "break", "continue", "return", "try", "throw", "assert", "class",
   "interface", "enum", "package", "import"]

/-- Words that are names in expressions, but do not name types where a statement starts. -/
def contextualWords : List String :=
  ["open", "module", "record", "with", "sealed", "yield"]

def memberWords : List String :=
  modifierWords ++ ["class", "interface", "enum", "record", "sealed"]

end SourceTidy.Java.Grammar
