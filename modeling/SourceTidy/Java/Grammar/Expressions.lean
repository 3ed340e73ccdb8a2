import SourceTidy.Java.Grammar.Types

/-!
Expressions. Operands and binary operators are read as one flat list, since no rule of the formatter
asks how operators bind.
-/
namespace SourceTidy.Java.Grammar

open Shape Form

def argumentsForm : Form := inParentheses (maybe (commas (phrase (.expression false))))

def parenthesizedForm : Form := inParentheses (phrase (.expression false))

/-- An equals sign that is no part of a longer operator, after greater-than signs. -/
def greaterEquals (n : Nat) : Form := all [greaters n, touching, sym "="]

def assignmentOperatorForm : Form :=
  any
    [any (["=", "+=", "-=", "*=", "/=", "&=", "|=", "^=", "%=", "<<="].map sym),
     greaterEquals 3, greaterEquals 2]

def binaryOperatorForm : Form :=
  any
    [any (["||", "&&", "|", "^", "&", "==", "!=", "<", "<=", "<<", "+", "-", "*", "/",
       "%"].map sym),
     all [any [greaters 3, greaters 2, greaters 1], notAhead (all [touching, sym "="])],
     greaterEquals 1]

def assignment (inLabel : Bool) : Form :=
  maybe (all [phrase .assignmentOperator, phrase (.expression inLabel)])

def memberAccess (inLabel : Bool) : Form :=
  any
    [kw "this",
     phrase .creation,
     all [kw "super", ahead (sym ".")],
     all [phrase .typeArguments, name, phrase .arguments],
     all [nameBut ["this", "super", "new"], any [phrase .arguments, assignment inLabel]],
     token .string]

def primaryTail (inLabel : Bool) : Form :=
  any
    [all [sym ".", memberAccess inLabel],
     all [sym "[", phrase (.expression false), sym "]", assignment inLabel]]

/-- A type where an expression may stand: only a method reference or a class literal goes on from
it. -/
def typeOperand : Form :=
  all [phrase .type, ahead (any [sym "::", all [sym ".", kw "class"]])]

def primaryStart (inLabel : Bool) : Form :=
  any
    [token .literal, token .string, words ["true", "false", "null", "this"],
     all [kw "super", ahead (any [sym ".", sym "::"])],
     phrase .parenthesized,
     phrase .creation,
     typeOperand,
     all [nameBut expressionWords, any [phrase .arguments, assignment inLabel]]]

def primaryForm (inLabel : Bool) : Form :=
  chain (primaryStart inLabel) (primaryTail inLabel) "method_reference"
    (all [sym "::", maybe (phrase .typeArguments), name])

def creationForm : Form :=
  all
    [kw "new", annotations, maybe (all [phrase .typeArguments, annotations]),
     phrase .simpleType,
     any
      [all [phrase .arguments, maybe (phrase .classBody)],
       all [some (all [annotations, sym "[", phrase (.expression false), sym "]"]),
        maybe (phrase .dimensions)],
       all [phrase .dimensions, phrase .arrayInitializer]]]

def initializerForm : Form := any [phrase .arrayInitializer, phrase (.expression false)]

def arrayInitializerForm : Form :=
  inBraces (all [maybe (commas (phrase .initializer)), maybe (sym ",")])

def lambdaForm : Form :=
  node "lambda_expression"
    (all
      [any
        [all [nameBut expressionWords, ahead (sym "->")],
         all [inParentheses (commas (nameBut primitiveTypes)), ahead (sym "->")],
         all [phrase .formalParameters, ahead (sym "->")]],
       sym "->", any [phrase .block, phrase (.expression false)]])

def cast (inLabel : Bool) : Form :=
  all [inParentheses (listed (sym "&") (phrase .type)), phrase (.operand inLabel)]

def operandForm (inLabel : Bool) : Form :=
  all
    [many (any (["++", "--", "+", "-", "!", "~"].map sym)),
     any
      ((if inLabel then [] else [phrase .lambda]) ++
        [all [kw "switch", phrase .parenthesized, phrase .switchBlock],
         cast inLabel,
         all [phrase (.primary inLabel), many (any [sym "++", sym "--"])]])]

def typeTest : Form :=
  all
    [kw "instanceof", maybe (kw "final"),
     any
      [phrase .recordPattern,
       all [phrase .type, maybe (nameBut ["instanceof", "when"])]]]

def expressionForm (inLabel : Bool) : Form :=
  all
    [phrase (.operand inLabel),
     many (any [all [phrase .binaryOperator, phrase (.operand inLabel)], typeTest]),
     maybe (all [sym "?", phrase (.expression false), sym ":", phrase (.expression inLabel)])]

def recordPatternForm : Form :=
  all
    [nameBut primitiveTypes, maybe (phrase .typeArguments),
     inParentheses (maybe (commas
      (any [phrase .recordPattern, all [phrase .plainType, name], kw "_"])))]

def switchLabelForm : Form :=
  any
    [kw "default",
     all
      [kw "case",
       any
        [phrase .recordPattern,
         all [phrase .plainType, nameBut ["instanceof", "when"]],
         commas (phrase (.expression true))],
       maybe (all [kw "when", phrase (.expression true)])]]

/-- The alternatives of a switch, all with arrows or all with colons. -/
def switchBlockForm : Form :=
  any
    [inBraces (many (all [phrase .switchLabel, sym "->",
      any [phrase .block, all [kw "throw", phrase (.expression false), sym ";"],
        all [phrase (.expression false), sym ";"]]])),
     inBraces (many (all [some (all [phrase .switchLabel, sym ":"]),
      many (all [notAhead (words ["case", "default"]), phrase .statement])]))]

end SourceTidy.Java.Grammar
