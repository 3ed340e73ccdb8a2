import SourceTidy.Java.Grammar.Phrase

namespace SourceTidy.Java.Grammar

open Shape Form

def qualifiedNameForm : Form :=
  listed (sym ".") name

def annotations : Form := many (phrase .annotationMark)

/-- An annotation. The word after the sign does not make it the declaration of an annotation
type. -/
def annotationMarkForm : Form :=
  all [sym "@", notAhead (all [touching, kw "interface"]), phrase .qualifiedName,
    maybe (phrase .annotationArguments)]

def annotationArgumentsForm : Form :=
  any
    [inParentheses (maybe (commas (all [name, sym "=", phrase .elementValue]))),
     inParentheses (phrase .elementValue)]

def elementValueForm : Form :=
  any
    [inBraces (all [maybe (commas (phrase .elementValue)), maybe (sym ",")]),
     phrase .annotationMark,
     phrase (.expression false)]

def dimensionsForm : Form :=
  some (all [annotations, sym "[", sym "]"])

def typeArgument : Form :=
  any
    [all [annotations, sym "?",
      maybe (all [words ["extends", "super"], phrase .type])],
     phrase .type]

def typeArgumentsForm : Form :=
  node "type_arguments" (all [sym "<", maybe (commas typeArgument), sym ">"])

def typeParameter : Form :=
  all [annotations, name, maybe (all [kw "extends", listed (sym "&") (phrase .type)])]

def typeParametersForm : Form :=
  node "type_parameters" (all [sym "<", commas typeParameter, sym ">"])

def simpleTypeForm : Form :=
  any
    [words primitiveTypes,
     all [nameBut primitiveTypes, maybe (phrase .typeArguments),
      many (all [sym ".", annotations, nameBut ["class", "this", "super", "new"],
        maybe (phrase .typeArguments)])]]

def plainTypeForm : Form :=
  all [phrase .simpleType, maybe (phrase .dimensions)]

def typeForm : Form :=
  all [annotations, phrase .plainType]

def typeListForm : Form := commas (phrase .type)

end SourceTidy.Java.Grammar
