import SourceTidy.Java.Grammar.Expressions

namespace SourceTidy.Java.Grammar

open Shape Form

def modifier : Form :=
  any
    [phrase .annotationMark, words modifierWords, kw "sealed",
     all [kw "non", touching, sym "-", touching, kw "sealed"]]

def modifiersForm : Form := many modifier

/-- Nothing, unless one of the words follows. -/
def noWord (barred : List String) : Form := notAhead (words barred)

def declaratorNameForm : Form := all [name, maybe (phrase .dimensions)]

def declaratorsForm : Form :=
  commas (all [phrase .declaratorName, maybe (all [sym "=", phrase .initializer])])

def statementType : Form :=
  all
    [noWord (statementWords ++ contextualWords ++
      ["new", "this", "super", "switch", "true", "false", "null"]),
     phrase .plainType]

def localVariableForm : Form :=
  all [phrase .modifiers, statementType, phrase .declarators, sym ";"]

def blockForm : Form := inBraces (many (phrase .statement))

def receiver : Form :=
  all [annotations, phrase .plainType, many (all [nameBut ["this"], sym "."]), kw "this"]

def formalParameterForm : Form :=
  all
    [phrase .modifiers, phrase .plainType,
     any
      [all [annotations, sym "...", annotations, phrase .declaratorName,
        maybe (all [sym "=", phrase .initializer])],
       phrase .declaratorName]]

def formalParametersForm : Form :=
  inParentheses
    (any
      [all [receiver, many (all [sym ",", phrase .formalParameter])],
       maybe (commas (phrase .formalParameter))])

def catchesForm : Form :=
  all
    [kw "catch",
     inParentheses (all [phrase .modifiers, listed (sym "|") (phrase .plainType),
      phrase .declaratorName]),
     phrase .block]

def finallyForm : Form := all [kw "finally", phrase .block]

def resourceForm : Form :=
  any
    [all [phrase .modifiers, phrase .plainType, phrase .declaratorName, sym "=",
      phrase (.expression false)],
     all [any [kw "this", all [kw "super", ahead (sym ".")], nameBut expressionWords],
      many (all [sym ".", name])]]

def tryForm : Form :=
  all
    [kw "try",
     any
      [all [inParentheses (all [listed (sym ";") (phrase .resource), maybe (sym ";")]),
        phrase .block, many (phrase .catches), maybe finallyForm],
       all [phrase .block,
        any [all [some (phrase .catches), maybe finallyForm], finallyForm]]]]

def forForm : Form :=
  all
    [kw "for", sym "(",
     any [phrase .localVariable, all [maybe (commas (phrase (.expression false))), sym ";"]],
     maybe (phrase (.expression false)), sym ";",
     maybe (commas (phrase (.expression false))), sym ")", phrase .statement]

def enhancedForForm : Form :=
  node "enhanced_for_statement"
    (all
      [kw "for",
       inParentheses (all [phrase .modifiers, phrase .plainType, phrase .declaratorName, sym ":",
        phrase (.expression false)]),
       phrase .statement])

def keywordStatement : Form :=
  any
    [all [kw "if", phrase .parenthesized, phrase .statement,
      maybe (all [kw "else", phrase .statement])],
     all [kw "while", phrase .parenthesized, phrase .statement],
     enhancedForForm, forForm, tryForm,
     all [kw "do", phrase .statement, kw "while", phrase .parenthesized, sym ";"],
     all [words ["break", "continue"], maybe name, sym ";"],
     all [kw "return", maybe (phrase (.expression false)), sym ";"],
     all [words ["throw", "yield"], phrase (.expression false), sym ";"],
     all [kw "assert", phrase (.expression false),
      maybe (all [sym ":", phrase (.expression false)]), sym ";"],
     all [kw "switch", phrase .parenthesized, phrase .switchBlock],
     all [kw "synchronized", phrase .parenthesized, phrase .block]]

def statementForm : Form :=
  any
    [sym ";", phrase .block, keywordStatement, phrase .declaration, phrase .localVariable,
     all [nameBut (statementWords ++ expressionWords ++ contextualWords), sym ":",
      phrase .statement],
     all [noWord statementWords, phrase (.expression false), sym ";"]]

end SourceTidy.Java.Grammar
